import AS4.BusinessDocument
import AS4.EnvelopeModel
import AS4.RoundTrips

/-!
What every record of the library comes back as when its element is read: itself,
with its times cut to whole milliseconds, where no byte field is left out of
account. The bytes of a `BinaryText` are: they are required, and written as `str`
of the bytes.
-/

namespace RecordRoundTrips
open ElementTree ElementCodec ElementCodec.Codec PythonData AS4Libraries SignatureModel EncryptionModel MessagingModel
  EnvelopeModel BusinessDocument RoundTrips

section Scalars

/-- A time as its text shows it. -/
def wholeMilliseconds (time : Datetime) : Datetime := ⟨time.microseconds - time.microseconds % 1000⟩

theorem reads_string {scalar : Scalar String} (kept : scalar.encode = id) {value : String}
    (decoded : scalar.decode value = .ok value) (tidy : value ≠ "" ∧ strip value = value) :
    ReadsPrinted scalar value value := by
  constructor <;> simp [kept, decoded, tidy.1, tidy.2]

def strings : Printing Scalar.string where
  tidy value := value ≠ "" ∧ strip value = value
  kept := id
  reads := reads_string rfl rfl

def langs : Printing { Scalar.string with alternative := [.key "str"] } where
  tidy value := value ≠ "" ∧ strip value = value
  kept := id
  reads := reads_string rfl rfl

def nonEmptyStrings : Printing nonEmptyString where
  tidy value := value ≠ "" ∧ strip value = value
  kept := id
  reads tidy := reads_string rfl (by simp [nonEmptyString, tidy.1]) tidy

def flags : Printing boolScalar where
  tidy _ := True
  kept := id
  reads {value} _ :=
    { solid := by cases value <;> simp [boolScalar]
      trimmed := by cases value <;> simp [boolScalar, strip, stripChars, ← String.toList_inj] <;> decide
      decoded := boolScalar_rereads value }

/-- The bytes of an optional field, which are written in Base64. -/
def encodedBytes : Printing ⟨decodeBase64Bytes, Base64.b64encode, "Input should be a valid bytes", []⟩ where
  tidy value := value ≠ []
  kept := id
  reads {value} solid :=
    { solid := fun empty => solid (Base64.b64encode_eq_empty.mp empty)
      trimmed := Base64.strip_b64encode value
      decoded := decodeBase64Bytes_b64encode value }

/-- Times that are read from their text as the instant it shows. -/
def times [Libraries] : Printing datetimeScalar where
  tidy time := ReadsPrinted datetimeScalar time (wholeMilliseconds time)
  kept := wholeMilliseconds
  reads := id

/-- Numbers that are read from their digits. -/
def numbers [Libraries] : Printing intScalar where
  tidy number := ReadsPrinted intScalar number number
  kept := id
  reads := id

end Scalars

section Signatures

def Transform.trip : RoundTrip Transform.codec :=
  .record (.withWildcard (.optionalAttribute strings))

def Transforms.trip : RoundTrip Transforms.codec :=
  .record (.many Transform.trip)

def DigestMethod.trip : RoundTrip DigestMethod.codec :=
  .record (.requiredAttribute strings)

def DigestValue.trip : RoundTrip DigestValue.codec :=
  .record (.requiredText strings)

def DsigReference.trip : RoundTrip DsigReference.codec :=
  .record (.pair (.singular Transforms.trip)
      (.pair (.singular DigestMethod.trip)
        (.pair (.singular DigestValue.trip)
          (.pair (.optionalAttribute strings)
            (.pair (.optionalAttribute strings) (.optionalAttribute strings))))))

def WsseReference.trip : RoundTrip WsseReference.codec :=
  .record (.withWildcard (.pair (.optionalAttribute strings) (.optionalAttribute strings)))

def SecurityTokenReference.trip : RoundTrip SecurityTokenReference.codec :=
  .record (.withWildcard (.pair (.optionalAttribute strings)
        (.pair .attributeOrEmpty
          (.pair (.singular WsseReference.trip) (.optionalAttribute strings)))))

def BinaryText.trip : RoundTrip BinaryText.codec :=
  .record (.leftOut _)

def KeyName.trip : RoundTrip KeyName.codec :=
  .record (.requiredText strings)

def KeyValue.trip : RoundTrip KeyValue.codec :=
  .record (.withWildcard .nothing)

def RetrievalMethod.trip : RoundTrip RetrievalMethod.codec :=
  .record (.pair (.many Transforms.trip)
      (.pair (.optionalAttribute strings) (.optionalAttribute strings)))

def X509IssuerSerial.trip [Libraries] : RoundTrip X509IssuerSerial.codec :=
  .record (.pair (.singular (.requiredText strings))
      (.singular (.requiredText numbers)))

def X509Data.trip [Libraries] : RoundTrip X509Data.codec :=
  .record (.pair (.manyMinOne X509IssuerSerial.trip)
      (.pair (.manyMinOne BinaryText.trip)
        (.pair (.manyMinOne (.requiredText strings))
          (.pair (.manyMinOne BinaryText.trip) (.manyMinOne BinaryText.trip)))))

def PGPData.trip : RoundTrip PGPData.codec :=
  .record (.pair (.singular BinaryText.trip) (.many BinaryText.trip))

def SPKIData.trip : RoundTrip SPKIData.codec :=
  .record (.many BinaryText.trip)

def MgmtData.trip : RoundTrip MgmtData.codec :=
  .record .textOrEmpty

def KeyInfo.trip [Libraries] : RoundTrip KeyInfo.codec :=
  .record (.pair (.optionalAttribute strings)
      (.pair (.many KeyName.trip)
        (.pair (.many KeyValue.trip)
          (.pair (.many RetrievalMethod.trip)
            (.pair (.many X509Data.trip)
              (.pair (.many PGPData.trip)
                (.pair (.many SPKIData.trip)
                  (.pair (.many MgmtData.trip)
                    (.many SecurityTokenReference.trip)))))))))

def CanonicalizationMethod.trip : RoundTrip CanonicalizationMethod.codec :=
  .record (.withWildcard (.requiredOptionalAttribute strings))

def SignatureMethod.trip : RoundTrip SignatureMethod.codec :=
  .record (.withWildcard (.requiredAttribute strings))

def SignedInfo.trip : RoundTrip SignedInfo.codec :=
  .record (.pair .etreeElement
      (.pair (.singular CanonicalizationMethod.trip)
        (.pair (.singular SignatureMethod.trip)
          (.pair (.many DsigReference.trip) (.optionalAttribute strings)))))

def SignatureObject.trip : RoundTrip SignatureObject.codec :=
  .record (.withWildcard (.pair (.optionalAttribute strings)
        (.pair (.optionalAttribute strings) (.optionalAttribute strings))))

def SignatureValue.trip : RoundTrip SignatureValue.codec :=
  .record (.pair (.optionalText encodedBytes) (.optionalAttribute strings))

def Signature.trip [Libraries] : RoundTrip Signature.codec :=
  .record (.pair (.singular SignedInfo.trip)
      (.pair (.singular SignatureValue.trip)
        (.pair (.singular KeyInfo.trip)
          (.pair (.many SignatureObject.trip) (.optionalAttribute strings)))))

end Signatures

section Encryption

def MGF.trip : RoundTrip MGF.codec :=
  .record (.requiredAttribute strings)

def EncryptionMethod.trip : RoundTrip EncryptionMethod.codec :=
  .record (.withWildcard (.pair (.requiredAttribute strings)
        (.pair (.optional DigestMethod.trip) (.optional MGF.trip))))

def XencTransforms.trip : RoundTrip XencTransforms.codec :=
  .record (.manyMinOne Transform.trip)

def CipherReference.trip : RoundTrip CipherReference.codec :=
  .record (.pair (.singular XencTransforms.trip) (.optionalAttribute strings))

def CipherValue.trip : RoundTrip CipherValue.codec :=
  .record (.optionalText strings)

def CipherData.trip : RoundTrip CipherData.codec :=
  .record (.pair (.optional CipherValue.trip) (.optional CipherReference.trip))

def EncryptionProperty.trip : RoundTrip EncryptionProperty.codec :=
  .record (.withWildcard (.pair (.optionalAttribute strings) (.optionalAttribute strings)))

def EncryptionProperties.trip : RoundTrip EncryptionProperties.codec :=
  .record (.pair (.manyMinOne EncryptionProperty.trip) (.optionalAttribute strings))

def XencReference.trip : RoundTrip XencReference.codec :=
  .record (.withWildcard (.optionalAttribute strings))

def ReferenceList.trip : RoundTrip ReferenceList.codec :=
  .record (.pair (.many XencReference.trip) (.many XencReference.trip))

def EncryptedType.trip [Libraries] : RoundTrip EncryptedType.codec :=
  .record (.pair (.singular EncryptionMethod.trip)
      (.pair (.singular KeyInfo.trip)
        (.pair (.singular CipherData.trip)
          (.pair (.many EncryptionProperties.trip)
            (.pair (.optionalAttribute strings)
              (.pair (.optionalAttribute strings)
                (.pair (.optionalAttribute strings) (.optionalAttribute strings))))))))

def CarriedKeyName.trip : RoundTrip CarriedKeyName.codec :=
  .record (.optionalText strings)

def EncryptedKey.trip [Libraries] : RoundTrip EncryptedKey.codec :=
  .record (.pair EncryptedType.trip
      (.pair (.singular ReferenceList.trip)
        (.pair (.many CarriedKeyName.trip) (.optionalAttribute strings))))

end Encryption

section Messages

def Description.trip : RoundTrip Description.codec :=
  .record (.pair (.requiredText strings) (.optionalAttribute langs))

def MessageInfo.trip [Libraries] : RoundTrip MessageInfo.codec :=
  .record (.pair (.singular (.requiredText times))
      (.pair (.singular (.requiredText strings))
        (.optional (.requiredText strings))))

def PartyId.trip : RoundTrip PartyId.codec :=
  .record (.pair .textOrEmpty (.optionalAttribute strings))

def Party.trip : RoundTrip Party.codec :=
  .record (.pair (.singular PartyId.trip) (.singular (.requiredText strings)))

def PartyInfo.trip : RoundTrip PartyInfo.codec :=
  .record (.pair (.singular Party.trip) (.singular Party.trip))

def AgreementRef.trip : RoundTrip AgreementRef.codec :=
  .record (.pair (.requiredText strings)
      (.pair (.optionalAttribute strings) (.optionalAttribute strings)))

def Service.trip : RoundTrip Service.codec :=
  .record (.pair (.requiredText strings) (.optionalAttribute strings))

def CollaborationInfo.trip : RoundTrip CollaborationInfo.codec :=
  .record (.pair (.optional AgreementRef.trip)
      (.pair (.singular Service.trip)
        (.pair (.singular (.requiredText strings))
          (.singular (.requiredText strings)))))

def Property.trip : RoundTrip Property.codec :=
  .record (.pair (.optionalAttribute strings)
      (.pair (.requiredText strings) (.requiredAttribute strings)))

def MessageProperties.trip : RoundTrip MessageProperties.codec :=
  .record (.manyMinOne Property.trip)

def Schema.trip : RoundTrip Schema.codec :=
  .record (.pair (.requiredAttribute strings)
      (.pair (.optionalAttribute nonEmptyStrings) (.optionalAttribute nonEmptyStrings)))

def PartProperties.trip : RoundTrip PartProperties.codec :=
  .record (.manyMinOne Property.trip)

def PartInfo.trip : RoundTrip PartInfo.codec :=
  .record (.pair (.many Schema.trip)
      (.pair (.many Description.trip)
        (.pair (.singular PartProperties.trip) (.optionalAttribute strings))))

def PayloadInfo.trip : RoundTrip PayloadInfo.codec :=
  .record (.manyMinOne PartInfo.trip)

def UserMessage.trip [Libraries] : RoundTrip UserMessage.codec :=
  .record (.pair (.singular MessageInfo.trip)
      (.pair (.singular PartyInfo.trip)
        (.pair (.singular CollaborationInfo.trip)
          (.pair (.optional MessageProperties.trip)
            (.pair (.optional PayloadInfo.trip) (.optionalAttribute strings))))))

def MessagePartNRInformation.trip : RoundTrip MessagePartNRInformation.codec :=
  .record (.someOf DsigReference.trip)

def NonRepudiationInformation.trip : RoundTrip NonRepudiationInformation.codec :=
  .record (.many MessagePartNRInformation.trip)

def PullRequest.trip : RoundTrip PullRequest.codec :=
  .record (.withWildcard (.optionalAttribute strings))

def Receipt.trip : RoundTrip Receipt.codec :=
  .record (.withWildcard (.optional NonRepudiationInformation.trip))

def Error.trip : RoundTrip Error.codec :=
  .record (.pair (.optional Description.trip)
      (.pair (.optional (.requiredText strings))
        (.pair (.optionalAttribute strings)
          (.pair (.optionalAttribute strings)
            (.pair (.requiredAttribute strings)
              (.pair (.optionalAttribute strings)
                (.pair (.requiredAttribute strings) (.optionalAttribute strings))))))))

def SignalMessage.trip [Libraries] : RoundTrip SignalMessage.codec :=
  .record (.withWildcard (.pair (.singular MessageInfo.trip)
        (.pair (.optional PullRequest.trip)
          (.pair (.optional Receipt.trip) (.many Error.trip)))))

def Messaging.trip [Libraries] : RoundTrip Messaging.codec :=
  .record (.withWildcard (.pair .etreeElement
        (.pair (.many SignalMessage.trip)
          (.pair (.many UserMessage.trip)
            (.pair (.optionalAttribute strings) (.optionalAttribute flags))))))

end Messages

section Envelopes

def BinarySecurityToken.trip : RoundTrip BinarySecurityToken.codec :=
  .record (.pair (.requiredAttribute strings)
      (.pair (.requiredAttribute strings)
        (.pair (.requiredAttribute strings) (.requiredText strings))))

def Security.trip [Libraries] : RoundTrip Security.codec :=
  .record (.pair (.someOf BinarySecurityToken.trip)
      (.pair (.optional EncryptedKey.trip)
        (.pair (.optionalMany EncryptedType.trip)
          (.pair (.optional Signature.trip) (.attributeOr flags)))))

def Header.trip [Libraries] : RoundTrip Header.codec :=
  .record (.pair (.singular Security.trip) (.singular Messaging.trip))

def Body.trip : RoundTrip Body.codec :=
  .record (.withWildcard (.pair .etreeElement (.optionalAttribute strings)))

def Envelope.trip [Libraries] : RoundTrip Envelope.codec :=
  .record (.pair .etreeElement
      (.pair (.singular Header.trip) (.singular Body.trip)))

end Envelopes

section Documents

def Identifier.trip : RoundTrip Identifier.codec :=
  .record (.pair (.optionalAttribute strings) (.requiredText strings))

def Participant.trip : RoundTrip Participant.codec :=
  .record (.singular Identifier.trip)

def DocumentIdentification.trip [Libraries] : RoundTrip DocumentIdentification.codec :=
  .record (.pair (.singular (.requiredText strings))
      (.pair (.singular (.requiredText strings))
        (.pair (.singular (.requiredText strings))
          (.pair (.singular (.requiredText strings))
            (.singular (.requiredText times))))))

def Scope.trip : RoundTrip Scope.codec :=
  .record (.pair (.singular (.requiredText strings))
      (.pair (.singular (.requiredText strings))
        (.optional (.requiredText strings))))

def BusinessScope.trip : RoundTrip BusinessScope.codec :=
  .record (.someOf Scope.trip)

def StandardBusinessDocumentHeader.trip [Libraries] : RoundTrip StandardBusinessDocumentHeader.codec :=
  .record (.pair (.singular (.requiredText strings))
      (.pair (.singular Participant.trip)
        (.pair (.singular Participant.trip)
          (.pair (.singular DocumentIdentification.trip)
            (.singular BusinessScope.trip)))))

def StandardBusinessDocument.trip [Libraries] : RoundTrip StandardBusinessDocument.codec :=
  .record (.withWildcard (.singular StandardBusinessDocumentHeader.trip))

end Documents

end RecordRoundTrips
