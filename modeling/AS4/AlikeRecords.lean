import AS4.AlikeReadings
import AS4.MessageParsing

/-!
What each record of an envelope has in common when it is read from two documents that
differ only by how their Base64 is wrapped. Most are read the same way; references,
tokens and cipher values are the same but for white space.
-/

namespace AlikeRecords
open ElementTree ElementCodec ElementCodec.Codec PythonData AS4Libraries SignatureModel EncryptionModel MessagingModel
  EnvelopeModel MessageParsing WrappedTexts AlikeReadings

section Records

theorem Description.exact : Exact Description.codec steady :=
  exact_record (exact_pair alike_requiredText alike_attributeOr)

theorem MessageInfo.exact [Libraries] : Exact MessageInfo.codec anything :=
  exact_record
    (exact_pair (exact_singular alike_requiredText (by decide))
       (exact_pair (exact_singular alike_requiredText (by decide)) (exact_optional alike_requiredText (by decide))))

theorem PartyId.exact : Exact PartyId.codec steady :=
  exact_record (exact_pair alike_textOr alike_attributeOr)

theorem Party.exact : Exact Party.codec anything :=
  exact_record (exact_pair (exact_singular PartyId.exact (by decide)) (exact_singular alike_requiredText (by decide)))

theorem PartyInfo.exact : Exact PartyInfo.codec anything :=
  exact_record (exact_pair (exact_singular Party.exact (by decide)) (exact_singular Party.exact (by decide)))

theorem AgreementRef.exact : Exact AgreementRef.codec steady :=
  exact_record (exact_pair alike_requiredText (exact_pair alike_attributeOr alike_attributeOr))

theorem Service.exact : Exact Service.codec steady :=
  exact_record (exact_pair alike_requiredText alike_attributeOr)

theorem CollaborationInfo.exact : Exact CollaborationInfo.codec anything :=
  exact_record
    (exact_pair (exact_optional AgreementRef.exact (by decide))
       (exact_pair (exact_singular Service.exact (by decide))
          (exact_pair (exact_singular alike_requiredText (by decide)) (exact_singular alike_requiredText (by decide)))))

theorem Property.exact : Exact Property.codec steady :=
  exact_record (exact_pair alike_attributeOr (exact_pair alike_requiredText alike_requiredAttribute))

theorem MessageProperties.exact : Exact MessageProperties.codec anything :=
  exact_record (exact_manyMinOne Property.exact (by decide))

theorem Schema.exact : Exact Schema.codec anything :=
  exact_record (exact_pair alike_requiredAttribute (exact_pair alike_attributeOr alike_attributeOr))

theorem PartProperties.exact : Exact PartProperties.codec anything :=
  exact_record (exact_manyMinOne Property.exact (by decide))

theorem PartInfo.exact : Exact PartInfo.codec anything :=
  exact_record
    (exact_pair (exact_many Schema.exact (by decide))
       (exact_pair (exact_many Description.exact (by decide))
          (exact_pair (exact_singular PartProperties.exact (by decide)) alike_attributeOr)))

theorem PayloadInfo.exact : Exact PayloadInfo.codec anything :=
  exact_record (exact_manyMinOne PartInfo.exact (by decide))

theorem UserMessage.exact [Libraries] : Exact UserMessage.codec anything :=
  exact_record
    (exact_pair (exact_singular MessageInfo.exact (by decide))
       (exact_pair (exact_singular PartyInfo.exact (by decide))
          (exact_pair (exact_singular CollaborationInfo.exact (by decide))
             (exact_pair (exact_optional MessageProperties.exact (by decide))
                (exact_pair (exact_optional PayloadInfo.exact (by decide)) alike_attributeOr)))))

theorem DigestMethod.exact : Exact DigestMethod.codec anything :=
  exact_record alike_requiredAttribute

theorem BinaryText.exact : Exact BinaryText.codec steady :=
  exact_record alike_requiredText

theorem KeyName.exact : Exact KeyName.codec steady :=
  exact_record alike_requiredText

theorem X509IssuerSerial.exact [Libraries] : Exact X509IssuerSerial.codec anything :=
  exact_record (exact_pair (exact_singular alike_requiredText (by decide)) (exact_singular alike_requiredText (by decide)))

theorem X509Data.exact [Libraries] : Exact X509Data.codec anything :=
  exact_record
    (exact_pair (exact_manyMinOne X509IssuerSerial.exact (by decide))
       (exact_pair (exact_manyMinOne BinaryText.exact (by decide))
          (exact_pair (exact_manyMinOne alike_requiredText (by decide))
             (exact_pair (exact_manyMinOne BinaryText.exact (by decide)) (exact_manyMinOne BinaryText.exact (by decide))))))

theorem PGPData.exact : Exact PGPData.codec anything :=
  exact_record (exact_pair (exact_singular BinaryText.exact (by decide)) (exact_many BinaryText.exact (by decide)))

theorem SPKIData.exact : Exact SPKIData.codec anything :=
  exact_record (exact_many BinaryText.exact (by decide))

theorem MgmtData.exact : Exact MgmtData.codec steady :=
  exact_record alike_textOr

theorem MGF.exact : Exact MGF.codec anything :=
  exact_record alike_requiredAttribute

theorem CarriedKeyName.exact : Exact CarriedKeyName.codec steady :=
  exact_record alike_textOr

theorem Error.exact : Exact Error.codec anything :=
  exact_record
    (exact_pair (exact_optional Description.exact (by decide))
       (exact_pair (exact_optional alike_requiredText (by decide))
          (exact_pair alike_attributeOr
             (exact_pair alike_attributeOr
                (exact_pair alike_requiredAttribute
                   (exact_pair alike_attributeOr (exact_pair alike_requiredAttribute alike_attributeOr)))))))

end Records

section Signatures

/-- Two references with the same digest text, but for white space. -/
structure LikeReference (reference reference' : DsigReference) : Prop where
  transforms : List.Forall₂ (fun transform transform' : Transform =>
    transform.algorithm = transform'.algorithm ∧ transform.inclusiveNamespaces = transform'.inclusiveNamespaces)
    reference.transforms.transforms reference'.transforms.transforms
  digestMethod : reference.digestMethod = reference'.digestMethod
  digestValue : withoutSpaces reference.digestValue.text = withoutSpaces reference'.digestValue.text
  uri : reference.uri = reference'.uri

/-- Two tokens with the same certificate text, but for white space. -/
structure LikeToken (token token' : BinarySecurityToken) : Prop where
  valueType : token.valueType = token'.valueType
  bstId : token.bstId = token'.bstId
  value : withoutSpaces token.value = withoutSpaces token'.value

structure LikeSignature (signature signature' : Signature) : Prop where
  references : List.Forall₂ LikeReference signature.signedInfo.references signature'.signedInfo.references
  token : signatureTokenUri signature = signatureTokenUri signature'

theorem Transform.alike : Alike Transform.codec anything fun transform transform' =>
    transform.algorithm = transform'.algorithm ∧ transform.inclusiveNamespaces = transform'.inclusiveNamespaces :=
  alike_record (alike_wildcard alike_attributeOr) fun _ _ like => like

theorem Transforms.alike : Alike Transforms.codec anything fun transforms transforms' =>
    List.Forall₂ (fun transform transform' : Transform =>
      transform.algorithm = transform'.algorithm ∧ transform.inclusiveNamespaces = transform'.inclusiveNamespaces)
      transforms.transforms transforms'.transforms :=
  alike_record (alike_many Transform.alike (by decide)) fun _ _ like => like

theorem DigestValue.alike : Alike DigestValue.codec unsigned fun value value' =>
    withoutSpaces value.text = withoutSpaces value'.text :=
  alike_record alike_wrappedText fun _ _ like => like

theorem DsigReference.alike : Alike DsigReference.codec anything LikeReference :=
  alike_record
    (alike_pair (alike_singular Transforms.alike (by decide))
      (alike_pair (alike_singular DigestMethod.exact (by decide))
        (alike_pair (alike_singular DigestValue.alike (by decide))
          (alike_pair alike_attributeOr (alike_pair alike_attributeOr alike_attributeOr)))))
    (by
      rintro _ _ ⟨transforms, method, value, -, uri, -⟩
      exact ⟨transforms, method, value, uri⟩)

theorem WsseReference.alike : Alike WsseReference.codec anything fun reference reference' => reference.uri = reference'.uri :=
  alike_record (alike_wildcard (alike_pair alike_attributeOr alike_attributeOr)) fun _ _ like => like.1.1

theorem SecurityTokenReference.alike : Alike SecurityTokenReference.codec anything fun token token' =>
    token.reference.uri = token'.reference.uri :=
  alike_record
    (alike_wildcard
      (alike_pair alike_attributeOr
        (alike_pair alike_attributeOr (alike_pair (alike_singular WsseReference.alike (by decide)) alike_attributeOr))))
    fun _ _ like => like.1.2.2.1

theorem KeyValue.alike : Alike KeyValue.codec anything fun _ _ => True :=
  alike_record (alike_wildcard alike_nothing) fun _ _ _ => trivial

theorem RetrievalMethod.alike : Alike RetrievalMethod.codec anything fun _ _ => True :=
  alike_record (alike_pair (alike_many Transforms.alike (by decide)) (alike_pair alike_attributeOr alike_attributeOr))
    fun _ _ _ => trivial

/-- What is read of the first of values alike. -/
theorem head_same {α β : Type} {like : α → α → Prop} {read : α → Option β} {values values' : List α}
    (likes : List.Forall₂ like values values') (below : ∀ {value value'}, like value value' → read value = read value') :
    values.head?.bind read = values'.head?.bind read := by
  cases likes with
  | nil => rfl
  | cons one _ => exact below one

theorem KeyInfo.alike [Libraries] : Alike KeyInfo.codec anything fun info info' =>
    info.securityTokenReference.head?.bind (·.reference.uri) = info'.securityTokenReference.head?.bind (·.reference.uri) :=
  alike_record
    (alike_pair alike_attributeOr
      (alike_pair (alike_many KeyName.exact (by decide))
        (alike_pair (alike_many KeyValue.alike (by decide))
          (alike_pair (alike_many RetrievalMethod.alike (by decide))
            (alike_pair (alike_many X509Data.exact (by decide))
              (alike_pair (alike_many PGPData.exact (by decide))
                (alike_pair (alike_many SPKIData.exact (by decide))
                  (alike_pair (alike_many MgmtData.exact (by decide)) (alike_many SecurityTokenReference.alike (by decide))))))))))
    (by
      rintro _ _ ⟨-, -, -, -, -, -, -, -, tokens⟩
      exact head_same tokens id)

theorem CanonicalizationMethod.alike : Alike CanonicalizationMethod.codec anything fun _ _ => True :=
  alike_record (alike_wildcard alike_requiredAttribute) fun _ _ _ => trivial

theorem SignatureMethod.alike : Alike SignatureMethod.codec anything fun _ _ => True :=
  alike_record (alike_wildcard alike_requiredAttribute) fun _ _ _ => trivial

theorem SignedInfo.alike : Alike SignedInfo.codec anything fun info info' =>
    List.Forall₂ LikeReference info.references info'.references :=
  alike_record
    (alike_pair alike_etreeElement
      (alike_pair (alike_singular CanonicalizationMethod.alike (by decide))
        (alike_pair (alike_singular SignatureMethod.alike (by decide))
          (alike_pair (alike_many DsigReference.alike (by decide)) alike_attributeOr))))
    (by
      rintro _ _ ⟨-, -, -, references, -⟩
      exact references)

theorem SignatureObject.alike : Alike SignatureObject.codec anything fun _ _ => True :=
  alike_record (alike_wildcard (alike_pair alike_attributeOr (alike_pair alike_attributeOr alike_attributeOr)))
    fun _ _ _ => trivial

theorem SignatureValue.alike : Alike SignatureValue.codec valued fun _ _ => True :=
  alike_record (alike_pair alike_signatureText alike_attributeOr) fun _ _ _ => trivial

theorem Signature.alike [Libraries] : Alike Signature.codec anything LikeSignature :=
  alike_record
    (alike_pair (alike_singular SignedInfo.alike (by decide))
      (alike_pair (alike_singular SignatureValue.alike (by decide))
        (alike_pair (alike_singular KeyInfo.alike (by decide))
          (alike_pair (alike_many SignatureObject.alike (by decide)) alike_attributeOr))))
    (by
      rintro _ _ ⟨info, -, keyInfo, -, -⟩
      exact ⟨info, keyInfo⟩)

end Signatures

section Encryption

/-- The text of a cipher value, but for white space. -/
abbrev LikeText : Option String → Option String → Prop := Option.Rel fun s s' => withoutSpaces s = withoutSpaces s'

structure LikeData (data data' : EncryptedType) : Prop where
  algorithm : data.encryptionMethod.algorithm = data'.encryptionMethod.algorithm
  identifier : data.encryptedTypeId = data'.encryptedTypeId
  cipher : LikeText (data.cipherData.cipherValue.bind (·.value)) (data'.cipherData.cipherValue.bind (·.value))
  attachment : data.cipherData.cipherReference.bind (·.uri) = data'.cipherData.cipherReference.bind (·.uri)

structure LikeKey (key key' : EncryptedKey) : Prop where
  data : LikeData key.toEncryptedType key'.toEncryptedType
  references : List.Forall₂ (fun reference reference' : XencReference => reference.uri = reference'.uri)
    key.referenceList.dataReference key'.referenceList.dataReference

theorem EncryptionMethod.alike : Alike EncryptionMethod.codec anything fun method method' =>
    method.algorithm = method'.algorithm :=
  alike_record
    (alike_wildcard
      (alike_pair alike_requiredAttribute (alike_pair (alike_optional DigestMethod.exact (by decide)) (alike_optional MGF.exact (by decide)))))
    fun _ _ like => like.1.1

theorem XencTransforms.alike : Alike XencTransforms.codec anything fun _ _ => True :=
  alike_record (alike_manyMinOne Transform.alike (by decide)) fun _ _ _ => trivial

theorem CipherReference.alike : Alike CipherReference.codec anything fun reference reference' =>
    reference.uri = reference'.uri :=
  alike_record (alike_pair (alike_singular XencTransforms.alike (by decide)) alike_attributeOr) fun _ _ like => like.2

theorem CipherValue.alike : Alike CipherValue.codec unsigned fun value value' => LikeText value.value value'.value :=
  alike_record alike_optionalWrappedText fun _ _ like => like

theorem bind_like {α β : Type} {like : α → α → Prop} {like' : β → β → Prop} {read : α → Option β} {value value' : Option α}
    (same : Option.Rel like value value') (below : ∀ {a a'}, like a a' → Option.Rel like' (read a) (read a')) :
    Option.Rel like' (value.bind read) (value'.bind read) := by
  cases same with
  | none => exact .none
  | some one => exact below one

theorem bind_same {α β : Type} {like : α → α → Prop} {read : α → Option β} {value value' : Option α}
    (same : Option.Rel like value value') (below : ∀ {a a'}, like a a' → read a = read a') :
    value.bind read = value'.bind read := by
  cases same with
  | none => rfl
  | some one => exact below one

theorem CipherData.alike : Alike CipherData.codec anything fun data data' =>
    LikeText (data.cipherValue.bind (·.value)) (data'.cipherValue.bind (·.value)) ∧
      data.cipherReference.bind (·.uri) = data'.cipherReference.bind (·.uri) :=
  alike_record (alike_pair (alike_optional CipherValue.alike (by decide)) (alike_optional CipherReference.alike (by decide)))
    (by
      rintro _ _ ⟨value, reference⟩
      exact ⟨bind_like value id, bind_same reference id⟩)

theorem EncryptionProperty.alike : Alike EncryptionProperty.codec anything fun _ _ => True :=
  alike_record (alike_wildcard (alike_pair alike_attributeOr alike_attributeOr)) fun _ _ _ => trivial

theorem EncryptionProperties.alike : Alike EncryptionProperties.codec anything fun _ _ => True :=
  alike_record (alike_pair (alike_manyMinOne EncryptionProperty.alike (by decide)) alike_attributeOr) fun _ _ _ => trivial

theorem XencReference.alike : Alike XencReference.codec anything fun reference reference' => reference.uri = reference'.uri :=
  alike_record (alike_wildcard alike_attributeOr) fun _ _ like => like.1

theorem ReferenceList.alike : Alike ReferenceList.codec anything fun list list' =>
    List.Forall₂ (fun reference reference' : XencReference => reference.uri = reference'.uri) list.dataReference
      list'.dataReference :=
  alike_record (alike_pair (alike_many XencReference.alike (by decide)) (alike_many XencReference.alike (by decide))) fun _ _ like => like.1

theorem EncryptedType.alike [Libraries] : Alike EncryptedType.codec anything LikeData :=
  alike_record
    (alike_pair (alike_singular EncryptionMethod.alike (by decide))
      (alike_pair (alike_singular KeyInfo.alike (by decide))
        (alike_pair (alike_singular CipherData.alike (by decide))
          (alike_pair (alike_many EncryptionProperties.alike (by decide))
            (alike_pair alike_attributeOr
              (alike_pair alike_attributeOr (alike_pair alike_attributeOr alike_attributeOr)))))))
    (by
      rintro _ _ ⟨method, -, cipher, -, identifier, -⟩
      exact ⟨method, identifier, cipher.1, cipher.2⟩)

theorem EncryptedKey.alike [Libraries] : Alike EncryptedKey.codec anything LikeKey :=
  alike_record
    (alike_pair EncryptedType.alike
      (alike_pair (alike_singular ReferenceList.alike (by decide)) (alike_pair (alike_many CarriedKeyName.exact (by decide)) alike_attributeOr)))
    (by
      rintro _ _ ⟨data, list, -⟩
      exact ⟨data, list⟩)

end Encryption

section Envelopes

structure LikeSecurity (security security' : Security) : Prop where
  tokens : List.Forall₂ LikeToken security.binarySecurityTokens security'.binarySecurityTokens
  key : Option.Rel LikeKey security.encryptedKey security'.encryptedKey
  data : Option.Rel (List.Forall₂ LikeData) security.encryptedData security'.encryptedData
  signature : Option.Rel LikeSignature security.signature security'.signature

/-- The same user messages, under security headers that differ by white space. -/
structure LikeEnvelope (envelope envelope' : Envelope) : Prop where
  security : LikeSecurity envelope.header.security envelope'.header.security
  users : envelope.header.messaging.userMessages = envelope'.header.messaging.userMessages

theorem MessagePartNRInformation.alike : Alike MessagePartNRInformation.codec anything fun _ _ => True :=
  alike_record (alike_someOf DsigReference.alike (by decide)) fun _ _ _ => trivial

theorem NonRepudiationInformation.alike : Alike NonRepudiationInformation.codec anything fun _ _ => True :=
  alike_record (alike_many MessagePartNRInformation.alike (by decide)) fun _ _ _ => trivial

theorem PullRequest.alike : Alike PullRequest.codec anything fun _ _ => True :=
  alike_record (alike_wildcard alike_attributeOr) fun _ _ _ => trivial

theorem Receipt.alike : Alike Receipt.codec anything fun _ _ => True :=
  alike_record (alike_wildcard (alike_optional NonRepudiationInformation.alike (by decide))) fun _ _ _ => trivial

theorem SignalMessage.alike [Libraries] : Alike SignalMessage.codec anything fun _ _ => True :=
  alike_record
    (alike_wildcard
      (alike_pair (alike_singular MessageInfo.exact (by decide))
        (alike_pair (alike_optional PullRequest.alike (by decide))
          (alike_pair (alike_optional Receipt.alike (by decide)) (alike_many Error.exact (by decide))))))
    fun _ _ _ => trivial

theorem Messaging.alike [Libraries] : Alike Messaging.codec anything fun messaging messaging' =>
    messaging.userMessages = messaging'.userMessages :=
  alike_record
    (alike_wildcard
      (alike_pair alike_etreeElement
        (alike_pair (alike_many SignalMessage.alike (by decide))
          (alike_pair (exact_many UserMessage.exact (by decide)) (alike_pair alike_attributeOr alike_attributeOr)))))
    fun _ _ like => like.1.2.2.1

theorem BinarySecurityToken.alike : Alike BinarySecurityToken.codec unsigned LikeToken :=
  alike_record
    (alike_pair alike_requiredAttribute
      (alike_pair alike_requiredAttribute (alike_pair alike_requiredAttribute alike_wrappedText)))
    (by
      rintro _ _ ⟨-, valueType, bstId, value⟩
      exact ⟨valueType, bstId, value⟩)

theorem Security.alike [Libraries] : Alike Security.codec anything LikeSecurity :=
  alike_record
    (alike_pair (alike_someOf BinarySecurityToken.alike (by decide))
      (alike_pair (alike_optional EncryptedKey.alike (by decide))
        (alike_pair (alike_optionalMany EncryptedType.alike (by decide))
          (alike_pair (alike_optional Signature.alike (by decide)) alike_attributeOr))))
    (by
      rintro _ _ ⟨tokens, key, data, signature, -⟩
      exact ⟨tokens, key, data, signature⟩)

theorem Header.alike [Libraries] : Alike Header.codec anything fun header header' =>
    LikeSecurity header.security header'.security ∧ header.messaging.userMessages = header'.messaging.userMessages :=
  alike_record (alike_pair (alike_singular Security.alike (by decide)) (alike_singular Messaging.alike (by decide))) fun _ _ like => like

theorem Body.alike : Alike Body.codec anything fun _ _ => True :=
  alike_record (alike_wildcard (alike_pair alike_etreeElement alike_attributeOr)) fun _ _ _ => trivial

theorem Envelope.alike [Libraries] : Alike Envelope.codec anything LikeEnvelope :=
  alike_record (alike_pair alike_etreeElement (alike_pair (alike_singular Header.alike (by decide)) (alike_singular Body.alike (by decide))))
    (by
      rintro _ _ ⟨-, header, -⟩
      exact ⟨header.1, header.2⟩)

end Envelopes

end AlikeRecords
