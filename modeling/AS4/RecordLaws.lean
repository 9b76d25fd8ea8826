import AS4.BusinessDocument
import AS4.CodecLaws
import AS4.EnvelopeModel

/-!
Every record of the library is lawful: none of its fields reads what another one
writes.
-/

namespace RecordLaws
open ElementTree ElementCodec ElementCodec.Codec PythonData AS4Libraries SignatureModel EncryptionModel MessagingModel
  EnvelopeModel BusinessDocument

section Signatures

theorem Transform.lawful : Transform.codec.Lawful :=
  record_lawful (withWildcard_lawful (optionalAttribute_lawful ..) rfl) fun _ => rfl

theorem Transforms.lawful : Transforms.codec.Lawful :=
  record_lawful (many_lawful Transform.lawful (by decide)) fun _ => rfl

theorem DigestMethod.lawful : DigestMethod.codec.Lawful :=
  record_lawful (requiredAttribute_lawful ..) fun _ => rfl

theorem DigestValue.lawful : DigestValue.codec.Lawful :=
  record_lawful (requiredText_lawful ..) fun _ => rfl

theorem DsigReference.lawful : DsigReference.codec.Lawful :=
  record_lawful (pair_checked rfl (singular_lawful Transforms.lawful (by decide))
      (pair_checked rfl (singular_lawful DigestMethod.lawful (by decide))
        (pair_checked rfl (singular_lawful DigestValue.lawful (by decide))
          (pair_checked rfl (optionalAttribute_lawful ..)
            (pair_checked rfl (optionalAttribute_lawful ..) (optionalAttribute_lawful ..)))))) fun _ => rfl

theorem WsseReference.lawful : WsseReference.codec.Lawful :=
  record_lawful (withWildcard_lawful (pair_checked rfl (optionalAttribute_lawful ..) (optionalAttribute_lawful ..)) rfl)
    fun _ => rfl

theorem SecurityTokenReference.lawful : SecurityTokenReference.codec.Lawful :=
  record_lawful (withWildcard_lawful (pair_checked rfl (optionalAttribute_lawful ..)
        (pair_checked rfl (attributeOr_lawful ..)
          (pair_checked rfl (singular_lawful WsseReference.lawful (by decide)) (optionalAttribute_lawful ..)))) rfl)
    fun _ => rfl

theorem BinaryText.lawful : BinaryText.codec.Lawful :=
  record_lawful (requiredText_lawful ..) fun _ => rfl

theorem KeyName.lawful : KeyName.codec.Lawful :=
  record_lawful (requiredText_lawful ..) fun _ => rfl

theorem KeyValue.lawful : KeyValue.codec.Lawful :=
  record_lawful (withWildcard_lawful nothing_lawful rfl) fun _ => rfl

theorem RetrievalMethod.lawful : RetrievalMethod.codec.Lawful :=
  record_lawful (pair_checked rfl (many_lawful Transforms.lawful (by decide))
      (pair_checked rfl (optionalAttribute_lawful ..) (optionalAttribute_lawful ..))) fun _ => rfl

theorem X509IssuerSerial.lawful [Libraries] : X509IssuerSerial.codec.Lawful :=
  record_lawful (pair_checked rfl (singular_lawful (requiredText_lawful ..) (by decide))
      (singular_lawful (requiredText_lawful ..) (by decide))) fun _ => rfl

theorem X509Data.lawful [Libraries] : X509Data.codec.Lawful :=
  record_lawful (pair_checked rfl (manyMinOne_lawful X509IssuerSerial.lawful (by decide))
      (pair_checked rfl (manyMinOne_lawful BinaryText.lawful (by decide))
        (pair_checked rfl (manyMinOne_lawful (requiredText_lawful ..) (by decide))
          (pair_checked rfl (manyMinOne_lawful BinaryText.lawful (by decide)) (manyMinOne_lawful BinaryText.lawful (by decide))))))
    fun _ => rfl

theorem PGPData.lawful : PGPData.codec.Lawful :=
  record_lawful (pair_checked rfl (singular_lawful BinaryText.lawful (by decide)) (many_lawful BinaryText.lawful (by decide)))
    fun _ => rfl

theorem SPKIData.lawful : SPKIData.codec.Lawful :=
  record_lawful (many_lawful BinaryText.lawful (by decide)) fun _ => rfl

theorem MgmtData.lawful : MgmtData.codec.Lawful :=
  record_lawful (textOr_lawful ..) fun _ => rfl

theorem KeyInfo.lawful [Libraries] : KeyInfo.codec.Lawful :=
  record_lawful (pair_checked rfl (optionalAttribute_lawful ..)
      (pair_checked rfl (many_lawful KeyName.lawful (by decide))
        (pair_checked rfl (many_lawful KeyValue.lawful (by decide))
          (pair_checked rfl (many_lawful RetrievalMethod.lawful (by decide))
            (pair_checked rfl (many_lawful X509Data.lawful (by decide))
              (pair_checked rfl (many_lawful PGPData.lawful (by decide))
                (pair_checked rfl (many_lawful SPKIData.lawful (by decide))
                  (pair_checked rfl (many_lawful MgmtData.lawful (by decide))
                    (many_lawful SecurityTokenReference.lawful (by decide)))))))))) fun _ => rfl

theorem CanonicalizationMethod.lawful : CanonicalizationMethod.codec.Lawful :=
  record_lawful (withWildcard_lawful (requiredAttribute_lawful ..) rfl) fun _ => rfl

theorem SignatureMethod.lawful : SignatureMethod.codec.Lawful :=
  record_lawful (withWildcard_lawful (requiredAttribute_lawful ..) rfl) fun _ => rfl

theorem SignedInfo.lawful : SignedInfo.codec.Lawful :=
  record_lawful (pair_checked rfl etreeElement_lawful
      (pair_checked rfl (singular_lawful CanonicalizationMethod.lawful (by decide))
        (pair_checked rfl (singular_lawful SignatureMethod.lawful (by decide))
          (pair_checked rfl (many_lawful DsigReference.lawful (by decide)) (optionalAttribute_lawful ..)))))
    fun _ => rfl

theorem SignatureObject.lawful : SignatureObject.codec.Lawful :=
  record_lawful (withWildcard_lawful (pair_checked rfl (optionalAttribute_lawful ..)
        (pair_checked rfl (optionalAttribute_lawful ..) (optionalAttribute_lawful ..))) rfl) fun _ => rfl

theorem SignatureValue.lawful : SignatureValue.codec.Lawful :=
  record_lawful (pair_checked rfl (textOr_lawful ..) (optionalAttribute_lawful ..)) fun _ => rfl

theorem Signature.lawful [Libraries] : Signature.codec.Lawful :=
  record_lawful (pair_checked rfl (singular_lawful SignedInfo.lawful (by decide))
      (pair_checked rfl (singular_lawful SignatureValue.lawful (by decide))
        (pair_checked rfl (singular_lawful KeyInfo.lawful (by decide))
          (pair_checked rfl (many_lawful SignatureObject.lawful (by decide)) (optionalAttribute_lawful ..)))))
    fun _ => rfl

end Signatures

section Encryption

theorem MGF.lawful : MGF.codec.Lawful :=
  record_lawful (requiredAttribute_lawful ..) fun _ => rfl

theorem EncryptionMethod.lawful : EncryptionMethod.codec.Lawful :=
  record_lawful (withWildcard_lawful (pair_checked rfl (requiredAttribute_lawful ..)
        (pair_checked rfl (optional_lawful DigestMethod.lawful (by decide)) (optional_lawful MGF.lawful (by decide)))) rfl)
    fun _ => rfl

theorem XencTransforms.lawful : XencTransforms.codec.Lawful :=
  record_lawful (manyMinOne_lawful Transform.lawful (by decide)) fun _ => rfl

theorem CipherReference.lawful : CipherReference.codec.Lawful :=
  record_lawful (pair_checked rfl (singular_lawful XencTransforms.lawful (by decide)) (optionalAttribute_lawful ..))
    fun _ => rfl

theorem CipherValue.lawful : CipherValue.codec.Lawful :=
  record_lawful (textOr_lawful ..) fun _ => rfl

theorem CipherData.lawful : CipherData.codec.Lawful :=
  record_lawful (pair_checked rfl (optional_lawful CipherValue.lawful (by decide)) (optional_lawful CipherReference.lawful (by decide)))
    fun _ => rfl

theorem EncryptionProperty.lawful : EncryptionProperty.codec.Lawful :=
  record_lawful (withWildcard_lawful (pair_checked rfl (optionalAttribute_lawful ..) (optionalAttribute_lawful ..)) rfl)
    fun _ => rfl

theorem EncryptionProperties.lawful : EncryptionProperties.codec.Lawful :=
  record_lawful (pair_checked rfl (manyMinOne_lawful EncryptionProperty.lawful (by decide)) (optionalAttribute_lawful ..))
    fun _ => rfl

theorem XencReference.lawful : XencReference.codec.Lawful :=
  record_lawful (withWildcard_lawful (optionalAttribute_lawful ..) rfl) fun _ => rfl

theorem ReferenceList.lawful : ReferenceList.codec.Lawful :=
  record_lawful (pair_checked rfl (many_lawful XencReference.lawful (by decide)) (many_lawful XencReference.lawful (by decide)))
    fun _ => rfl

theorem EncryptedType.lawful [Libraries] : EncryptedType.codec.Lawful :=
  record_lawful (pair_checked rfl (singular_lawful EncryptionMethod.lawful (by decide))
      (pair_checked rfl (singular_lawful KeyInfo.lawful (by decide))
        (pair_checked rfl (singular_lawful CipherData.lawful (by decide))
          (pair_checked rfl (many_lawful EncryptionProperties.lawful (by decide))
            (pair_checked rfl (optionalAttribute_lawful ..)
              (pair_checked rfl (optionalAttribute_lawful ..)
                (pair_checked rfl (optionalAttribute_lawful ..) (optionalAttribute_lawful ..))))))))
    fun _ => rfl

theorem CarriedKeyName.lawful : CarriedKeyName.codec.Lawful :=
  record_lawful (textOr_lawful ..) fun _ => rfl

theorem EncryptedKey.lawful [Libraries] : EncryptedKey.codec.Lawful :=
  record_lawful (pair_checked rfl EncryptedType.lawful
      (pair_checked rfl (singular_lawful ReferenceList.lawful (by decide))
        (pair_checked rfl (many_lawful CarriedKeyName.lawful (by decide)) (optionalAttribute_lawful ..))))
    fun _ => rfl

end Encryption

section Messages

theorem Description.lawful : Description.codec.Lawful :=
  record_lawful (pair_checked rfl (requiredText_lawful ..) (attributeOr_lawful ..)) fun _ => rfl

theorem MessageInfo.lawful [Libraries] : MessageInfo.codec.Lawful :=
  record_lawful (pair_checked rfl (singular_lawful (requiredText_lawful ..) (by decide))
      (pair_checked rfl (singular_lawful (requiredText_lawful ..) (by decide))
        (optional_lawful (requiredText_lawful ..) (by decide)))) fun _ => rfl

theorem PartyId.lawful : PartyId.codec.Lawful :=
  record_lawful (pair_checked rfl (textOr_lawful ..) (optionalAttribute_lawful ..)) fun _ => rfl

theorem Party.lawful : Party.codec.Lawful :=
  record_lawful (pair_checked rfl (singular_lawful PartyId.lawful (by decide)) (singular_lawful (requiredText_lawful ..) (by decide)))
    fun _ => rfl

theorem PartyInfo.lawful : PartyInfo.codec.Lawful :=
  record_lawful (pair_checked rfl (singular_lawful Party.lawful (by decide)) (singular_lawful Party.lawful (by decide)))
    fun _ => rfl

theorem AgreementRef.lawful : AgreementRef.codec.Lawful :=
  record_lawful (pair_checked rfl (requiredText_lawful ..)
      (pair_checked rfl (optionalAttribute_lawful ..) (optionalAttribute_lawful ..))) fun _ => rfl

theorem Service.lawful : Service.codec.Lawful :=
  record_lawful (pair_checked rfl (requiredText_lawful ..) (optionalAttribute_lawful ..)) fun _ => rfl

theorem CollaborationInfo.lawful : CollaborationInfo.codec.Lawful :=
  record_lawful (pair_checked rfl (optional_lawful AgreementRef.lawful (by decide))
      (pair_checked rfl (singular_lawful Service.lawful (by decide))
        (pair_checked rfl (singular_lawful (requiredText_lawful ..) (by decide))
          (singular_lawful (requiredText_lawful ..) (by decide))))) fun _ => rfl

theorem Property.lawful : Property.codec.Lawful :=
  record_lawful (pair_checked rfl (optionalAttribute_lawful ..)
      (pair_checked rfl (requiredText_lawful ..) (requiredAttribute_lawful ..))) fun _ => rfl

theorem MessageProperties.lawful : MessageProperties.codec.Lawful :=
  record_lawful (manyMinOne_lawful Property.lawful (by decide)) fun _ => rfl

theorem Schema.lawful : Schema.codec.Lawful :=
  record_lawful (pair_checked rfl (requiredAttribute_lawful ..)
      (pair_checked rfl (optionalAttribute_lawful ..) (optionalAttribute_lawful ..))) fun _ => rfl

theorem PartProperties.lawful : PartProperties.codec.Lawful :=
  record_lawful (manyMinOne_lawful Property.lawful (by decide)) fun _ => rfl

theorem PartInfo.lawful : PartInfo.codec.Lawful :=
  record_lawful (pair_checked rfl (many_lawful Schema.lawful (by decide))
      (pair_checked rfl (many_lawful Description.lawful (by decide))
        (pair_checked rfl (singular_lawful PartProperties.lawful (by decide)) (optionalAttribute_lawful ..))))
    fun _ => rfl

theorem PayloadInfo.lawful : PayloadInfo.codec.Lawful :=
  record_lawful (manyMinOne_lawful PartInfo.lawful (by decide)) fun _ => rfl

theorem UserMessage.lawful [Libraries] : UserMessage.codec.Lawful :=
  record_lawful (pair_checked rfl (singular_lawful MessageInfo.lawful (by decide))
      (pair_checked rfl (singular_lawful PartyInfo.lawful (by decide))
        (pair_checked rfl (singular_lawful CollaborationInfo.lawful (by decide))
          (pair_checked rfl (optional_lawful MessageProperties.lawful (by decide))
            (pair_checked rfl (optional_lawful PayloadInfo.lawful (by decide)) (optionalAttribute_lawful ..))))))
    fun _ => rfl

theorem MessagePartNRInformation.lawful : MessagePartNRInformation.codec.Lawful :=
  record_lawful (someOf_lawful DsigReference.lawful (by decide)) fun _ => rfl

theorem NonRepudiationInformation.lawful : NonRepudiationInformation.codec.Lawful :=
  record_lawful (many_lawful MessagePartNRInformation.lawful (by decide)) fun _ => rfl

theorem PullRequest.lawful : PullRequest.codec.Lawful :=
  record_lawful (withWildcard_lawful (optionalAttribute_lawful ..) rfl) fun _ => rfl

theorem Receipt.lawful : Receipt.codec.Lawful :=
  record_lawful (withWildcard_lawful (optional_lawful NonRepudiationInformation.lawful (by decide)) rfl)
    fun _ => rfl

theorem Error.lawful : Error.codec.Lawful :=
  record_lawful (pair_checked rfl (optional_lawful Description.lawful (by decide))
      (pair_checked rfl (optional_lawful (requiredText_lawful ..) (by decide))
        (pair_checked rfl (optionalAttribute_lawful ..)
          (pair_checked rfl (optionalAttribute_lawful ..)
            (pair_checked rfl (requiredAttribute_lawful ..)
              (pair_checked rfl (optionalAttribute_lawful ..)
                (pair_checked rfl (requiredAttribute_lawful ..) (optionalAttribute_lawful ..))))))))
    fun _ => rfl

theorem SignalMessage.lawful [Libraries] : SignalMessage.codec.Lawful :=
  record_lawful (withWildcard_lawful (pair_checked rfl (singular_lawful MessageInfo.lawful (by decide))
        (pair_checked rfl (optional_lawful PullRequest.lawful (by decide))
          (pair_checked rfl (optional_lawful Receipt.lawful (by decide)) (many_lawful Error.lawful (by decide))))) rfl)
    fun _ => rfl

theorem Messaging.lawful [Libraries] : Messaging.codec.Lawful :=
  record_lawful (withWildcard_lawful (pair_checked rfl etreeElement_lawful
        (pair_checked rfl (many_lawful SignalMessage.lawful (by decide))
          (pair_checked rfl (many_lawful UserMessage.lawful (by decide))
            (pair_checked rfl (optionalAttribute_lawful ..) (optionalAttribute_lawful ..))))) rfl) fun _ => rfl

end Messages

section Envelopes

theorem BinarySecurityToken.lawful : BinarySecurityToken.codec.Lawful :=
  record_lawful (pair_checked rfl (requiredAttribute_lawful ..)
      (pair_checked rfl (requiredAttribute_lawful ..)
        (pair_checked rfl (requiredAttribute_lawful ..) (requiredText_lawful ..)))) fun _ => rfl

theorem Security.lawful [Libraries] : Security.codec.Lawful :=
  record_lawful (pair_checked rfl (someOf_lawful BinarySecurityToken.lawful (by decide))
      (pair_checked rfl (optional_lawful EncryptedKey.lawful (by decide))
        (pair_checked rfl (optionalMany_lawful EncryptedType.lawful (by decide))
          (pair_checked rfl (optional_lawful Signature.lawful (by decide)) (attributeOr_lawful ..)))))
    fun _ => rfl

theorem Header.lawful [Libraries] : Header.codec.Lawful :=
  record_lawful (pair_checked rfl (singular_lawful Security.lawful (by decide)) (singular_lawful Messaging.lawful (by decide)))
    fun _ => rfl

theorem Body.lawful : Body.codec.Lawful :=
  record_lawful (withWildcard_lawful (pair_checked rfl etreeElement_lawful (optionalAttribute_lawful ..)) rfl)
    fun _ => rfl

theorem Envelope.lawful [Libraries] : Envelope.codec.Lawful :=
  record_lawful (pair_checked rfl etreeElement_lawful
      (pair_checked rfl (singular_lawful Header.lawful (by decide)) (singular_lawful Body.lawful (by decide))))
    fun _ => rfl

end Envelopes

section Documents

theorem Identifier.lawful : Identifier.codec.Lawful :=
  record_lawful (pair_checked rfl (optionalAttribute_lawful ..) (requiredText_lawful ..)) fun _ => rfl

theorem Participant.lawful : Participant.codec.Lawful :=
  record_lawful (singular_lawful Identifier.lawful (by decide)) fun _ => rfl

theorem DocumentIdentification.lawful [Libraries] : DocumentIdentification.codec.Lawful :=
  record_lawful (pair_checked rfl (singular_lawful (requiredText_lawful ..) (by decide))
      (pair_checked rfl (singular_lawful (requiredText_lawful ..) (by decide))
        (pair_checked rfl (singular_lawful (requiredText_lawful ..) (by decide))
          (pair_checked rfl (singular_lawful (requiredText_lawful ..) (by decide))
            (singular_lawful (requiredText_lawful ..) (by decide)))))) fun _ => rfl

theorem Scope.lawful : Scope.codec.Lawful :=
  record_lawful (pair_checked rfl (singular_lawful (requiredText_lawful ..) (by decide))
      (pair_checked rfl (singular_lawful (requiredText_lawful ..) (by decide))
        (optional_lawful (requiredText_lawful ..) (by decide)))) fun _ => rfl

theorem BusinessScope.lawful : BusinessScope.codec.Lawful :=
  record_lawful (someOf_lawful Scope.lawful (by decide)) fun _ => rfl

theorem StandardBusinessDocumentHeader.lawful [Libraries] : StandardBusinessDocumentHeader.codec.Lawful :=
  record_lawful (pair_checked rfl (singular_lawful (requiredText_lawful ..) (by decide))
      (pair_checked rfl (singular_lawful Participant.lawful (by decide))
        (pair_checked rfl (singular_lawful Participant.lawful (by decide))
          (pair_checked rfl (singular_lawful DocumentIdentification.lawful (by decide))
            (singular_lawful BusinessScope.lawful (by decide)))))) fun _ => rfl

theorem StandardBusinessDocument.lawful [Libraries] : StandardBusinessDocument.codec.Lawful :=
  record_lawful (withWildcard_lawful (singular_lawful StandardBusinessDocumentHeader.lawful (by decide)) rfl)
    fun _ => rfl

end Documents

end RecordLaws
