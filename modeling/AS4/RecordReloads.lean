import AS4.BusinessDocument
import AS4.EnvelopeModel
import AS4.ReloadLaws

/-!
Every record of the library loads again as `ReloadLaws` says.
-/

namespace RecordReloads
open ElementTree ElementCodec ElementCodec.Codec PythonData AS4Libraries SignatureModel EncryptionModel MessagingModel
  EnvelopeModel BusinessDocument

section Signatures

theorem Transform.keeps : Keeps Transform.codec :=
  record_keeps (withWildcard_keeps (optionalAttribute_keeps ..) fun _ => rfl) fun _ => rfl

theorem Transforms.keeps : Keeps Transforms.codec :=
  record_keeps (many_keeps Transform.keeps) fun _ => rfl

theorem DigestMethod.keeps : Keeps DigestMethod.codec :=
  record_keeps (requiredAttribute_keeps ..) fun _ => rfl

theorem DigestValue.keeps : Keeps DigestValue.codec :=
  record_keeps (requiredText_keeps ..) fun _ => rfl

theorem DsigReference.keeps : Keeps DsigReference.codec :=
  record_keeps (pair_keeps (singular_keeps Transforms.keeps)
      (pair_keeps (singular_keeps DigestMethod.keeps)
        (pair_keeps (singular_keeps DigestValue.keeps)
          (pair_keeps (optionalAttribute_keeps ..)
            (pair_keeps (optionalAttribute_keeps ..) (optionalAttribute_keeps ..)))))) fun _ => rfl

theorem WsseReference.keeps : Keeps WsseReference.codec :=
  record_keeps (withWildcard_keeps (pair_keeps (optionalAttribute_keeps ..) (optionalAttribute_keeps ..)) fun _ => rfl)
    fun _ => rfl

theorem SecurityTokenReference.keeps : Keeps SecurityTokenReference.codec :=
  record_keeps (withWildcard_keeps (pair_keeps (optionalAttribute_keeps ..)
        (pair_keeps (attributeOr_keeps ..)
          (pair_keeps (singular_keeps WsseReference.keeps) (optionalAttribute_keeps ..)))) fun _ => rfl)
    fun _ => rfl

theorem BinaryText.keeps : Keeps BinaryText.codec :=
  record_keeps (requiredText_keeps ..) fun _ => rfl

theorem KeyName.keeps : Keeps KeyName.codec :=
  record_keeps (requiredText_keeps ..) fun _ => rfl

theorem KeyValue.keeps : Keeps KeyValue.codec :=
  record_keeps (withWildcard_keeps nothing_keeps fun _ => rfl) fun _ => rfl

theorem RetrievalMethod.keeps : Keeps RetrievalMethod.codec :=
  record_keeps (pair_keeps (many_keeps Transforms.keeps)
      (pair_keeps (optionalAttribute_keeps ..) (optionalAttribute_keeps ..))) fun _ => rfl

theorem X509IssuerSerial.keeps [Libraries] : Keeps X509IssuerSerial.codec :=
  record_keeps (pair_keeps (singular_keeps (requiredText_keeps ..))
      (singular_keeps (requiredText_keeps ..))) fun _ => rfl

theorem X509Data.keeps [Libraries] : Keeps X509Data.codec :=
  record_keeps (pair_keeps (manyMinOne_keeps X509IssuerSerial.keeps)
      (pair_keeps (manyMinOne_keeps BinaryText.keeps)
        (pair_keeps (manyMinOne_keeps (requiredText_keeps ..))
          (pair_keeps (manyMinOne_keeps BinaryText.keeps) (manyMinOne_keeps BinaryText.keeps))))) fun _ => rfl

theorem PGPData.keeps : Keeps PGPData.codec :=
  record_keeps (pair_keeps (singular_keeps BinaryText.keeps) (many_keeps BinaryText.keeps)) fun _ => rfl

theorem SPKIData.keeps : Keeps SPKIData.codec :=
  record_keeps (many_keeps BinaryText.keeps) fun _ => rfl

theorem MgmtData.keeps : Keeps MgmtData.codec :=
  record_keeps (textOr_keeps ..) fun _ => rfl

theorem KeyInfo.keeps [Libraries] : Keeps KeyInfo.codec :=
  record_keeps (pair_keeps (optionalAttribute_keeps ..)
      (pair_keeps (many_keeps KeyName.keeps)
        (pair_keeps (many_keeps KeyValue.keeps)
          (pair_keeps (many_keeps RetrievalMethod.keeps)
            (pair_keeps (many_keeps X509Data.keeps)
              (pair_keeps (many_keeps PGPData.keeps)
                (pair_keeps (many_keeps SPKIData.keeps)
                  (pair_keeps (many_keeps MgmtData.keeps)
                    (many_keeps SecurityTokenReference.keeps))))))))) fun _ => rfl

theorem CanonicalizationMethod.keeps : Keeps CanonicalizationMethod.codec :=
  record_keeps (withWildcard_keeps (requiredAttribute_keeps ..) fun _ => rfl) fun _ => rfl

theorem SignatureMethod.keeps : Keeps SignatureMethod.codec :=
  record_keeps (withWildcard_keeps (requiredAttribute_keeps ..) fun _ => rfl) fun _ => rfl

theorem SignedInfo.keeps : Keeps SignedInfo.codec :=
  record_keeps (pair_keeps etreeElement_keeps
      (pair_keeps (singular_keeps CanonicalizationMethod.keeps)
        (pair_keeps (singular_keeps SignatureMethod.keeps)
          (pair_keeps (many_keeps DsigReference.keeps) (optionalAttribute_keeps ..))))) fun _ => rfl

theorem SignatureObject.keeps : Keeps SignatureObject.codec :=
  record_keeps (withWildcard_keeps (pair_keeps (optionalAttribute_keeps ..)
        (pair_keeps (optionalAttribute_keeps ..) (optionalAttribute_keeps ..))) fun _ => rfl) fun _ => rfl

theorem SignatureValue.keeps : Keeps SignatureValue.codec :=
  record_keeps (pair_keeps (textOr_keeps ..) (optionalAttribute_keeps ..)) fun _ => rfl

theorem Signature.keeps [Libraries] : Keeps Signature.codec :=
  record_keeps (pair_keeps (singular_keeps SignedInfo.keeps)
      (pair_keeps (singular_keeps SignatureValue.keeps)
        (pair_keeps (singular_keeps KeyInfo.keeps)
          (pair_keeps (many_keeps SignatureObject.keeps) (optionalAttribute_keeps ..))))) fun _ => rfl

end Signatures

section Encryption

theorem MGF.keeps : Keeps MGF.codec :=
  record_keeps (requiredAttribute_keeps ..) fun _ => rfl

theorem EncryptionMethod.keeps : Keeps EncryptionMethod.codec :=
  record_keeps (withWildcard_keeps (pair_keeps (requiredAttribute_keeps ..)
        (pair_keeps (optional_keeps DigestMethod.keeps) (optional_keeps MGF.keeps))) fun _ => rfl) fun _ => rfl

theorem XencTransforms.keeps : Keeps XencTransforms.codec :=
  record_keeps (manyMinOne_keeps Transform.keeps) fun _ => rfl

theorem CipherReference.keeps : Keeps CipherReference.codec :=
  record_keeps (pair_keeps (singular_keeps XencTransforms.keeps) (optionalAttribute_keeps ..)) fun _ => rfl

theorem CipherValue.keeps : Keeps CipherValue.codec :=
  record_keeps (textOr_keeps ..) fun _ => rfl

theorem CipherData.keeps : Keeps CipherData.codec :=
  record_keeps (pair_keeps (optional_keeps CipherValue.keeps) (optional_keeps CipherReference.keeps))
    fun _ => rfl

theorem EncryptionProperty.keeps : Keeps EncryptionProperty.codec :=
  record_keeps (withWildcard_keeps (pair_keeps (optionalAttribute_keeps ..) (optionalAttribute_keeps ..)) fun _ => rfl)
    fun _ => rfl

theorem EncryptionProperties.keeps : Keeps EncryptionProperties.codec :=
  record_keeps (pair_keeps (manyMinOne_keeps EncryptionProperty.keeps) (optionalAttribute_keeps ..))
    fun _ => rfl

theorem XencReference.keeps : Keeps XencReference.codec :=
  record_keeps (withWildcard_keeps (optionalAttribute_keeps ..) fun _ => rfl) fun _ => rfl

theorem ReferenceList.keeps : Keeps ReferenceList.codec :=
  record_keeps (pair_keeps (many_keeps XencReference.keeps) (many_keeps XencReference.keeps)) fun _ => rfl

theorem EncryptedType.keeps [Libraries] : Keeps EncryptedType.codec :=
  record_keeps (pair_keeps (singular_keeps EncryptionMethod.keeps)
      (pair_keeps (singular_keeps KeyInfo.keeps)
        (pair_keeps (singular_keeps CipherData.keeps)
          (pair_keeps (many_keeps EncryptionProperties.keeps)
            (pair_keeps (optionalAttribute_keeps ..)
              (pair_keeps (optionalAttribute_keeps ..)
                (pair_keeps (optionalAttribute_keeps ..) (optionalAttribute_keeps ..)))))))) fun _ => rfl

theorem CarriedKeyName.keeps : Keeps CarriedKeyName.codec :=
  record_keeps (textOr_keeps ..) fun _ => rfl

theorem EncryptedKey.keeps [Libraries] : Keeps EncryptedKey.codec :=
  record_keeps (pair_keeps EncryptedType.keeps
      (pair_keeps (singular_keeps ReferenceList.keeps)
        (pair_keeps (many_keeps CarriedKeyName.keeps) (optionalAttribute_keeps ..)))) fun _ => rfl

end Encryption

section Messages

theorem Description.keeps : Keeps Description.codec :=
  record_keeps (pair_keeps (requiredText_keeps ..) (attributeOr_keeps ..)) fun _ => rfl

theorem MessageInfo.keeps [Libraries] : Keeps MessageInfo.codec :=
  record_keeps (pair_keeps (singular_keeps (requiredText_keeps ..))
      (pair_keeps (singular_keeps (requiredText_keeps ..))
        (optional_keeps (requiredText_keeps ..)))) fun _ => rfl

theorem PartyId.keeps : Keeps PartyId.codec :=
  record_keeps (pair_keeps (textOr_keeps ..) (optionalAttribute_keeps ..)) fun _ => rfl

theorem Party.keeps : Keeps Party.codec :=
  record_keeps (pair_keeps (singular_keeps PartyId.keeps) (singular_keeps (requiredText_keeps ..))) fun _ => rfl

theorem PartyInfo.keeps : Keeps PartyInfo.codec :=
  record_keeps (pair_keeps (singular_keeps Party.keeps) (singular_keeps Party.keeps)) fun _ => rfl

theorem AgreementRef.keeps : Keeps AgreementRef.codec :=
  record_keeps (pair_keeps (requiredText_keeps ..)
      (pair_keeps (optionalAttribute_keeps ..) (optionalAttribute_keeps ..))) fun _ => rfl

theorem Service.keeps : Keeps Service.codec :=
  record_keeps (pair_keeps (requiredText_keeps ..) (optionalAttribute_keeps ..)) fun _ => rfl

theorem CollaborationInfo.keeps : Keeps CollaborationInfo.codec :=
  record_keeps (pair_keeps (optional_keeps AgreementRef.keeps)
      (pair_keeps (singular_keeps Service.keeps)
        (pair_keeps (singular_keeps (requiredText_keeps ..))
          (singular_keeps (requiredText_keeps ..))))) fun _ => rfl

theorem Property.keeps : Keeps Property.codec :=
  record_keeps (pair_keeps (optionalAttribute_keeps ..)
      (pair_keeps (requiredText_keeps ..) (requiredAttribute_keeps ..))) fun _ => rfl

theorem MessageProperties.keeps : Keeps MessageProperties.codec :=
  record_keeps (manyMinOne_keeps Property.keeps) fun _ => rfl

theorem Schema.keeps : Keeps Schema.codec :=
  record_keeps (pair_keeps (requiredAttribute_keeps ..)
      (pair_keeps (optionalAttribute_keeps ..) (optionalAttribute_keeps ..))) fun _ => rfl

theorem PartProperties.keeps : Keeps PartProperties.codec :=
  record_keeps (manyMinOne_keeps Property.keeps) fun _ => rfl

theorem PartInfo.keeps : Keeps PartInfo.codec :=
  record_keeps (pair_keeps (many_keeps Schema.keeps)
      (pair_keeps (many_keeps Description.keeps)
        (pair_keeps (singular_keeps PartProperties.keeps) (optionalAttribute_keeps ..)))) fun _ => rfl

theorem PayloadInfo.keeps : Keeps PayloadInfo.codec :=
  record_keeps (manyMinOne_keeps PartInfo.keeps) fun _ => rfl

theorem UserMessage.keeps [Libraries] : Keeps UserMessage.codec :=
  record_keeps (pair_keeps (singular_keeps MessageInfo.keeps)
      (pair_keeps (singular_keeps PartyInfo.keeps)
        (pair_keeps (singular_keeps CollaborationInfo.keeps)
          (pair_keeps (optional_keeps MessageProperties.keeps)
            (pair_keeps (optional_keeps PayloadInfo.keeps) (optionalAttribute_keeps ..)))))) fun _ => rfl

theorem MessagePartNRInformation.keeps : Keeps MessagePartNRInformation.codec :=
  record_keeps (someOf_keeps DsigReference.keeps) fun _ => rfl

theorem NonRepudiationInformation.keeps : Keeps NonRepudiationInformation.codec :=
  record_keeps (many_keeps MessagePartNRInformation.keeps) fun _ => rfl

theorem PullRequest.keeps : Keeps PullRequest.codec :=
  record_keeps (withWildcard_keeps (optionalAttribute_keeps ..) fun _ => rfl) fun _ => rfl

theorem Receipt.keeps : Keeps Receipt.codec :=
  record_keeps (withWildcard_keeps (optional_keeps NonRepudiationInformation.keeps) fun _ => rfl) fun _ => rfl

theorem Error.keeps : Keeps Error.codec :=
  record_keeps (pair_keeps (optional_keeps Description.keeps)
      (pair_keeps (optional_keeps (requiredText_keeps ..))
        (pair_keeps (optionalAttribute_keeps ..)
          (pair_keeps (optionalAttribute_keeps ..)
            (pair_keeps (requiredAttribute_keeps ..)
              (pair_keeps (optionalAttribute_keeps ..)
                (pair_keeps (requiredAttribute_keeps ..) (optionalAttribute_keeps ..)))))))) fun _ => rfl

theorem SignalMessage.keeps [Libraries] : Keeps SignalMessage.codec :=
  record_keeps (withWildcard_keeps (pair_keeps (singular_keeps MessageInfo.keeps)
        (pair_keeps (optional_keeps PullRequest.keeps)
          (pair_keeps (optional_keeps Receipt.keeps) (many_keeps Error.keeps)))) fun _ => rfl) fun _ => rfl

theorem Messaging.keeps [Libraries] : Keeps Messaging.codec :=
  record_keeps (withWildcard_keeps (pair_keeps etreeElement_keeps
        (pair_keeps (many_keeps SignalMessage.keeps)
          (pair_keeps (many_keeps UserMessage.keeps)
            (pair_keeps (optionalAttribute_keeps ..) (optionalAttribute_keeps ..))))) fun _ => rfl) fun _ => rfl

end Messages

section Envelopes

theorem BinarySecurityToken.keeps : Keeps BinarySecurityToken.codec :=
  record_keeps (pair_keeps (requiredAttribute_keeps ..)
      (pair_keeps (requiredAttribute_keeps ..)
        (pair_keeps (requiredAttribute_keeps ..) (requiredText_keeps ..)))) fun _ => rfl

theorem Security.keeps [Libraries] : Keeps Security.codec :=
  record_keeps (pair_keeps (someOf_keeps BinarySecurityToken.keeps)
      (pair_keeps (optional_keeps EncryptedKey.keeps)
        (pair_keeps (optionalMany_keeps EncryptedType.keeps)
          (pair_keeps (optional_keeps Signature.keeps) (attributeOr_keeps ..))))) fun _ => rfl

theorem Header.keeps [Libraries] : Keeps Header.codec :=
  record_keeps (pair_keeps (singular_keeps Security.keeps) (singular_keeps Messaging.keeps)) fun _ => rfl

theorem Body.keeps : Keeps Body.codec :=
  record_keeps (withWildcard_keeps (pair_keeps etreeElement_keeps (optionalAttribute_keeps ..)) fun _ => rfl)
    fun _ => rfl

theorem Envelope.keeps [Libraries] : Keeps Envelope.codec :=
  record_keeps (pair_keeps etreeElement_keeps
      (pair_keeps (singular_keeps Header.keeps) (singular_keeps Body.keeps))) fun _ => rfl

end Envelopes

section Documents

theorem Identifier.keeps : Keeps Identifier.codec :=
  record_keeps (pair_keeps (optionalAttribute_keeps ..) (requiredText_keeps ..)) fun _ => rfl

theorem Participant.keeps : Keeps Participant.codec :=
  record_keeps (singular_keeps Identifier.keeps) fun _ => rfl

theorem DocumentIdentification.keeps [Libraries] : Keeps DocumentIdentification.codec :=
  record_keeps (pair_keeps (singular_keeps (requiredText_keeps ..))
      (pair_keeps (singular_keeps (requiredText_keeps ..))
        (pair_keeps (singular_keeps (requiredText_keeps ..))
          (pair_keeps (singular_keeps (requiredText_keeps ..))
            (singular_keeps (requiredText_keeps ..)))))) fun _ => rfl

theorem Scope.keeps : Keeps Scope.codec :=
  record_keeps (pair_keeps (singular_keeps (requiredText_keeps ..))
      (pair_keeps (singular_keeps (requiredText_keeps ..))
        (optional_keeps (requiredText_keeps ..)))) fun _ => rfl

theorem BusinessScope.keeps : Keeps BusinessScope.codec :=
  record_keeps (someOf_keeps Scope.keeps) fun _ => rfl

theorem StandardBusinessDocumentHeader.keeps [Libraries] : Keeps StandardBusinessDocumentHeader.codec :=
  record_keeps (pair_keeps (singular_keeps (requiredText_keeps ..))
      (pair_keeps (singular_keeps Participant.keeps)
        (pair_keeps (singular_keeps Participant.keeps)
          (pair_keeps (singular_keeps DocumentIdentification.keeps)
            (singular_keeps BusinessScope.keeps))))) fun _ => rfl

theorem StandardBusinessDocument.keeps [Libraries] : Keeps StandardBusinessDocument.codec :=
  record_keeps (withWildcard_keeps (singular_keeps StandardBusinessDocumentHeader.keeps) fun _ => rfl)
    fun _ => rfl

end Documents

end RecordReloads
