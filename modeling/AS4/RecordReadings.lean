import AS4.RecordLaws

/-!
What the fields of a record are after it was written and read back: strings lose
what is not written of them, wildcard content stays, and elements are those it was
read from.
-/

namespace RecordReadings
open ElementTree ElementCodec ElementCodec.Codec PythonData AS4Libraries SignatureModel EncryptionModel MessagingModel
  EnvelopeModel BusinessDocument

section Combinators
variable {α : Type} {c : Codec α} {tag : QName} {name text : String} {n : Located}

theorem singular_rereads {before after : α} (read : (singular tag name c).reread n before after) :
    ∃ child, c.reread child before after := by
  obtain ⟨child, -, -, same⟩ := read
  exact ⟨child, same⟩

theorem optional_rereads {before : α} {after : Option α} (read : (optional tag name c).reread n (some before) after) :
    ∃ value, after = some value ∧ ∃ child, c.reread child before value := by
  obtain ⟨value, rfl, child, -, -, same⟩ := optional_reread_some.mp read
  exact ⟨value, rfl, child, same⟩

theorem forall₂_rereads {before after : List α}
    (read : List.Forall₂ (fun value value' => Below n (c.element tag value) fun child => c.reread child value value')
      before after) : List.Forall₂ (fun value value' => ∃ child, c.reread child value value') before after := by
  refine read.imp ?_
  rintro value value' ⟨child, -, -, same⟩
  exact ⟨child, same⟩

theorem singularText_rereads {before after : String}
    (read : (singular tag name (stringText text)).reread n before after) : after = strip before := by
  obtain ⟨child, same⟩ := singular_rereads read
  exact requiredText_string_reread.mp same

theorem optionalText_rereads {before after : Option String}
    (read : (optional tag name (stringText text)).reread n before after) : after = before.map strip := by
  cases before with
  | none => exact optional_reread_none.mp read
  | some s =>
      obtain ⟨value, rfl, child, same⟩ := optional_rereads read
      rw [requiredText_string_reread.mp same]
      rfl

theorem singularTime_rereads [Libraries] {before after : Datetime}
    (read : (singular tag name (requiredText datetimeScalar text)).reread n before after) :
    Libraries.parseDatetime (strip (Libraries.isoformat before)) = .ok after := by
  obtain ⟨child, same⟩ := singular_rereads read
  exact same

end Combinators

section Signatures
variable {n : Located}

theorem Transform.rereads {before after : Transform} (read : Transform.codec.reread n before after) :
    after = { before with algorithm := written before.algorithm } := by
  obtain ⟨algorithm, content⟩ := after
  simpa [Transform.codec] using read

theorem DsigReference.rereads {before after : DsigReference} (read : DsigReference.codec.reread n before after) :
    after.transforms.transforms = before.transforms.transforms.map (fun transform =>
        { transform with algorithm := written transform.algorithm }) ∧
      after.digestMethod = before.digestMethod ∧ after.digestValue.text = strip before.digestValue.text ∧
        after.id = written before.id ∧ after.uri = written before.uri := by
  simp only [DsigReference.codec, record_reread, pair_reread, optionalAttribute_string_reread] at read
  obtain ⟨transformsRead, methodRead, valueRead, id, uri, -⟩ := read
  obtain ⟨transformsAt, transformsRead⟩ := singular_rereads transformsRead
  obtain ⟨methodAt, methodRead⟩ := singular_rereads methodRead
  obtain ⟨valueAt, valueRead⟩ := singular_rereads valueRead
  simp only [Transforms.codec, record_reread, many_reread] at transformsRead
  simp only [DigestMethod.codec, record_reread, requiredAttribute_string_reread] at methodRead
  simp only [DigestValue.codec, stringText, record_reread, requiredText_string_reread] at valueRead
  refine ⟨?_, ?_, valueRead, id, uri⟩
  · have each := forall₂_rereads transformsRead
    rw [← List.forall₂_eq_eq_eq, List.forall₂_map_right_iff]
    refine each.flip.imp ?_
    rintro transform' transform ⟨child, same⟩
    exact Transform.rereads same
  · exact congrArg DigestMethod.mk methodRead

theorem BinarySecurityToken.rereads {before after : BinarySecurityToken}
    (read : BinarySecurityToken.codec.reread n before after) :
    after = { before with value := strip before.value } := by
  obtain ⟨encodingType, valueType, bstId, value⟩ := after
  simpa [BinarySecurityToken.codec, stringText] using read

theorem WsseReference.rereads {before after : WsseReference} (read : WsseReference.codec.reread n before after) :
    after = { before with uri := written before.uri, valueType := written before.valueType } := by
  obtain ⟨uri, valueType, content⟩ := after
  simpa [WsseReference.codec, and_assoc] using read

theorem SecurityTokenReference.rereads {before after : SecurityTokenReference}
    (read : SecurityTokenReference.codec.reread n before after) :
    after.reference.uri = written before.reference.uri := by
  simp only [SecurityTokenReference.codec, record_reread, withWildcard_reread, pair_reread] at read
  obtain ⟨⟨-, -, referenceRead, -⟩, -⟩ := read
  obtain ⟨child, same⟩ := singular_rereads referenceRead
  rw [WsseReference.rereads same]

theorem KeyInfo.rereads [Libraries] {before after : KeyInfo} (read : KeyInfo.codec.reread n before after) :
    after.securityTokenReference.map (·.reference.uri) =
      before.securityTokenReference.map fun token => written token.reference.uri := by
  simp only [KeyInfo.codec, record_reread, pair_reread, many_reread] at read
  obtain ⟨-, -, -, -, -, -, -, -, tokensRead⟩ := read
  have each := forall₂_rereads tokensRead
  rw [← List.forall₂_eq_eq_eq, List.forall₂_map_left_iff, List.forall₂_map_right_iff]
  refine each.flip.imp ?_
  rintro token' token ⟨child, same⟩
  exact SecurityTokenReference.rereads same

theorem CanonicalizationMethod.rereads {before after : CanonicalizationMethod} {algorithm : String}
    (given : before.algorithm = some algorithm) (read : CanonicalizationMethod.codec.reread n before after) :
    after = before := by
  obtain ⟨algorithm', content⟩ := after
  obtain ⟨_, content'⟩ := before
  obtain rfl : _ = some algorithm := given
  simp only [CanonicalizationMethod.codec, record_reread, withWildcard_reread] at read
  obtain ⟨same, rfl⟩ := read
  have same : some algorithm = algorithm' := by
    simpa [requiredAttribute, Scalar.optional, Scalar.string, Except.map] using same
  rw [same]

theorem SignatureMethod.rereads {before after : SignatureMethod} (read : SignatureMethod.codec.reread n before after) :
    after = before := by
  obtain ⟨algorithm, content⟩ := after
  obtain ⟨algorithm', content'⟩ := before
  simpa [SignatureMethod.codec] using read

theorem SignedInfo.rereads {before after : SignedInfo} (read : SignedInfo.codec.reread n before after) :
    after.etreeElement = some n ∧
      (∃ child, CanonicalizationMethod.codec.reread child before.canonicalizationMethod after.canonicalizationMethod) ∧
        after.signatureMethod = before.signatureMethod ∧
          List.Forall₂ (fun reference reference' => ∃ child, DsigReference.codec.reread child reference reference')
            before.references after.references := by
  simp only [SignedInfo.codec, record_reread, pair_reread, etreeElement_reread, many_reread] at read
  obtain ⟨here, methodRead, signatureRead, referencesRead, -⟩ := read
  obtain ⟨methodAt, signatureRead⟩ := singular_rereads signatureRead
  exact ⟨here, singular_rereads methodRead, SignatureMethod.rereads signatureRead, forall₂_rereads referencesRead⟩

/-- A value that is written in Base64 is read back, unless it is empty. -/
theorem SignatureValue.rereads {before after : SignatureValue} (read : SignatureValue.codec.reread n before after) :
    after.value = before.value.filter (· ≠ []) := by
  simp only [SignatureValue.codec, record_reread, pair_reread] at read
  obtain ⟨valueRead, -⟩ := read
  cases value : before.value with
  | none => simpa [textOr, base64BytesOptional, Scalar.optional, value, strip, stripChars] using valueRead
  | some bytes =>
      rw [value] at valueRead
      by_cases empty : bytes = []
      · have absent : after.value = none := by
          simpa [textOr, base64BytesOptional, Scalar.optional, Base64.b64encode_eq_empty, empty] using valueRead
        simp [absent, empty, Option.filter]
      · have solid : Base64.b64encode bytes ≠ "" := fun none => empty (Base64.b64encode_eq_empty.mp none)
        have kept : (some bytes).filter (· ≠ []) = some bytes := by simp [Option.filter, empty]
        rw [kept, eq_comm]
        have decoded := decodeBase64Bytes_b64encode bytes
        simpa [textOr, base64BytesOptional, Scalar.optional, solid, decoded, Except.map] using valueRead

theorem Signature.rereads [Libraries] {before after : Signature} (read : Signature.codec.reread n before after) :
    Below n (SignedInfo.codec.element (ds "SignedInfo") before.signedInfo)
        (fun child => SignedInfo.codec.reread child before.signedInfo after.signedInfo) ∧
      after.signatureValue.value = before.signatureValue.value.filter (· ≠ []) ∧
        after.keyInfo.securityTokenReference.map (·.reference.uri) =
          before.keyInfo.securityTokenReference.map fun token => written token.reference.uri := by
  simp only [Signature.codec, record_reread, pair_reread] at read
  obtain ⟨infoRead, valueRead, keyRead, -⟩ := read
  obtain ⟨valueAt, valueRead⟩ := singular_rereads valueRead
  obtain ⟨keyAt, keyRead⟩ := singular_rereads keyRead
  exact ⟨singular_reread.mp infoRead, SignatureValue.rereads valueRead, KeyInfo.rereads keyRead⟩

end Signatures

section Signals
variable {n : Located} [Libraries]

omit [Libraries] in
theorem Description.rereads {before after : Description} (read : Description.codec.reread n before after) :
    after.value = strip before.value := by
  simp only [Description.codec, stringText, record_reread, pair_reread, requiredText_string_reread] at read
  exact read.1

theorem MessageInfo.rereads {before after : MessageInfo} (read : MessageInfo.codec.reread n before after) :
    Libraries.parseDatetime (strip (Libraries.isoformat before.timestamp)) = .ok after.timestamp ∧
      after.messageId = strip before.messageId ∧ after.refToMessageId = before.refToMessageId.map strip := by
  simp only [MessageInfo.codec, record_reread, pair_reread] at read
  obtain ⟨timeRead, idRead, refRead⟩ := read
  exact ⟨singularTime_rereads timeRead, singularText_rereads idRead, optionalText_rereads refRead⟩

omit [Libraries] in
theorem Error.rereads {before after : MessagingModel.Error} (read : Error.codec.reread n before after) :
    after.description.map (·.value) = before.description.map (fun description => strip description.value) ∧
      after.errorDetail = before.errorDetail.map strip ∧ after.category = written before.category ∧
        after.errorCode = before.errorCode ∧ after.severity = before.severity ∧
          after.shortDescription = written before.shortDescription := by
  simp only [Error.codec, record_reread, pair_reread, optionalAttribute_string_reread,
    requiredAttribute_string_reread] at read
  obtain ⟨descriptionRead, detailRead, category, -, code, -, severity, short⟩ := read
  refine ⟨?_, optionalText_rereads detailRead, category, code, severity, short⟩
  cases given : before.description with
  | none =>
      rw [given] at descriptionRead
      rw [optional_reread_none.mp descriptionRead]
      rfl
  | some description =>
      rw [given] at descriptionRead
      obtain ⟨description', same, child, kept⟩ := optional_rereads descriptionRead
      rw [same]
      exact congrArg some (Description.rereads kept)

omit [Libraries] in
theorem NonRepudiationInformation.rereads {before after : NonRepudiationInformation}
    (read : NonRepudiationInformation.codec.reread n before after) :
    List.Forall₂ (fun part part' => List.Forall₂ (fun reference reference' =>
        ∃ child, DsigReference.codec.reread child reference reference') part.references part'.references)
      before.messagePartNrInformation after.messagePartNrInformation := by
  simp only [NonRepudiationInformation.codec, record_reread, many_reread] at read
  refine (forall₂_rereads read).imp ?_
  rintro part part' ⟨child, same⟩
  simp only [MessagePartNRInformation.codec, record_reread, someOf_reread] at same
  exact forall₂_rereads same

omit [Libraries] in
theorem Receipt.rereads {before after : Receipt} {information : NonRepudiationInformation}
    (given : before.nonRepudiationInformation = some information) (read : Receipt.codec.reread n before after) :
    ∃ information', after.nonRepudiationInformation = some information' ∧
      ∃ child, NonRepudiationInformation.codec.reread child information information' := by
  simp only [Receipt.codec, record_reread, withWildcard_reread, given] at read
  exact optional_rereads read.1

/-- A signal keeps its message info, its receipt and its errors. -/
theorem SignalMessage.rereads {before after : SignalMessage} (read : SignalMessage.codec.reread n before after) :
    (∃ child, MessageInfo.codec.reread child before.messageInfo after.messageInfo) ∧
      Option.Rel (fun receipt receipt' => ∃ child, Receipt.codec.reread child receipt receipt') before.receipt after.receipt ∧
        List.Forall₂ (fun error error' => ∃ child, Error.codec.reread child error error') before.errors after.errors := by
  simp only [SignalMessage.codec, record_reread, withWildcard_reread, pair_reread, many_reread] at read
  obtain ⟨⟨infoRead, -, receiptRead, errorsRead⟩, -⟩ := read
  refine ⟨singular_rereads infoRead, ?_, forall₂_rereads errorsRead⟩
  cases given : before.receipt with
  | none =>
      rw [given] at receiptRead
      rw [optional_reread_none.mp receiptRead]
      exact .none
  | some receipt =>
      rw [given] at receiptRead
      obtain ⟨receipt', same, kept⟩ := optional_rereads receiptRead
      rw [same]
      exact .some kept

theorem Messaging.rereads {before after : Messaging} (read : Messaging.codec.reread n before after) :
    after.etreeElement = some n ∧
      List.Forall₂ (fun signal signal' => ∃ child, SignalMessage.codec.reread child signal signal')
        before.signalMessages after.signalMessages ∧
        List.Forall₂ (fun user user' => ∃ child, UserMessage.codec.reread child user user')
          before.userMessages after.userMessages := by
  simp only [Messaging.codec, record_reread, withWildcard_reread, pair_reread, etreeElement_reread, many_reread] at read
  obtain ⟨⟨here, signalsRead, usersRead, -⟩, -⟩ := read
  exact ⟨here, forall₂_rereads signalsRead, forall₂_rereads usersRead⟩

end Signals

section Envelopes
variable {n : Located} [Libraries]

theorem Security.rereads {before after : Security} (read : Security.codec.reread n before after) :
    after.binarySecurityTokens =
        before.binarySecurityTokens.map (fun token => { token with value := strip token.value }) ∧
      Option.Rel (fun key key' => ∃ child, EncryptedKey.codec.reread child key key') before.encryptedKey
        after.encryptedKey ∧
        List.Forall₂ (fun data data' => ∃ child, EncryptedType.codec.reread child data data')
          (before.encryptedData.getD []) (after.encryptedData.getD []) ∧
          Option.Rel (fun signature signature' => Below n (Signature.codec.element (ds "Signature") signature)
              fun child => Signature.codec.reread child signature signature') before.signature after.signature := by
  simp only [Security.codec, record_reread, pair_reread, someOf_reread] at read
  obtain ⟨tokensRead, keyRead, dataRead, signatureRead, -⟩ := read
  refine ⟨?_, ?_, forall₂_rereads (optionalMany_reread dataRead), signatureRead⟩
  · rw [← List.forall₂_eq_eq_eq, List.forall₂_map_right_iff]
    refine (forall₂_rereads tokensRead).flip.imp ?_
    rintro token' token ⟨child, same⟩
    exact BinarySecurityToken.rereads same
  · cases given : before.encryptedKey with
    | none =>
        rw [given] at keyRead
        rw [optional_reread_none.mp keyRead]
        exact .none
    | some key =>
        rw [given] at keyRead
        obtain ⟨key', same, kept⟩ := optional_rereads keyRead
        rw [same]
        exact .some kept

theorem Header.rereads {before after : Header} (read : Header.codec.reread n before after) :
    Below n (Security.codec.element (wsse "Security") before.security)
        (fun child => Security.codec.reread child before.security after.security) ∧
      Below n (Messaging.codec.element (eb3 "Messaging") before.messaging)
        fun child => Messaging.codec.reread child before.messaging after.messaging := by
  simpa only [Header.codec, record_reread, pair_reread, singular_reread] using read

theorem Envelope.rereads {before after : Envelope} (read : Envelope.codec.reread n before after) :
    Below n (Header.codec.element (soap12 "Header") before.header)
        (fun child => Header.codec.reread child before.header after.header) ∧
      Below n (Body.codec.element (soap12 "Body") before.body)
        fun child => Body.codec.reread child before.body after.body := by
  simp only [Envelope.codec, record_reread, pair_reread, singular_reread] at read
  exact read.2

end Envelopes

section UserMessages
variable {n : Located} [Libraries]

omit [Libraries] in
theorem PartyId.rereads {before after : PartyId} (read : PartyId.codec.reread n before after) :
    after = ⟨strip before.value, written before.typeValue⟩ := by
  obtain ⟨value, typeValue⟩ := after
  simpa [PartyId.codec] using read

omit [Libraries] in
theorem Party.rereads {before after : Party} (read : Party.codec.reread n before after) :
    after = ⟨⟨strip before.partyId.value, written before.partyId.typeValue⟩, strip before.role⟩ := by
  obtain ⟨partyId, role⟩ := after
  simp only [Party.codec, record_reread, pair_reread] at read
  obtain ⟨idRead, roleRead⟩ := read
  obtain ⟨child, same⟩ := singular_rereads idRead
  rw [PartyId.rereads same, singularText_rereads roleRead]

omit [Libraries] in
theorem Property.rereads {before after : Property} (read : Property.codec.reread n before after) :
    after = ⟨written before.propertyType, strip before.value, before.name⟩ := by
  obtain ⟨propertyType, value, name⟩ := after
  simpa [Property.codec, stringText] using read

omit [Libraries] in
theorem properties_reread {tag : QName} {name : String} {before after : List Property}
    (read : (manyMinOne tag name Property.codec).reread n before after) :
    after = before.map fun property => ⟨written property.propertyType, strip property.value, property.name⟩ := by
  rw [← List.forall₂_eq_eq_eq, List.forall₂_map_right_iff]
  refine (forall₂_rereads (manyMinOne_reread.mp read)).flip.imp ?_
  rintro property' property ⟨child, same⟩
  exact Property.rereads same

omit [Libraries] in
theorem PartInfo.rereads {before after : PartInfo} (read : PartInfo.codec.reread n before after) :
    after.partProperties.properties = before.partProperties.properties.map (fun property =>
        ⟨written property.propertyType, strip property.value, property.name⟩) ∧
      after.href = written before.href := by
  simp only [PartInfo.codec, record_reread, pair_reread, optionalAttribute_string_reread] at read
  obtain ⟨-, -, partRead, href⟩ := read
  obtain ⟨child, same⟩ := singular_rereads partRead
  simp only [PartProperties.codec, record_reread] at same
  exact ⟨properties_reread same, href⟩

/-- What is read of a user message is what was written, trimmed. -/
theorem UserMessage.rereads {before after : UserMessage} (read : UserMessage.codec.reread n before after) :
    (∃ child, MessageInfo.codec.reread child before.messageInfo after.messageInfo) ∧
      (∃ child, Party.codec.reread child before.partyInfo.partyFrom after.partyInfo.partyFrom) ∧
        (∃ child, Party.codec.reread child before.partyInfo.partyTo after.partyInfo.partyTo) ∧
          after.messageProperties.map (·.properties) = before.messageProperties.map (fun properties =>
            properties.properties.map fun property =>
              (⟨written property.propertyType, strip property.value, property.name⟩ : Property)) ∧
            Option.Rel (fun payload payload' => List.Forall₂ (fun part part' =>
              ∃ child, PartInfo.codec.reread child part part') payload.partInfo payload'.partInfo)
              before.payloadInfo after.payloadInfo := by
  simp only [UserMessage.codec, record_reread, pair_reread] at read
  obtain ⟨infoRead, partiesRead, -, propertiesRead, payloadRead, -⟩ := read
  obtain ⟨partiesAt, partiesRead⟩ := singular_rereads partiesRead
  simp only [PartyInfo.codec, record_reread, pair_reread] at partiesRead
  refine ⟨singular_rereads infoRead, singular_rereads partiesRead.1, singular_rereads partiesRead.2, ?_, ?_⟩
  · cases given : before.messageProperties with
    | none =>
        rw [given] at propertiesRead
        rw [optional_reread_none.mp propertiesRead]
        rfl
    | some properties =>
        rw [given] at propertiesRead
        obtain ⟨properties', same, child, kept⟩ := optional_rereads propertiesRead
        rw [same]
        simp only [MessageProperties.codec, record_reread] at kept
        exact congrArg some (properties_reread kept)
  · cases given : before.payloadInfo with
    | none =>
        rw [given] at payloadRead
        rw [optional_reread_none.mp payloadRead]
        exact .none
    | some payload =>
        rw [given] at payloadRead
        obtain ⟨payload', same, child, kept⟩ := optional_rereads payloadRead
        rw [same]
        simp only [PayloadInfo.codec, record_reread, manyMinOne_reread] at kept
        exact .some (forall₂_rereads kept)

end UserMessages

section Encryption
variable {n : Located} [Libraries]

omit [Libraries] in
theorem CipherValue.rereads {before after : CipherValue} {value : String} (given : before.value = some value)
    (solid : strip value ≠ "") (read : CipherValue.codec.reread n before after) : after.value = some (strip value) := by
  simp only [CipherValue.codec, record_reread] at read
  rw [eq_comm]
  simpa [textOr, Scalar.optional, Scalar.string, given, solid, Except.map] using read

theorem EncryptedType.rereads {before after : EncryptedType} (read : EncryptedType.codec.reread n before after) :
    after.encryptionMethod.algorithm = before.encryptionMethod.algorithm ∧
      (∃ child, CipherData.codec.reread child before.cipherData after.cipherData) ∧
        after.encryptedTypeId = written before.encryptedTypeId := by
  simp only [EncryptedType.codec, record_reread, pair_reread, optionalAttribute_string_reread] at read
  obtain ⟨methodRead, -, dataRead, -, id, -⟩ := read
  obtain ⟨child, same⟩ := singular_rereads methodRead
  simp only [EncryptionMethod.codec, record_reread, withWildcard_reread, pair_reread,
    requiredAttribute_string_reread] at same
  exact ⟨same.1.1, singular_rereads dataRead, id⟩

omit [Libraries] in
theorem CipherData.rereads_value {before after : CipherData} {value : CipherValue} (given : before.cipherValue = some value)
    (read : CipherData.codec.reread n before after) :
    ∃ value', after.cipherValue = some value' ∧ ∃ child, CipherValue.codec.reread child value value' := by
  simp only [CipherData.codec, record_reread, pair_reread, given] at read
  exact optional_rereads read.1

omit [Libraries] in
theorem CipherData.rereads_reference {before after : CipherData} {reference : CipherReference}
    (given : before.cipherReference = some reference) (read : CipherData.codec.reread n before after) :
    ∃ reference', after.cipherReference = some reference' ∧ reference'.uri = written reference.uri := by
  simp only [CipherData.codec, record_reread, pair_reread, given] at read
  obtain ⟨reference', same, child, kept⟩ := optional_rereads read.2
  simp only [CipherReference.codec, record_reread, pair_reread, optionalAttribute_string_reread] at kept
  exact ⟨reference', same, kept.2⟩

theorem EncryptedKey.rereads {before after : EncryptedKey} (read : EncryptedKey.codec.reread n before after) :
    EncryptedType.codec.reread n before.toEncryptedType after.toEncryptedType ∧
      after.referenceList.dataReference.map (·.uri) =
        before.referenceList.dataReference.map fun reference => written reference.uri := by
  simp only [EncryptedKey.codec, record_reread, pair_reread] at read
  obtain ⟨typeRead, listRead, -⟩ := read
  obtain ⟨child, same⟩ := singular_rereads listRead
  simp only [ReferenceList.codec, record_reread, pair_reread, many_reread] at same
  refine ⟨typeRead, ?_⟩
  rw [← List.forall₂_eq_eq_eq, List.forall₂_map_left_iff, List.forall₂_map_right_iff]
  refine (forall₂_rereads same.1).flip.imp ?_
  rintro reference' reference ⟨at', kept⟩
  simp only [XencReference.codec, record_reread, withWildcard_reread, optionalAttribute_string_reread] at kept
  exact kept.1

end Encryption

section Documents
variable {n : Located} [Libraries]

omit [Libraries] in
theorem Participant.rereads {before after : Participant} (read : Participant.codec.reread n before after) :
    after.identifier = ⟨written before.identifier.authority, strip before.identifier.value⟩ := by
  simp only [Participant.codec, record_reread] at read
  obtain ⟨child, same⟩ := singular_rereads read
  obtain ⟨⟨authority, value⟩⟩ := after
  simpa [Identifier.codec, stringText] using same

omit [Libraries] in
theorem Scope.rereads {before after : Scope} (read : Scope.codec.reread n before after) :
    after = ⟨strip before.scopeType, strip before.instanceIdentifier, before.identifier.map strip⟩ := by
  obtain ⟨scopeType, instanceIdentifier, identifier⟩ := after
  simp only [Scope.codec, record_reread, pair_reread] at read
  obtain ⟨typeRead, instanceRead, identifierRead⟩ := read
  rw [singularText_rereads typeRead, singularText_rereads instanceRead, optionalText_rereads identifierRead]

theorem StandardBusinessDocument.rereads {before after : StandardBusinessDocument}
    (read : StandardBusinessDocument.codec.reread n before after) :
    after.standardBusinessDocumentHeader.sender.identifier =
        ⟨written before.standardBusinessDocumentHeader.sender.identifier.authority,
          strip before.standardBusinessDocumentHeader.sender.identifier.value⟩ ∧
      after.standardBusinessDocumentHeader.receiver.identifier =
        ⟨written before.standardBusinessDocumentHeader.receiver.identifier.authority,
          strip before.standardBusinessDocumentHeader.receiver.identifier.value⟩ ∧
        after.standardBusinessDocumentHeader.businessScope.scopes =
          before.standardBusinessDocumentHeader.businessScope.scopes.map fun scope =>
            ⟨strip scope.scopeType, strip scope.instanceIdentifier, scope.identifier.map strip⟩ := by
  simp only [StandardBusinessDocument.codec, record_reread, withWildcard_reread] at read
  obtain ⟨headerAt, read⟩ := singular_rereads read.1
  simp only [StandardBusinessDocumentHeader.codec, record_reread, pair_reread] at read
  obtain ⟨-, senderRead, receiverRead, -, scopeRead⟩ := read
  obtain ⟨senderAt, senderRead⟩ := singular_rereads senderRead
  obtain ⟨receiverAt, receiverRead⟩ := singular_rereads receiverRead
  obtain ⟨scopeAt, scopeRead⟩ := singular_rereads scopeRead
  simp only [BusinessScope.codec, record_reread, someOf_reread] at scopeRead
  refine ⟨Participant.rereads senderRead, Participant.rereads receiverRead, ?_⟩
  rw [← List.forall₂_eq_eq_eq, List.forall₂_map_right_iff]
  refine (forall₂_rereads scopeRead).flip.imp ?_
  rintro scope' scope ⟨child, same⟩
  exact Scope.rereads same

end Documents

end RecordReadings
