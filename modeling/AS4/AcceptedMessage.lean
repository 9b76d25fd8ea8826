import AS4.MessageParsing

/-!
What it takes for a message to be accepted: every stage of `parse` returned. The
inversion is done once, here; the results about accepted messages start from
`Accepts` and do not unfold the parser again.
-/

namespace AcceptedMessage
open ElementTree ElementCodec FallibleSteps PythonData AS4Libraries AS4Errors SignatureModel MessagingModel
  EnvelopeModel BusinessDocument Verification MessageParsing

variable [Libraries]

/-- The intermediate results of an accepted message. `decrypted` holds the
attachments as they were decrypted, before any decompression. -/
structure Reading where
  document : Node
  envelope : Envelope
  index : Dict String Located
  signature : Option Signature
  decrypted : Dict String Bytes
  userMessage : UserMessage
  payloadInfo : PayloadInfo

structure Accepts (context : AS4ParseContext) (soapBytes : Bytes) (mimeAttachments : Dict String Bytes)
    (message : AS4Message) (reading : Reading) : Prop where
  parsed : Libraries.parseXml soapBytes = some reading.document
  identified : preValidate (.root reading.document) = .ok (message.messageId, message.messagingId)
  addressed : ∃ identity, getAddressedTo ((Located.root reading.document).find partyToPath) = .ok identity ∧
    message.addressedTo = some identity
  validated : Envelope.codec.validate (.root reading.document) = .ok reading.envelope
  stored : message.soapEnvelope = some reading.envelope
  attached : message.mimeAttachments = mimeAttachments
  indexed : indexElementsById (.root reading.document) = .ok reading.index
  verified : getVerifiedSignature context reading.envelope.header.security reading.envelope reading.index =
    .ok (reading.signature, message.signerCertificate)
  decrypts : getDecryptedData context reading.envelope.header.security mimeAttachments = .ok reading.decrypted
  attachmentsMatch : context.securityPolicy.verifyDigests = true → ∀ signature ∈ reading.signature,
    verifyAttachmentDigests signature reading.decrypted = .ok ()
  hasUserMessage : requireUserMessage reading.envelope = .ok reading.userMessage
  hasPayloadInfo : reading.userMessage.payloadInfo = some reading.payloadInfo
  sameAttachments : ∀ identifier,
    (Dict.get message.decryptedData identifier).isSome = (Dict.get reading.decrypted identifier).isSome

section Stages

/-- Decompression changes contents, never which attachments there are. -/
theorem decompressPart_keys {context : AS4ParseContext} {mimeAttachments before after : Dict String Bytes}
    {part : PartInfo} (succeeded : decompressPart context mimeAttachments before part = .ok after)
    (identifier : String) : (Dict.get after identifier).isSome = (Dict.get before identifier).isSome := by
  simp only [decompressPart] at succeeded
  split at succeeded
  · obtain rfl := Except.ok.inj succeeded
    rfl
  · split at succeeded
    · simp [raise] at succeeded
    · split at succeeded
      · obtain rfl := Except.ok.inj succeeded
        rfl
      · rename_i content present
        simp only [bind_ok, pure_ok] at succeeded
        obtain ⟨decompressed, -, rfl⟩ := succeeded
        rw [get_set]
        split
        · rename_i same
          simp [same, present]
        · rfl

theorem decompressParts_keeps {context : AS4ParseContext} {mimeAttachments : Dict String Bytes}
    {parts : List PartInfo} {before after : AS4Message} {result : PUnit}
    (succeeded : decompressParts context mimeAttachments parts before = .ok result after) :
    after = { before with decryptedData := after.decryptedData } ∧
      ∀ identifier, (Dict.get after.decryptedData identifier).isSome =
        (Dict.get before.decryptedData identifier).isSome := by
  induction parts generalizing before with
  | nil =>
      simp only [decompressParts, state_pure_ok] at succeeded
      obtain ⟨-, rfl⟩ := succeeded
      exact ⟨rfl, fun _ => rfl⟩
  | cons part rest ih =>
      simp only [decompressParts, state_bind_ok, state_get_ok, lift_ok, state_modify_ok] at succeeded
      obtain ⟨fields, _, ⟨rfl, rfl⟩, decompressed, _, ⟨one, rfl⟩, _, _, rfl, remaining⟩ := succeeded
      obtain ⟨same, keys⟩ := ih remaining
      refine ⟨same, fun identifier => (keys identifier).trans ?_⟩
      exact decompressPart_keys one identifier

/-- The business document stage only fills in the fields of the profile. -/
def sameCore (before after : AS4Message) : Prop :=
  after.soapEnvelope = before.soapEnvelope ∧ after.mimeAttachments = before.mimeAttachments ∧
    after.decryptedData = before.decryptedData ∧ after.messageId = before.messageId ∧
      after.messagingId = before.messagingId ∧ after.addressedTo = before.addressedTo ∧
        after.signerCertificate = before.signerCertificate ∧ after.parseError = before.parseError

theorem processSbdh_keeps {context : AS4ParseContext} {envelope : Envelope} {before after : AS4Message}
    {result : PUnit} (succeeded : processSbdh context envelope before = .ok result after) :
    sameCore before after := by
  simp only [processSbdh, state_bind_ok, lift_ok, state_get_ok, state_modify_ok] at succeeded
  obtain ⟨_, _, ⟨-, rfl⟩, fields, _, ⟨rfl, rfl⟩, payload, _, ⟨-, rfl⟩, document, _, ⟨-, rfl⟩, _, _, ⟨-, rfl⟩,
    record, _, ⟨-, rfl⟩, _, _, rfl, _, _, ⟨-, rfl⟩, _, _, ⟨-, rfl⟩, scopes, _, ⟨-, rfl⟩, rfl⟩ := succeeded
  exact ⟨rfl, rfl, rfl, rfl, rfl, rfl, rfl, rfl⟩

/-- What `AS4Message.process` has to have done to return. -/
theorem processAs4_accepts {context : AS4ParseContext} {document : Node} {mimeAttachments : Dict String Bytes}
    {before after : AS4Message} {result : PUnit}
    (succeeded : processAs4 context (.root document) mimeAttachments before = .ok result after) :
    ∃ reading : Reading, reading.document = document ∧
      Envelope.codec.validate (.root document) = .ok reading.envelope ∧
      after.soapEnvelope = some reading.envelope ∧ after.mimeAttachments = mimeAttachments ∧
      indexElementsById (.root document) = .ok reading.index ∧
      getVerifiedSignature context reading.envelope.header.security reading.envelope reading.index =
        .ok (reading.signature, after.signerCertificate) ∧
      getDecryptedData context reading.envelope.header.security mimeAttachments = .ok reading.decrypted ∧
      verifySignedAttachments context reading.signature reading.decrypted = .ok () ∧
      requireUserMessage reading.envelope = .ok reading.userMessage ∧
      requirePayloadInfo reading.userMessage = .ok reading.payloadInfo ∧
      (∀ identifier, (Dict.get after.decryptedData identifier).isSome =
        (Dict.get reading.decrypted identifier).isSome) ∧
      after.messageId = before.messageId ∧ after.messagingId = before.messagingId ∧
      after.addressedTo = before.addressedTo ∧ after.parseError = before.parseError := by
  simp only [processAs4, state_bind_ok, lift_ok, state_modify_ok] at succeeded
  obtain ⟨_, _, rfl, envelope, _, ⟨validated, rfl⟩, _, _, rfl, index, _, ⟨indexed, rfl⟩, ⟨signature, signer⟩, _,
    ⟨verified, rfl⟩, _, _, rfl, decrypted, _, ⟨decrypts, rfl⟩, _, _, rfl, _, _, ⟨attachments, rfl⟩, userMessage, _,
    ⟨hasUserMessage, rfl⟩, payloadInfo, _, ⟨hasPayloadInfo, rfl⟩, remaining⟩ := succeeded
  obtain ⟨same, keys⟩ := decompressParts_keeps remaining
  simp only [Envelope.modelValidateEtree, mapError_ok] at validated
  refine ⟨⟨document, envelope, index, signature, decrypted, userMessage, payloadInfo⟩, rfl, validated, ?_, ?_,
    indexed, ?_, decrypts, attachments, hasUserMessage, hasPayloadInfo, keys, ?_, ?_, ?_, ?_⟩
  · rw [same]
  · rw [same]
  · rw [same]
    exact verified
  · rw [same]
  · rw [same]
  · rw [same]
  · rw [same]

theorem process_accepts {cls : MessageClass} {context : AS4ParseContext} {document : Node}
    {mimeAttachments : Dict String Bytes} {before after : AS4Message} {result : PUnit}
    (succeeded : process cls context (.root document) mimeAttachments before = .ok result after) :
    ∃ middle result', processAs4 context (.root document) mimeAttachments before = .ok result' middle ∧
      sameCore middle after := by
  cases cls with
  | as4 => exact ⟨after, result, succeeded, rfl, rfl, rfl, rfl, rfl, rfl, rfl, rfl⟩
  | peppol =>
      simp only [process, processPeppol, state_bind_ok, state_get_ok] at succeeded
      obtain ⟨result', middle, first, fields, _, ⟨rfl, rfl⟩, second⟩ := succeeded
      refine ⟨_, result', first, ?_⟩
      cases read : middle.soapEnvelope with
      | none => simp [read, raise] at second
      | some envelope =>
          simp only [read, state_adapt_ok] at second
          exact processSbdh_keeps second

end Stages

/-- A message without a parse error went through every stage. -/
theorem parse_accepts {cls : MessageClass} {context : AS4ParseContext} {soapBytes : Bytes}
    {mimeAttachments : Dict String Bytes} {message : AS4Message}
    (parsed : parse cls context soapBytes mimeAttachments = .ok message) (accepted : message.parseError = none) :
    ∃ reading, Accepts context soapBytes mimeAttachments message reading := by
  unfold parse at parsed
  split at parsed
  · rename_i result fields succeeded
    obtain rfl := Except.ok.inj parsed
    simp only [parseSteps, state_bind_ok, lift_ok, state_modify_ok] at succeeded
    obtain ⟨document, _, ⟨xml, rfl⟩, ⟨messageId, messagingId⟩, _, ⟨identified, rfl⟩, _, _, rfl, identity, _,
      ⟨addressed, rfl⟩, _, _, rfl, remaining⟩ := succeeded
    obtain ⟨middle, _, core, envelope, attachments, data, sameMessageId, sameMessagingId, sameAddressed, signer, -⟩ :=
      process_accepts remaining
    obtain ⟨reading, rfl, validated, stored, attached, indexed, verified, decrypts, signedAttachments, hasUserMessage,
      hasPayloadInfo, keys, keptId, keptMessagingId, keptAddressed, -⟩ := processAs4_accepts core
    refine ⟨reading, parseXml_ok.mp xml, ?_, ?_, validated, envelope.trans stored, attachments.trans attached, indexed,
      ?_, decrypts, ?_, hasUserMessage, ?_, ?_⟩
    · rw [sameMessageId, keptId, sameMessagingId, keptMessagingId]
      exact identified
    · exact ⟨identity, addressed, sameAddressed.trans keptAddressed⟩
    · rw [signer]
      exact verified
    · intro checked signature present
      simpa [verifySignedAttachments, Option.mem_def.mp present, checked] using signedAttachments
    · unfold requirePayloadInfo at hasPayloadInfo
      split at hasPayloadInfo
      · simp [raise] at hasPayloadInfo
      · rename_i payloadInfo present
        rw [present, Except.ok.inj hasPayloadInfo]
    · intro identifier
      rw [data]
      exact keys identifier
  · split at parsed
    · obtain rfl := Except.ok.inj parsed
      simp at accepted
    · simp at parsed

/-- What a verified signature went through. -/
theorem verifySignature_ok {context : AS4ParseContext} {security : Security} {envelope : Envelope}
    {index : Dict String Located} {signature : Signature} {signer : Certificate} :
    verifySignature context security envelope index signature = .ok signer ↔
      ∃ token userMessage embedded, signatureToken security signature = .ok token ∧
        requireUserMessage envelope = .ok userMessage ∧ token.x509Certificate = .ok embedded ∧
        resolveSigner context.securityPolicy userMessage.partyInfo.partyFrom (some embedded) = .ok signer ∧
        verify signature signer = .ok () ∧
        verifySignatureCoverage signature index (payloadHrefs userMessage)
          context.securityPolicy.requiredCoverage = .ok () ∧
        verifySignedElements context signature index = .ok () := by
  simp only [verifySignature, bind_ok, mapError_ok, pure_ok]
  constructor
  · rintro ⟨token, found, userMessage, read, embedded, loaded, _, resolved, _, verified, _, covered, _, digests, rfl⟩
    exact ⟨token, userMessage, embedded, found, read, loaded, resolved, verified, covered, digests⟩
  · rintro ⟨token, userMessage, embedded, found, read, loaded, resolved, verified, covered, digests⟩
    exact ⟨token, found, userMessage, read, embedded, loaded, signer, resolved, (), verified, (), covered, (), digests,
      rfl⟩

theorem getVerifiedSignature_some {context : AS4ParseContext} {security : Security} {envelope : Envelope}
    {index : Dict String Located} {signature : Signature} {signer : Option Certificate} :
    getVerifiedSignature context security envelope index = .ok (some signature, signer) ↔
      security.signature = some signature ∧
        ∃ certificate, signer = some certificate ∧
          verifySignature context security envelope index signature = .ok certificate := by
  unfold getVerifiedSignature
  split
  · rename_i absent
    split <;> simp [absent, raise]
  · rename_i carried present
    simp only [bind_ok, pure_ok, Prod.mk.injEq, Option.some.injEq, present]
    constructor
    · rintro ⟨certificate, verified, rfl, rfl⟩
      exact ⟨rfl, certificate, rfl, verified⟩
    · rintro ⟨rfl, certificate, rfl, verified⟩
      exact ⟨certificate, verified, rfl, rfl⟩

theorem getVerifiedSignature_none {context : AS4ParseContext} {security : Security} {envelope : Envelope}
    {index : Dict String Located} {signer : Option Certificate}
    (verified : getVerifiedSignature context security envelope index = .ok (none, signer)) :
    security.signature = none ∧ context.securityPolicy.signRequired = false := by
  unfold getVerifiedSignature at verified
  split at verified
  · rename_i absent
    split at verified
    · simp [raise] at verified
    · rename_i optional
      exact ⟨absent, by simpa using optional⟩
  · simp only [bind_ok, pure_ok, Prod.mk.injEq, reduceCtorEq, false_and, and_false, exists_false] at verified

section Signed
variable {context : AS4ParseContext} {soapBytes : Bytes} {mimeAttachments : Dict String Bytes} {message : AS4Message}
  {reading : Reading}

/-- The signature an accepted message carries is the one that was verified. -/
theorem Accepts.verified_signature (accepts : Accepts context soapBytes mimeAttachments message reading)
    {signature : Signature} (carried : reading.envelope.header.security.signature = some signature) :
    reading.signature = some signature ∧ ∃ signer, message.signerCertificate = some signer ∧
      verifySignature context reading.envelope.header.security reading.envelope reading.index signature = .ok signer := by
  cases read : reading.signature with
  | none =>
      have absent := (getVerifiedSignature_none (read ▸ accepts.verified)).1
      simp [carried] at absent
  | some other =>
      obtain ⟨same, signer, kept, verified⟩ := getVerifiedSignature_some.mp (read ▸ accepts.verified)
      obtain rfl : signature = other := Option.some.inj (carried.symm.trans same)
      exact ⟨rfl, signer, kept, verified⟩

theorem Accepts.carries_signature (accepts : Accepts context soapBytes mimeAttachments message reading)
    (required : context.securityPolicy.signRequired = true) :
    ∃ signature, reading.envelope.header.security.signature = some signature := by
  cases read : reading.signature with
  | none =>
      have optional := (getVerifiedSignature_none (read ▸ accepts.verified)).2
      simp [required] at optional
  | some signature => exact ⟨signature, (getVerifiedSignature_some.mp (read ▸ accepts.verified)).1⟩

end Signed

theorem processSbdh_payload {context : AS4ParseContext} {envelope : Envelope} {before after : AS4Message}
    {result : PUnit} (succeeded : processSbdh context envelope before = .ok result after) :
    ∃ payload, firstPayload before = .ok payload := by
  simp only [processSbdh, state_bind_ok, lift_ok, state_get_ok] at succeeded
  obtain ⟨_, _, ⟨-, rfl⟩, fields, _, ⟨rfl, rfl⟩, payload, _, ⟨read, -⟩, -⟩ := succeeded
  exact ⟨payload, read⟩

/-- An accepted Peppol message had a payload to read the business document from. -/
theorem peppol_firstPayload {context : AS4ParseContext} {soapBytes : Bytes} {mimeAttachments : Dict String Bytes}
    {message : AS4Message} (parsed : parse .peppol context soapBytes mimeAttachments = .ok message)
    (accepted : message.parseError = none) : ∃ payload, firstPayload message = .ok payload := by
  unfold parse at parsed
  split at parsed
  · rename_i result fields succeeded
    obtain rfl := Except.ok.inj parsed
    simp only [parseSteps, process, processPeppol, state_bind_ok, lift_ok, state_modify_ok, state_get_ok] at succeeded
    obtain ⟨_, _, -, _, _, -, _, _, -, _, _, -, _, _, -, _, middle, -, _, _, ⟨rfl, rfl⟩, remaining⟩ := succeeded
    cases read : middle.soapEnvelope with
    | none => simp [read, raise] at remaining
    | some envelope =>
        simp only [read, state_adapt_ok] at remaining
        obtain ⟨payload, payloadRead⟩ := processSbdh_payload remaining
        obtain ⟨-, attachments, data, -⟩ := processSbdh_keeps remaining
        refine ⟨payload, ?_⟩
        rw [firstPayload, attachments, data]
        exact payloadRead
  · split at parsed
    · obtain rfl := Except.ok.inj parsed
      simp at accepted
    · simp at parsed

end AcceptedMessage
