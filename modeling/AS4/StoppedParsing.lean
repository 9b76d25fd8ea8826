import AS4.AcceptedMessage

/-!
What a parsed message holds when a stage has raised: the fields of the stages that
had returned by then. Accepted messages are the case in which none raised.
-/

namespace StoppedParsing
open ElementTree FallibleSteps PythonData AS4Libraries AS4Errors SignatureModel MessagingModel EnvelopeModel
  BusinessDocument Verification MessageParsing AcceptedMessage

variable [Libraries]

/-- The signer's certificate is one that verified the signature of the envelope. -/
def SignerVerified (context : AS4ParseContext) (message : AS4Message) : Prop :=
  ∀ certificate ∈ message.signerCertificate, ∃ envelope signature index,
    message.soapEnvelope = some envelope ∧ envelope.header.security.signature = some signature ∧
      verifySignature context envelope.header.security envelope index signature = .ok certificate

section Stages
variable {context : AS4ParseContext}

theorem signerVerified_of_same {before after : AS4Message}
    (envelope : after.soapEnvelope = before.soapEnvelope) (signer : after.signerCertificate = before.signerCertificate)
    (verified : SignerVerified context before) : SignerVerified context after := by
  intro certificate kept
  rw [envelope]
  exact verified certificate (signer ▸ kept)

theorem decompressParts_leaves (mimeAttachments : Dict String Bytes) (parts : List PartInfo) {before : AS4Message}
    (verified : SignerVerified context before) :
    Leaves (decompressParts context mimeAttachments parts) before (SignerVerified context) := by
  induction parts generalizing before with
  | nil => exact leaves_pure verified
  | cons part rest ih =>
      apply leaves_get_bind
      apply leaves_lift_bind verified
      intro decrypted _
      apply leaves_modify_bind
      exact ih (signerVerified_of_same rfl rfl verified)

/-- Nothing is known of a signer before the signature has been verified. -/
theorem processAs4_leaves (element : Located) (mimeAttachments : Dict String Bytes) {before : AS4Message}
    (unknown : before.signerCertificate = none) :
    Leaves (processAs4 context element mimeAttachments) before (SignerVerified context) := by
  have unverified : ∀ fields : AS4Message, fields.signerCertificate = none → SignerVerified context fields := by
    intro fields none certificate kept
    simp [none] at kept
  apply leaves_modify_bind
  refine leaves_lift_bind (by exact unverified _ unknown) ?_
  intro envelope _
  apply leaves_modify_bind
  refine leaves_lift_bind (by exact unverified _ unknown) ?_
  intro index _
  refine leaves_lift_bind (by exact unverified _ unknown) ?_
  rintro ⟨signature, signer⟩ checked
  apply leaves_modify_bind
  have verified : ∀ fields : AS4Message, fields.soapEnvelope = some envelope → fields.signerCertificate = signer →
      SignerVerified context fields := by
    intro fields stored kept certificate known
    rw [kept] at known
    obtain rfl : signer = some certificate := known
    cases signature with
    | none =>
        have refused := getVerifiedSignature_none checked
        unfold getVerifiedSignature at checked
        simp [refused] at checked
    | some signature =>
        obtain ⟨carried, other, same, verifies⟩ := getVerifiedSignature_some.mp checked
        obtain rfl : certificate = other := Option.some.inj same
        exact ⟨envelope, signature, index, stored, carried, verifies⟩
  apply leaves_lift_bind (verified _ rfl rfl)
  intro decrypted _
  apply leaves_modify_bind
  apply leaves_lift_bind (verified _ rfl rfl)
  intro _ _
  apply leaves_lift_bind (verified _ rfl rfl)
  intro userMessage _
  apply leaves_lift_bind (verified _ rfl rfl)
  intro payloadInfo _
  exact decompressParts_leaves mimeAttachments payloadInfo.partInfo (verified _ rfl rfl)

theorem processSbdh_leaves (envelope : Envelope) {before : AS4Message} (verified : SignerVerified context before) :
    Leaves (processSbdh context envelope) before (SignerVerified context) := by
  apply leaves_lift_bind verified
  intro _ _
  apply leaves_get_bind
  apply leaves_lift_bind verified
  intro payload _
  apply leaves_lift_bind verified
  intro document _
  apply leaves_lift_bind verified
  intro _ _
  apply leaves_lift_bind verified
  intro record _
  apply leaves_modify_bind
  refine leaves_lift_bind (signerVerified_of_same rfl rfl verified) ?_
  intro _ _
  refine leaves_lift_bind (signerVerified_of_same rfl rfl verified) ?_
  intro _ _
  refine leaves_lift_bind (signerVerified_of_same rfl rfl verified) ?_
  intro scopes _
  exact signerVerified_of_same rfl rfl verified

theorem process_leaves (cls : MessageClass) (element : Located) (mimeAttachments : Dict String Bytes)
    {before : AS4Message} (unknown : before.signerCertificate = none) :
    Leaves (process cls context element mimeAttachments) before (SignerVerified context) := by
  cases cls with
  | as4 => exact processAs4_leaves element mimeAttachments unknown
  | peppol =>
      have left : Leaves (processAs4 context element mimeAttachments) before (SignerVerified context) :=
        processAs4_leaves element mimeAttachments unknown
      apply leaves_bind (fun raised after stopped => leaves_error left stopped)
      intro _ middle returned
      have verified := leaves_ok left returned
      apply leaves_get_bind
      split
      · exact leaves_adapt (processSbdh_leaves _ verified)
      · exact leaves_lift verified

end Stages

/-- Whatever became of a message, a signer that is known of it verified it. -/
theorem parse_signerVerified {cls : MessageClass} {context : AS4ParseContext} {soapBytes : Bytes}
    {mimeAttachments : Dict String Bytes} {message : AS4Message}
    (parsed : parse cls context soapBytes mimeAttachments = .ok message) : SignerVerified context message := by
  have unverified : ∀ fields : AS4Message, fields.signerCertificate = none → SignerVerified context fields := by
    intro fields none certificate kept
    simp [none] at kept
  have left : Leaves (parseSteps cls context soapBytes mimeAttachments) {} (SignerVerified context) := by
    apply leaves_lift_bind (unverified _ rfl)
    intro document _
    apply leaves_lift_bind (unverified _ rfl)
    rintro ⟨messageId, messagingId⟩ _
    apply leaves_modify_bind
    apply leaves_lift_bind (unverified _ rfl)
    intro identity _
    apply leaves_modify_bind
    exact process_leaves cls _ mimeAttachments rfl
  unfold parse at parsed
  split at parsed
  · rename_i returned
    obtain rfl := Except.ok.inj parsed
    exact leaves_ok left returned
  · rename_i stopped
    split at parsed
    · obtain rfl := Except.ok.inj parsed
      have verified := leaves_error left stopped
      exact signerVerified_of_same rfl rfl verified
    · simp at parsed

end StoppedParsing
