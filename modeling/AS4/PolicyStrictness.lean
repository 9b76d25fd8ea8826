import AS4.AcceptedMessage
import AS4.AcceptedDelivery

/-!
Two policies over one message. Every check of a policy only ever stops the parser, so
where the stricter policy lets a message through, each step of the laxer one returns
what the same step returned before.
-/

namespace PolicyStrictness
open ElementTree ElementCodec FallibleSteps PythonData AS4Libraries AS4Errors SignatureModel EncryptionModel
  MessagingModel EnvelopeModel BusinessDocument Verification MessageParsing Serialisation RecordedExchange ReceivingRuns
  DeliveredMessage AcceptedDelivery

variable [Libraries]

section Policies

/-- One policy asks for nothing the other does not ask for, and trusts the same signers. -/
structure NoStricter (lax strict : SecurityPolicy) : Prop where
  signRequired : lax.signRequired = true → strict.signRequired = true
  encryptRequired : lax.encryptRequired = true → strict.encryptRequired = true
  verifyDigests : lax.verifyDigests = true → strict.verifyDigests = true
  verifyParticipants : lax.verifyParticipants = true → strict.verifyParticipants = true
  requiredCoverage : ∀ kind ∈ lax.requiredCoverage, kind ∈ strict.requiredCoverage
  maximumDecompressedSize : strict.maximumDecompressedSize ≤ lax.maximumDecompressedSize
  signerResolver : lax.signerResolver = strict.signerResolver

/-- `GzipFile.read(size)` gives less than it was asked for only at the end of the data,
and then a larger size changes nothing. -/
def ReadsToTheEnd : Prop :=
  ∀ content size result, Libraries.gzipRead content size = some result → (result.length : Int) < size →
    ∀ larger, size ≤ larger → Libraries.gzipRead content larger = some result

def underPolicy (context : AS4ParseContext) (policy : SecurityPolicy) : AS4ParseContext :=
  { context with securityPolicy := policy }

end Policies

section Steps

omit [Libraries] in
/-- A check that both policies make, or only the stricter one. -/
theorem check_laxer {α : Type} {lax strict : Bool} (laxer : lax = true → strict = true)
    {check skip : Except PyError α} {result : α} (agrees : check = .ok result → skip = .ok result)
    (passed : (if strict = true then check else skip) = .ok result) : (if lax = true then check else skip) = .ok result := by
  cases lax with
  | true => simpa [laxer rfl] using passed
  | false =>
      cases strict with
      | true => simpa using agrees (by simpa using passed)
      | false => simpa using passed

variable {context : AS4ParseContext} {lax strict : SecurityPolicy}

theorem verifySignature_extends (laxer : NoStricter lax strict) {security : Security} {envelope : Envelope}
    {index : Dict String Located} {signature : Signature} {signer : Certificate}
    (verified : verifySignature (underPolicy context strict) security envelope index signature = .ok signer) :
    verifySignature (underPolicy context lax) security envelope index signature = .ok signer := by
  obtain ⟨token, userMessage, embedded, found, read, loaded, resolved, verifies, covered, digests⟩ :=
    AcceptedMessage.verifySignature_ok.mp verified
  refine AcceptedMessage.verifySignature_ok.mpr
    ⟨token, userMessage, embedded, found, read, loaded, ?_, verifies, ?_, ?_⟩
  · simpa only [resolveSigner, underPolicy, laxer.signerResolver] using resolved
  · rw [verifySignatureCoverage_ok] at covered ⊢
    exact fun kind required => covered kind (laxer.requiredCoverage kind required)
  · exact check_laxer laxer.verifyDigests (fun _ => rfl) digests

theorem getVerifiedSignature_extends (laxer : NoStricter lax strict) {security : Security} {envelope : Envelope}
    {index : Dict String Located} {result : Option Signature × Option Certificate}
    (verified : getVerifiedSignature (underPolicy context strict) security envelope index = .ok result) :
    getVerifiedSignature (underPolicy context lax) security envelope index = .ok result := by
  unfold getVerifiedSignature at verified ⊢
  cases carried : security.signature with
  | none =>
      simp only [carried] at verified ⊢
      exact check_laxer laxer.signRequired (by simp [raise]) verified
  | some signature =>
      simp only [carried, bind_ok, pure_ok] at verified ⊢
      obtain ⟨signer, passed, rfl⟩ := verified
      exact ⟨signer, verifySignature_extends laxer passed, rfl⟩

theorem getDecryptedData_extends (laxer : NoStricter lax strict) {security : Security}
    {mimeAttachments decrypted : Dict String Bytes}
    (decrypts : getDecryptedData (underPolicy context strict) security mimeAttachments = .ok decrypted) :
    getDecryptedData (underPolicy context lax) security mimeAttachments = .ok decrypted := by
  unfold getDecryptedData at decrypts ⊢
  cases carried : security.encryptedKey with
  | none =>
      simp only [carried] at decrypts ⊢
      exact check_laxer laxer.encryptRequired (by simp [raise]) decrypts
  | some encryptedKey =>
      simp only [carried] at decrypts ⊢
      exact decrypts

theorem verifySignedAttachments_extends (laxer : NoStricter lax strict) {signature : Option Signature}
    {decrypted : Dict String Bytes} {result : Unit}
    (verified : verifySignedAttachments (underPolicy context strict) signature decrypted = .ok result) :
    verifySignedAttachments (underPolicy context lax) signature decrypted = .ok result := by
  cases signature with
  | none => exact verified
  | some signature => exact check_laxer laxer.verifyDigests (fun _ => rfl) verified

theorem decompress_extends (laxer : NoStricter lax strict) (reads : ReadsToTheEnd) {part : PartProperties}
    {content result : Bytes} (passed : decompress part content strict.maximumDecompressedSize = .ok result) :
    decompress part content lax.maximumDecompressedSize = .ok result := by
  unfold decompress at passed ⊢
  split
  · rename_i plain
    simpa [plain] using passed
  · rename_i compressed
    simp only [compressed, ↓reduceIte] at passed
    cases read : Libraries.gzipRead content (strict.maximumDecompressedSize + 1) with
    | none => simp [read, raise] at passed
    | some decompressed =>
        simp only [read] at passed
        split at passed
        · simp [raise] at passed
        · rename_i fits
          obtain rfl := Except.ok.inj passed
          have larger := laxer.maximumDecompressedSize
          rw [reads _ _ _ read (by omega) (lax.maximumDecompressedSize + 1) (by omega)]
          simp only
          rw [if_neg (by omega)]

theorem decompressPart_extends (laxer : NoStricter lax strict) (reads : ReadsToTheEnd)
    {mimeAttachments before after : Dict String Bytes} {part : PartInfo}
    (passed : decompressPart (underPolicy context strict) mimeAttachments before part = .ok after) :
    decompressPart (underPolicy context lax) mimeAttachments before part = .ok after := by
  simp only [decompressPart] at passed ⊢
  split
  · rename_i absent
    simpa [absent] using passed
  · rename_i present
    simp only [present, ↓reduceIte] at passed
    split
    · rename_i missing
      simp [missing, raise] at passed
    · rename_i attached
      simp only [attached] at passed
      split
      · rename_i undecrypted
        simpa [undecrypted] using passed
      · rename_i content decrypted
        simp only [decrypted] at passed
        obtain ⟨decompressed, fits, same⟩ := bind_ok.mp passed
        exact bind_ok.mpr ⟨decompressed, decompress_extends laxer reads fits, same⟩

theorem decompressParts_extends (laxer : NoStricter lax strict) (reads : ReadsToTheEnd)
    (mimeAttachments : Dict String Bytes) (parts : List PartInfo) :
    Extends (decompressParts (underPolicy context lax) mimeAttachments parts)
      (decompressParts (underPolicy context strict) mimeAttachments parts) := by
  induction parts with
  | nil => exact extends_refl _
  | cons part rest ih =>
      refine extends_bind (extends_refl _) fun fields => extends_bind (extends_lift fun after passed => ?_) fun _ =>
        extends_bind (extends_refl _) fun _ => ih
      exact decompressPart_extends laxer reads passed

theorem verifyParticipants_extends (laxer : NoStricter lax strict) {envelope : Envelope}
    {header : StandardBusinessDocumentHeader} {result : Unit}
    (verified : verifyParticipants (underPolicy context strict) envelope header = .ok result) :
    verifyParticipants (underPolicy context lax) envelope header = .ok result := by
  exact check_laxer laxer.verifyParticipants (fun _ => rfl) verified

end Steps

section Messages
variable {context : AS4ParseContext} {lax strict : SecurityPolicy}

theorem processAs4_extends (laxer : NoStricter lax strict) (reads : ReadsToTheEnd) (element : Located)
    (mimeAttachments : Dict String Bytes) :
    Extends (processAs4 (underPolicy context lax) element mimeAttachments)
      (processAs4 (underPolicy context strict) element mimeAttachments) := by
  refine extends_bind (extends_refl _) fun _ => extends_bind (extends_refl _) fun envelope =>
    extends_bind (extends_refl _) fun _ => extends_bind (extends_refl _) fun index =>
    extends_bind (extends_lift fun _ => getVerifiedSignature_extends laxer) fun signed =>
    extends_bind (extends_refl _) fun _ =>
    extends_bind (extends_lift fun _ => getDecryptedData_extends laxer) fun decrypted =>
    extends_bind (extends_refl _) fun _ =>
    extends_bind (extends_lift fun _ => verifySignedAttachments_extends laxer) fun _ =>
    extends_bind (extends_refl _) fun userMessage => extends_bind (extends_refl _) fun payloadInfo => ?_
  exact decompressParts_extends laxer reads mimeAttachments payloadInfo.partInfo

theorem processSbdh_extends (laxer : NoStricter lax strict) (envelope : Envelope) :
    Extends (processSbdh (underPolicy context lax) envelope) (processSbdh (underPolicy context strict) envelope) := by
  refine extends_bind (extends_refl _) fun _ => extends_bind (extends_refl _) fun fields =>
    extends_bind (extends_refl _) fun payload => extends_bind (extends_refl _) fun document =>
    extends_bind (extends_refl _) fun _ => extends_bind (extends_refl _) fun document =>
    extends_bind (extends_refl _) fun _ =>
    extends_bind (extends_lift fun _ => verifyParticipants_extends laxer) fun _ => extends_refl _

theorem process_extends (cls : MessageClass) (laxer : NoStricter lax strict) (reads : ReadsToTheEnd) (element : Located)
    (mimeAttachments : Dict String Bytes) :
    Extends (process cls (underPolicy context lax) element mimeAttachments)
      (process cls (underPolicy context strict) element mimeAttachments) := by
  cases cls with
  | as4 => exact processAs4_extends laxer reads element mimeAttachments
  | peppol =>
      refine extends_bind (processAs4_extends laxer reads element mimeAttachments) fun _ =>
        extends_bind (extends_refl _) fun fields => ?_
      cases fields.soapEnvelope with
      | none => exact extends_refl _
      | some envelope => exact extends_adapt (processSbdh_extends laxer envelope)

omit [Libraries] in
/-- The recorded gzip reads to the end. -/
theorem signing_reads (documents : List Node) : @ReadsToTheEnd (signing documents) := by
  intro content size result read short larger le
  change (if (content == compressedPayload) = true then
    some (if larger < 0 then envelopedPayload else envelopedPayload.take larger.toNat) else none) = some result
  change (if (content == compressedPayload) = true then
    some (if size < 0 then envelopedPayload else envelopedPayload.take size.toNat) else none) = some result at read
  split at read
  · rename_i held
    rw [if_pos held]
    obtain rfl := Option.some.inj read
    generalize envelopedPayload = text at short ⊢
    by_cases negative : size < 0
    · simp only [negative, ↓reduceIte] at short
      omega
    · have inside : text.length ≤ size.toNat := by
        simp only [negative, ↓reduceIte, List.length_take] at short
        omega
      have inside' : text.length ≤ larger.toNat := by omega
      rw [if_neg negative, if_neg (by omega), List.take_of_length_le inside, List.take_of_length_le inside']
  · simp at read

end Messages

end PolicyStrictness
