import AS4.BuiltSignals
import AS4.ExchangeInvariants

/-!
What a receipt proves. It acknowledges a list of references; these have to be among
what was sent, and what was required has to be among them. Asking a receipt for
nothing is refused when nothing is required in so many words, and not when nothing
was sent.
-/

namespace NonRepudiation
open ElementTree ElementCodec ElementCodec.Codec FallibleSteps PythonData AS4Libraries AS4Errors SignatureModel MessagingModel EnvelopeModel
  Verification MessageParsing ReceiptVerification SignalBuilding RecordReadings RecordLaws WrittenIdentifiers
  WrittenEnvelope MessageReadings ExchangeInvariants RecordedExchange ReceivingRuns BuiltSignals Serialisation

variable [Libraries]

section Deciding
variable {receipt : AS4Receipt} {sent : List ComparableReferenceFields}
  {required : Option (List ComparableReferenceFields)}

/-- The signal has an eb:Receipt. -/
def CarriesReceipt (receipt : AS4Receipt) : Prop := ∃ content, receipt.receipt = .ok (some content)

/-- The receipt proves the delivery of what is required, or else of what was sent. -/
structure Acknowledges (receipt : AS4Receipt) (sent : List ComparableReferenceFields)
    (required : Option (List ComparableReferenceFields)) (acknowledged : List ComparableReferenceFields) : Prop where
  carries : CarriesReceipt receipt
  lists : receipt.nonRepudiatedReferences = .ok acknowledged
  asked : required.getD sent ≠ []
  acknowledges : ∀ reference ∈ required.getD sent, reference ∈ acknowledged
  sends : ∀ reference ∈ acknowledged, reference ∈ sent

/-- Nothing was required and nothing sent, and a receipt acknowledges nothing. -/
def AsksNothing (receipt : AS4Receipt) (sent : List ComparableReferenceFields)
    (required : Option (List ComparableReferenceFields)) : Prop :=
  required = none ∧ sent = [] ∧ CarriesReceipt receipt ∧ receipt.nonRepudiatedReferences = .ok []

theorem requireSent_ok {reference : ComparableReferenceFields} : requireSent sent reference = .ok () ↔ reference ∈ sent := by
  unfold requireSent
  split
  · rename_i member
    exact iff_of_true rfl member
  · rename_i unsent
    exact iff_of_false refuse_ne unsent

theorem requireAcknowledged_ok {acknowledged : List ComparableReferenceFields} {reference : ComparableReferenceFields} :
    requireAcknowledged acknowledged reference = .ok () ↔ reference ∈ acknowledged := by
  unfold requireAcknowledged
  split
  · rename_i member
    exact iff_of_true rfl member
  · rename_i missing
    exact iff_of_false refuse_ne missing

/-- What the code asks for: that something be required is checked only where it is
given. -/
theorem verifyNonRepudiation_iff : receipt.verifyNonRepudiation sent required = .ok () ↔
    CarriesReceipt receipt ∧ required ≠ some [] ∧ ∃ acknowledged, receipt.nonRepudiatedReferences = .ok acknowledged ∧
      (∀ reference ∈ acknowledged, reference ∈ sent) ∧ ∀ reference ∈ required.getD sent, reference ∈ acknowledged := by
  simp only [AS4Receipt.verifyNonRepudiation, CarriesReceipt, bind_ok]
  constructor
  · rintro ⟨content, read, passed⟩
    cases content with
    | none => exact absurd passed refuse_ne
    | some content =>
        simp only [Option.isNone_some, Bool.false_eq_true, ↓reduceIte] at passed
        split at passed
        · exact absurd passed refuse_ne
        · rename_i given
          simp only [bind_ok] at passed
          obtain ⟨acknowledged, listed, _, allSent, allAcknowledged⟩ := passed
          exact ⟨⟨content, read⟩, given, acknowledged, listed,
            fun reference member => requireSent_ok.mp (each_ok.mp allSent reference member),
            fun reference member => requireAcknowledged_ok.mp (each_ok.mp allAcknowledged reference member)⟩
  · rintro ⟨⟨content, read⟩, given, acknowledged, listed, allSent, allAcknowledged⟩
    refine ⟨some content, read, ?_⟩
    simp only [Option.isNone_some, Bool.false_eq_true, ↓reduceIte, given, bind_ok]
    exact ⟨acknowledged, listed, (), each_ok.mpr fun reference member => requireSent_ok.mpr (allSent reference member),
      each_ok.mpr fun reference member => requireAcknowledged_ok.mpr (allAcknowledged reference member)⟩

/-- Non-repudiation is decided exactly, and a receipt that acknowledges nothing does
not pass, but where nothing is asked of it. -/
theorem non_repudiation_exact_iff (receipt : AS4Receipt) (sent : List ComparableReferenceFields)
    (required : Option (List ComparableReferenceFields)) :
    ((receipt.verifyNonRepudiation sent required = .ok () ↔ ∃ acknowledged, Acknowledges receipt sent required acknowledged) ∧
        (receipt.nonRepudiatedReferences = .ok [] → receipt.verifyNonRepudiation sent required ≠ .ok ())) ↔
      ¬ AsksNothing receipt sent required := by
  constructor
  · rintro ⟨exact', -⟩ ⟨rfl, rfl, carries, silent⟩
    have passes : receipt.verifyNonRepudiation [] none = .ok () :=
      verifyNonRepudiation_iff.mpr ⟨carries, by simp, [], silent, by simp, by simp⟩
    obtain ⟨acknowledged, proves⟩ := exact'.mp passes
    exact proves.asked rfl
  · intro asks
    have asked : receipt.verifyNonRepudiation sent required = .ok () → required.getD sent ≠ [] := by
      intro passed empty
      obtain ⟨carries, given, acknowledged, listed, allSent, -⟩ := verifyNonRepudiation_iff.mp passed
      cases required with
      | some required => exact given (congrArg some empty)
      | none =>
          obtain rfl : sent = [] := empty
          have nothing : acknowledged = [] := List.eq_nil_iff_forall_not_mem.mpr fun reference member => by
            simpa using allSent reference member
          exact asks ⟨rfl, rfl, carries, nothing ▸ listed⟩
    constructor
    · constructor
      · intro passed
        obtain ⟨carries, -, acknowledged, listed, allSent, allAcknowledged⟩ := verifyNonRepudiation_iff.mp passed
        exact ⟨acknowledged, carries, listed, asked passed, allAcknowledged, allSent⟩
      · rintro ⟨acknowledged, carries, lists, asked, acknowledges, sends⟩
        refine verifyNonRepudiation_iff.mpr ⟨carries, ?_, acknowledged, lists, sends, acknowledges⟩
        rintro rfl
        exact asked rfl
    · intro nothing passed
      obtain ⟨-, -, acknowledged, listed, -, allAcknowledged⟩ := verifyNonRepudiation_iff.mp passed
      obtain rfl : acknowledged = [] := Except.ok.inj (listed.symm.trans nothing)
      exact asked passed (List.eq_nil_iff_forall_not_mem.mpr fun reference member => by
        simpa using allAcknowledged reference member)

end Deciding

section EmptyReceipt

omit [Libraries] in
/-- A receipt for a message, with nothing in it. -/
def emptyReceipt (reference : String) : SignalMessage where
  messageInfo := { timestamp := answerTime, messageId := "answer", refToMessageId := some reference }
  receipt := some {}

theorem emptyReceipt_legible {reference : String} (stamps : Stamps answerTime) (solid : strip reference ≠ "") :
    Legible answerReferences (emptyReceipt reference) := by
  have stamped : (requiredText datetimeScalar "value").readable answerTime := requiredText_readable.mpr stamps
  refine ⟨?_, ?_, ?_, by decide, ?_⟩
  · simp [SignalMessage.codec, MessageInfo.codec, Receipt.codec, stringText, emptyReceipt]
  · simp [SignalMessage.codec, MessageInfo.codec, Receipt.codec, stringText, emptyReceipt, stamped, solid]
    decide
  · simp [named_written, SignalMessage.codec, MessageInfo.codec, Receipt.codec, stringText, emptyReceipt]
  · simp [identifiers_written, SignalMessage.codec, MessageInfo.codec, Receipt.codec, stringText, emptyReceipt]
    decide

/-- Read back, it is still a receipt, and acknowledges nothing. -/
theorem emptyReceipt_read {reference : String} {n : Located} {envelope written : Envelope}
    {named : Option String}
    (signals : written.header.messaging.signalMessages = [emptyReceipt reference])
    (read : Envelope.codec.reread n written envelope) :
    CarriesReceipt { soapEnvelope := some envelope, originalMessageId := named } ∧
      AS4Receipt.nonRepudiatedReferences { soapEnvelope := some envelope, originalMessageId := named } = .ok [] := by
  obtain ⟨⟨_, -, -, headerRead⟩, -⟩ := Envelope.rereads read
  obtain ⟨-, _, -, -, messagingRead⟩ := Header.rereads headerRead
  obtain ⟨signal, one, _, signalRead⟩ := mem_single (signals ▸ (Messaging.rereads messagingRead).2.1)
  obtain ⟨-, receiptRead, -⟩ := SignalMessage.rereads signalRead
  obtain ⟨content, carried, _, contentRead⟩ : ∃ content, signal.receipt = some content ∧
      ∃ child, Receipt.codec.reread child {} content := by
    generalize signal.receipt = found at receiptRead
    cases receiptRead with
    | some kept => exact ⟨_, rfl, kept⟩
  have silent : content.nonRepudiationInformation = none := by
    simp only [Receipt.codec, record_reread, withWildcard_reread] at contentRead
    exact optional_reread_none.mp contentRead.1
  have receipt : AS4Receipt.receipt { soapEnvelope := some envelope, originalMessageId := named } = .ok (some content) := by
    simp [AS4Receipt.receipt, AS4Receipt.signalMessage, Messaging.signalMessage, one, Messaging.onlyOne, carried, bind,
      Except.bind, pure, Except.pure]
  refine ⟨⟨content, receipt⟩, ?_⟩
  simp [AS4Receipt.nonRepudiatedReferences, receipt, silent, bind, Except.bind, pure, Except.pure]

omit [Libraries] in
/-- A signed receipt with nothing in it proves the delivery of a message of which
nothing was signed. -/
theorem empty_receipt_passes :
    letI := signing [answerDocument (emptyReceipt "message")]
    ∃ receipt, AS4Receipt.parse (plainText (answerDocument (emptyReceipt "message")))
        (answeringParty [answerDocument (emptyReceipt "message")]).credentials.certificate = .ok receipt ∧
      receipt.verifyNonRepudiation [] none = .ok () ∧ receipt.nonRepudiatedReferences = .ok [] ∧
        ¬ ∃ acknowledged, Acknowledges receipt [] none acknowledged := by
  have stamps : @Stamps (signing [answerDocument (emptyReceipt "message")]) answerTime := ⟨by decide, answerTime, by decide⟩
  have legible := @emptyReceipt_legible (signing [answerDocument (emptyReceipt "message")]) "message" stamps (by decide)
  obtain ⟨envelope, read, parsed⟩ := answer_parses [answerDocument (emptyReceipt "message")] (emptyReceipt "message") (answer_listed _) legible
    (.inr ⟨"message", rfl, by decide⟩)
  let _ := signing [answerDocument (emptyReceipt "message")]
  obtain ⟨carries, silent⟩ := @emptyReceipt_read (signing [answerDocument (emptyReceipt "message")]) _ _ _ _
    (some (strip "message")) rfl read
  refine ⟨_, parsed, ?_, silent, fun ⟨_, proves⟩ => proves.asked rfl⟩
  exact verifyNonRepudiation_iff.mpr ⟨carries, by simp, [], silent, by simp, by simp⟩

end EmptyReceipt

end NonRepudiation
