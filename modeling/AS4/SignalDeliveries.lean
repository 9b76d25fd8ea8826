import AS4.RestoredSenders

/-!
What taking in a signal does to a sending exchange, and to a family of them. Whether a
signal answers an exchange depends on what the exchange sent and to whom, and not on
what it took in before; so an exchange ends where the signals that answer it put it.
-/

namespace SignalDeliveries
open FallibleSteps PythonData AS4Libraries AS4Errors MessagingModel Verification ReceiptVerification Exchange StateMachine
  ExchangeInvariants Serialisation RecordedExchange ReceivingRuns RestoredSenders ElementTree ElementCodec EnvelopeModel

variable [Libraries]

section Answers

/-- The signal is verified under the remote party's certificate, and names the message
of this exchange. -/
def Answers (exchange : AS4SendingExchange) (signalData : Bytes) (receipt : AS4Receipt) : Prop :=
  AS4Receipt.parse signalData exchange.remoteParty.credentials.certificate = .ok receipt ∧
    receipt.originalMessageId = some exchange.messageId

def answers (exchange : AS4SendingExchange) (signalData : Bytes) : Bool :=
  match AS4Receipt.parse signalData exchange.remoteParty.credentials.certificate with
  | .ok receipt => receipt.originalMessageId == some exchange.messageId
  | .error _ => false

theorem answers_iff {exchange : AS4SendingExchange} {signalData : Bytes} :
    answers exchange signalData = true ↔ ∃ receipt, Answers exchange signalData receipt := by
  unfold answers Answers
  cases AS4Receipt.parse signalData exchange.remoteParty.credentials.certificate with
  | error raised => simp
  | ok receipt => simp

/-- What `receive_signal` makes of a signal: refused with nothing changed, or recorded
with the state it leads to. -/
def Outcome (exchange : AS4SendingExchange) (signalData : Bytes) : Prop :=
  ((¬ ∃ receipt, Answers exchange signalData receipt) ∧
      ∃ raised, receiveSignal signalData exchange = .error raised exchange) ∨
    ∃ receipt, Answers exchange signalData receipt ∧
      ((∃ error, receipt.error = .ok (some error)) ∧
          receiveSignal signalData exchange = .ok () { exchange with receipt := some receipt, state := .rejected } ∨
        receipt.error = .ok none ∧
          receipt.verifyNonRepudiation exchange.signedReferences exchange.requiredReferences = .ok () ∧
            receiveSignal signalData exchange =
              .ok () { exchange with receipt := some receipt, state := .acknowledged } ∨
        receipt.error = .ok none ∧
          (∃ message, receipt.verifyNonRepudiation exchange.signedReferences exchange.requiredReferences =
              .error (.receiptVerification message) ∧
            receiveSignal signalData exchange = .error (.receiptVerification message)
              { exchange with receipt := some receipt, state := .failed }))

theorem receiveSignal_outcome (exchange : AS4SendingExchange) (signalData : Bytes) : Outcome exchange signalData := by
  cases judged : judgeSignal exchange signalData with
  | error raised =>
      refine .inl ⟨?_, raised, by simp [receiveSignal, judged]⟩
      rintro ⟨receipt, read, named⟩
      obtain ⟨state, unproven, given⟩ := verdict_of_parsed read exchange
      rw [judgeSignal_ok.mpr ⟨read, named, given⟩] at judged
      simp at judged
  | ok outcome =>
      obtain ⟨receipt, state, unproven⟩ := outcome
      obtain ⟨read, named, given⟩ := judgeSignal_ok.mp judged
      refine .inr ⟨receipt, ⟨read, named⟩, ?_⟩
      simp only [verdict, bind_ok] at given
      obtain ⟨error, reported, remaining⟩ := given
      cases error with
      | some error =>
          simp only [Option.isSome_some, ↓reduceIte, pure_ok, Prod.mk.injEq] at remaining
          obtain ⟨rfl, rfl⟩ := remaining
          exact .inl ⟨⟨error, reported⟩, by simp [receiveSignal, judged]⟩
      | none =>
          simp only [Option.isSome_none, Bool.false_eq_true, ↓reduceIte] at remaining
          split at remaining
          · rename_i result proven
            simp only [pure_ok, Prod.mk.injEq] at remaining
            obtain ⟨rfl, rfl⟩ := remaining
            exact .inr (.inl ⟨reported, proven, by simp [receiveSignal, judged]⟩)
          · rename_i message refused
            simp only [pure_ok, Prod.mk.injEq] at remaining
            obtain ⟨rfl, rfl⟩ := remaining
            exact .inr (.inr ⟨reported, message, refused, by simp [receiveSignal, judged]⟩)
          · simp at remaining

/-- A signal that does not answer the exchange changes nothing of it. -/
theorem foreign_unchanged {exchange : AS4SendingExchange} {signalData : Bytes}
    (foreign : answers exchange signalData = false) : leftBehind (receiveSignal signalData exchange) = exchange := by
  rcases receiveSignal_outcome exchange signalData with ⟨-, raised, refused⟩ | ⟨receipt, answer, -⟩
  · rw [refused]
    rfl
  · rw [answers_iff.mpr ⟨receipt, answer⟩] at foreign
    contradiction

end Answers

section Repeats

/-- The same exchange, wherever its signals have put it. -/
def located (exchange : AS4SendingExchange) (state : ExchangeState) (receipt : Option AS4Receipt) : AS4SendingExchange :=
  { exchange with state := state, receipt := receipt }

theorem judgeSignal_located (exchange : AS4SendingExchange) (state : ExchangeState) (receipt : Option AS4Receipt)
    (signalData : Bytes) : judgeSignal (located exchange state receipt) signalData = judgeSignal exchange signalData := rfl

theorem answers_located (exchange : AS4SendingExchange) (state : ExchangeState) (receipt : Option AS4Receipt)
    (signalData : Bytes) : answers (located exchange state receipt) signalData = answers exchange signalData := rfl

/-- Taking in a signal only ever moves the state and the receipt. -/
theorem leftBehind_located (exchange : AS4SendingExchange) (signalData : Bytes) :
    ∃ state receipt, leftBehind (receiveSignal signalData exchange) = located exchange state receipt := by
  rcases receiveSignal_outcome exchange signalData with ⟨-, raised, same⟩ | ⟨receipt, -, ⟨-, same⟩ | ⟨-, -, same⟩ | ⟨-, _, -, same⟩⟩
  · exact ⟨exchange.state, exchange.receipt, by rw [same]; rfl⟩
  · exact ⟨.rejected, some receipt, by rw [same]; rfl⟩
  · exact ⟨.acknowledged, some receipt, by rw [same]; rfl⟩
  · exact ⟨.failed, some receipt, by rw [same]; rfl⟩

theorem raisedBy_located (exchange : AS4SendingExchange) (state : ExchangeState) (receipt : Option AS4Receipt)
    (signalData : Bytes) :
    raisedBy (receiveSignal signalData (located exchange state receipt)) = raisedBy (receiveSignal signalData exchange) := by
  simp only [receiveSignal, judgeSignal_located]
  cases judgeSignal exchange signalData with
  | error raised => rfl
  | ok outcome =>
      obtain ⟨recorded, reached, unproven⟩ := outcome
      cases unproven <;> rfl

/-- A signal that answers an exchange puts it in one place, from wherever it was. -/
theorem answered_located {exchange : AS4SendingExchange} {signalData : Bytes} (answered : answers exchange signalData = true)
    (state : ExchangeState) (receipt : Option AS4Receipt) :
    leftBehind (receiveSignal signalData (located exchange state receipt)) =
      leftBehind (receiveSignal signalData exchange) := by
  obtain ⟨received, read, named⟩ := answers_iff.mp answered
  obtain ⟨reached, unproven, given⟩ := verdict_of_parsed read exchange
  have judged := judgeSignal_ok.mpr ⟨read, named, given⟩
  simp only [receiveSignal, judgeSignal_located, judged]
  cases unproven <;> rfl

/-- Delivering the same signal again raises the same and changes nothing. -/
theorem repeated_delivery (exchange : AS4SendingExchange) (signalData : Bytes) :
    let after := leftBehind (receiveSignal signalData exchange)
    leftBehind (receiveSignal signalData after) = after ∧
      raisedBy (receiveSignal signalData after) = raisedBy (receiveSignal signalData exchange) := by
  intro after
  obtain ⟨state, receipt, moved⟩ := leftBehind_located exchange signalData
  have here : after = located exchange state receipt := moved
  refine ⟨?_, by rw [here, raisedBy_located]⟩
  cases answered : answers exchange signalData with
  | true => rw [here, answered_located answered, moved]
  | false =>
      rw [here]
      exact foreign_unchanged (by rw [answers_located, answered])

end Repeats

section Families
variable {ι : Type} [DecidableEq ι]

/-- One call of `receive_signal`, returning or raising. -/
def take (signalData : Bytes) (exchange : AS4SendingExchange) : AS4SendingExchange :=
  leftBehind (receiveSignal signalData exchange)

/-- A signal delivered to one exchange of a family. -/
def deliver (delivery : ι × Bytes) (family : ι → AS4SendingExchange) : ι → AS4SendingExchange :=
  Function.update family delivery.1 (take delivery.2 (family delivery.1))

/-- The signals of a run of deliveries that reached this exchange and answer it. -/
def answering (family : ι → AS4SendingExchange) (index : ι) (deliveries : List (ι × Bytes)) : List Bytes :=
  ((deliveries.filter fun delivery => delivery.1 == index).map (·.2)).filter (answers (family index))

theorem answers_take (exchange : AS4SendingExchange) (received signalData : Bytes) :
    answers (take received exchange) signalData = answers exchange signalData := by
  obtain ⟨state, receipt, moved⟩ := leftBehind_located exchange received
  rw [take, moved, answers_located]

/-- The message a signal names does not depend on the signer it is checked against. -/
theorem answers_one {first second : AS4SendingExchange} {signalData : Bytes} (distinct : first.messageId ≠ second.messageId)
    (answered : answers first signalData = true) : answers second signalData = false := by
  obtain ⟨receipt, read, named⟩ := answers_iff.mp answered
  by_contra also
  obtain ⟨receipt', read', named'⟩ := answers_iff.mp (Bool.of_not_eq_false also)
  obtain ⟨document, envelope, signal, parsed, validated, only, rfl, -⟩ := parse_receipt_ok read
  obtain ⟨document', envelope', signal', parsed', validated', only', rfl, -⟩ := parse_receipt_ok read'
  obtain rfl := Option.some.inj (parsed.symm.trans parsed')
  obtain rfl := Except.ok.inj (validated.symm.trans validated')
  have same : signal = signal' := by
    have lists := only.symm.trans only'
    cases signal <;> cases signal' <;> simp_all
  subst same
  exact distinct (Option.some.inj (named.symm.trans named'))

/-- Along any deliveries, an exchange goes where the signals that reached it and answer
it put it. -/
theorem run_deliver (family : ι → AS4SendingExchange) (deliveries : List (ι × Bytes)) (index : ι) :
    run deliver family deliveries index = run take (family index) (answering family index deliveries) := by
  induction deliveries generalizing family with
  | nil => rfl
  | cons delivery rest ih =>
      obtain ⟨target, signalData⟩ := delivery
      rw [run, ih]
      by_cases here : target = index
      · subst here
        have after : deliver (target, signalData) family target = take signalData (family target) := by simp [deliver]
        have same : answers (take signalData (family target)) = answers (family target) :=
          funext fun later => answers_take (family target) signalData later
        cases answered : answers (family target) signalData with
        | true => simp [answering, after, same, answered, run]
        | false =>
            have kept : take signalData (family target) = family target := foreign_unchanged answered
            simp [answering, after, kept, answered]
      · have after : deliver (target, signalData) family index = family index := by
          simp [deliver, Function.update_of_ne (Ne.symm here)]
        simp [answering, after, here]

/-- `receive_signal` has one of three outcomes, whatever the exchange took in before;
repeating it changes nothing; and in a family of exchanges for different messages each
ends as if it had been given only the signals that answer it, no signal answering two. -/
theorem deliveries_atomic_isolated_idempotent (family : ι → AS4SendingExchange)
    (distinct : Function.Injective fun index => (family index).messageId) (deliveries : List (ι × Bytes)) :
    (∀ exchange signalData, Outcome exchange signalData ∧
      (∀ state receipt,
        raisedBy (receiveSignal signalData (located exchange state receipt)) =
            raisedBy (receiveSignal signalData exchange) ∧
          (answers exchange signalData = true →
            take signalData (located exchange state receipt) = take signalData exchange) ∧
          (answers exchange signalData = false →
            take signalData (located exchange state receipt) = located exchange state receipt)) ∧
      take signalData (take signalData exchange) = take signalData exchange ∧
        raisedBy (receiveSignal signalData (take signalData exchange)) = raisedBy (receiveSignal signalData exchange)) ∧
    (∀ index other signalData, index ≠ other → answers (family index) signalData = true →
      deliver (other, signalData) family = family) ∧
    ∀ index, run deliver family deliveries index = run take (family index) (answering family index deliveries) := by
  refine ⟨fun exchange signalData => ⟨receiveSignal_outcome exchange signalData, fun state receipt => ?_, ?_⟩, ?_,
    run_deliver family deliveries⟩
  · refine ⟨raisedBy_located exchange state receipt signalData, fun answered => answered_located answered state receipt,
      fun foreign => foreign_unchanged ?_⟩
    rw [answers_located, foreign]
  · exact repeated_delivery exchange signalData
  · intro index other signalData apart answered
    have foreign := answers_one (fun same => apart (distinct same)) answered
    rw [deliver, take, foreign_unchanged foreign, Function.update_eq_self]

omit [Libraries] in
/-- Two exchanges, for two messages, each given the signal that answers the first. -/
theorem delivered_to_two :
    letI := signing []
    let document := Envelope.codec.element (soap12 "Envelope") (emptyKeyDataEnvelope [48, 1])
    letI := signing [document]
    let localParty := answeringParty [document]
    let family : Bool → AS4SendingExchange := fun first =>
      AS4SendingExchange.new localParty
        { identity := localParty.identity, credentials := ⟨localParty.credentials.certificate⟩ } sentReferences none
        (if first then sentReferences.messageId else "other") ""
    let deliveries := [(true, plainText document), (false, plainText document)]
    run deliver family deliveries true = run take (family true) (answering family true deliveries) := by
  intro document
  let _ := signing [document]
  intro localParty family deliveries
  have distinct : Function.Injective fun index => (family index).messageId := by
    have apart : sentReferences.messageId ≠ "other" ∧ sentReferences.messageId ≠ "" := by decide
    intro first second same
    cases first <;> cases second <;> simp_all [family, AS4SendingExchange.new, defaultMessageIds]
  exact (deliveries_atomic_isolated_idempotent family distinct deliveries).2.2 true

end Families

end SignalDeliveries
