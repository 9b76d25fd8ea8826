import AS4.RecordedExchange
import AS4.StateMachine

/-!
What the states of a sending exchange mean along its runs. `build`, `mark_sent`,
`receive_signal` and the JSON round trip may come in any order; each leaves a state
behind whether it returns or raises.
-/

namespace ExchangeInvariants
open ElementTree ElementCodec ElementCodec.Codec FallibleSteps PythonData AS4Libraries AS4Errors SignatureModel
  MessagingModel EnvelopeModel Verification MessageParsing ReceiptVerification MessageBuilding Exchange RecordedExchange
  StateMachine

variable [Libraries]

section Operations

inductive Operation where
  | build (builder : MessageBuilder) (draws : Draws)
  | markSent
  | receiveSignal (signalData : Bytes)
  | restore (localParty : AS4InternalParty)

omit [Libraries] in
/-- The state a call leaves behind, returning or raising. -/
def leftBehind {ε σ α : Type} : EStateM.Result ε σ α → σ
  | .ok _ state => state
  | .error _ state => state

def step : Operation → AS4SendingExchange → AS4SendingExchange
  | .build builder draws, exchange => leftBehind (build builder draws exchange)
  | .markSent, exchange => markSent exchange
  | .receiveSignal signalData, exchange => leftBehind (receiveSignal signalData exchange)
  | .restore localParty, exchange =>
      match restore exchange localParty with
      | .ok restored => restored
      | .error _ => exchange

/-- Either no request was made and nothing but the identifiers changed, or a
message was built and stored. -/
theorem build_cases (builder : MessageBuilder) (draws : Draws) (exchange : AS4SendingExchange) :
    ((∀ message identifiers, builder exchange.localParty exchange.remoteParty exchange.identifiers =
          .ok message identifiers → ∃ raised, requestData message draws = .error raised) ∧
        ∃ identifiers, step (.build builder draws) exchange = { exchange with identifiers := identifiers }) ∨
      ∃ identifiers message request, builder exchange.localParty exchange.remoteParty exchange.identifiers =
          .ok message identifiers ∧ requestData message draws = .ok request ∧
        step (.build builder draws) exchange = { exchange with
          identifiers := identifiers
          message := some message
          messageId := message.messageId
          messagingId := message.messagingId
          signedReferences := message.signedReferences
          state := .built } := by
  simp only [step, build]
  split
  · rename_i raised identifiers failed
    exact .inl ⟨fun message identifiers built => (by simp [failed] at built), identifiers, rfl⟩
  · rename_i message identifiers built
    split
    · rename_i raised failed
      refine .inl ⟨fun message' identifiers' built' => ?_, identifiers, rfl⟩
      obtain ⟨rfl, rfl⟩ := EStateM.Result.ok.inj (built.symm.trans built')
      exact ⟨raised, failed⟩
    · rename_i request requested
      exact .inr ⟨identifiers, message, request, built, requested, rfl⟩

theorem receiveSignal_cases (signalData : Bytes) (exchange : AS4SendingExchange) :
    ((∃ raised, judgeSignal exchange signalData = .error raised) ∧ step (.receiveSignal signalData) exchange = exchange) ∨
      ∃ receipt state unproven, judgeSignal exchange signalData = .ok (receipt, state, unproven) ∧
        step (.receiveSignal signalData) exchange = { exchange with receipt := some receipt, state := state } := by
  simp only [step, receiveSignal]
  split
  · rename_i raised judged
    exact .inl ⟨⟨raised, judged⟩, rfl⟩
  · rename_i receipt state unproven judged
    refine .inr ⟨receipt, state, unproven, judged, ?_⟩
    cases unproven <;> rfl

theorem restore_ok {localParty : AS4InternalParty} {exchange restored : AS4SendingExchange}
    (succeeded : restore exchange localParty = .ok restored) :
    ∃ message receipt, reloadOptional reloadMessage exchange.message = some message ∧
      reloadOptional reloadReceipt exchange.receipt = some receipt ∧
      restored = defaultMessageIds { exchange with localParty := localParty, message := message, receipt := receipt } := by
  unfold restore at succeeded
  split at succeeded
  · simp at succeeded
  · split at succeeded
    · rename_i message receipt messageKept receiptKept
      exact ⟨message, receipt, messageKept, receiptKept, (Except.ok.inj succeeded).symm⟩
    · simp at succeeded

theorem restore_cases (localParty : AS4InternalParty) (exchange : AS4SendingExchange) :
    step (.restore localParty) exchange = exchange ∨
      ∃ message receipt, reloadOptional reloadMessage exchange.message = some message ∧
        reloadOptional reloadReceipt exchange.receipt = some receipt ∧
        step (.restore localParty) exchange =
          defaultMessageIds { exchange with localParty := localParty, message := message, receipt := receipt } := by
  simp only [step]
  split
  · rename_i restored succeeded
    obtain ⟨message, receipt, messageKept, receiptKept, same⟩ := restore_ok succeeded
    exact .inr ⟨message, receipt, messageKept, receiptKept, same⟩
  · exact .inl rfl

/-- What a signal went through before it was recorded. -/
theorem judgeSignal_ok {exchange : AS4SendingExchange} {signalData : Bytes} {receipt : AS4Receipt}
    {state : ExchangeState} {unproven : Option PyError} :
    judgeSignal exchange signalData = .ok (receipt, state, unproven) ↔
      AS4Receipt.parse signalData exchange.remoteParty.credentials.certificate = .ok receipt ∧
        receipt.originalMessageId = some exchange.messageId ∧ verdict exchange receipt = .ok (state, unproven) := by
  have same : requireSameMessage exchange receipt = .ok () ↔ receipt.originalMessageId = some exchange.messageId := by
    simp [requireSameMessage, refuse]
  simp only [judgeSignal, bind_ok, pure_ok, Prod.mk.injEq]
  constructor
  · rintro ⟨parsed, read, _, named, ⟨state', unproven'⟩, judged, rfl, rfl, rfl⟩
    exact ⟨read, same.mp named, judged⟩
  · rintro ⟨read, named, judged⟩
    exact ⟨receipt, read, (), same.mpr named, (state, unproven), judged, rfl, rfl, rfl⟩

end Operations

section Verdicts

/-- The receipt proves delivery of what was sent. -/
structure Proves (receipt : AS4Receipt) (sent : List ComparableReferenceFields)
    (required : Option (List ComparableReferenceFields)) : Prop where
  noError : receipt.error = .ok none
  carried : ∃ content, receipt.receipt = .ok (some content)
  acknowledges : ∃ acknowledged, receipt.nonRepudiatedReferences = .ok acknowledged ∧
    (∀ reference ∈ acknowledged, reference ∈ sent) ∧ ∀ reference ∈ required.getD sent, reference ∈ acknowledged

omit [Libraries] in
theorem refuse_ne {α : Type} {message : String} {value : α} : (refuse message : Except PyError α) ≠ .ok value := by
  simp [refuse]

theorem verifyNonRepudiation_ok {receipt : AS4Receipt} {sent : List ComparableReferenceFields}
    {required : Option (List ComparableReferenceFields)} {result : Unit}
    (succeeded : receipt.verifyNonRepudiation sent required = .ok result) :
    (∃ content, receipt.receipt = .ok (some content)) ∧
      ∃ acknowledged, receipt.nonRepudiatedReferences = .ok acknowledged ∧
        (∀ reference ∈ acknowledged, reference ∈ sent) ∧
          ∀ reference ∈ required.getD sent, reference ∈ acknowledged := by
  simp only [AS4Receipt.verifyNonRepudiation, bind_ok] at succeeded
  obtain ⟨content, read, remaining⟩ := succeeded
  cases content with
  | none => exact absurd remaining (by simp [refuse_ne])
  | some content =>
      simp only [Option.isNone_some, Bool.false_eq_true, ↓reduceIte] at remaining
      split at remaining
      · exact absurd remaining refuse_ne
      · simp only [bind_ok] at remaining
        obtain ⟨acknowledged, listed, _, allSent, allAcknowledged⟩ := remaining
        refine ⟨⟨content, read⟩, acknowledged, listed, ?_, ?_⟩
        · intro reference member
          by_contra unsent
          have checked := each_ok.mp allSent reference member
          simp [requireSent, unsent, refuse] at checked
        · intro reference member
          by_contra unacknowledged
          have checked := each_ok.mp allAcknowledged reference member
          simp [requireAcknowledged, unacknowledged, refuse] at checked

/-- The three verdicts: an error signal, a proven receipt, an unproven one. -/
theorem verdict_ok {exchange : AS4SendingExchange} {receipt : AS4Receipt} {state : ExchangeState}
    {unproven : Option PyError} (judged : verdict exchange receipt = .ok (state, unproven)) :
    (state = .rejected ∧ ∃ error, receipt.error = .ok (some error)) ∨
      (state = .acknowledged ∧ Proves receipt exchange.signedReferences exchange.requiredReferences) ∨
        (state = .failed ∧ receipt.error = .ok none) := by
  simp only [verdict, bind_ok] at judged
  obtain ⟨error, read, remaining⟩ := judged
  cases error with
  | some error =>
      simp only [Option.isSome_some, ↓reduceIte, pure_ok, Prod.mk.injEq] at remaining
      exact .inl ⟨remaining.1.symm, error, read⟩
  | none =>
      simp only [Option.isSome_none, Bool.false_eq_true, ↓reduceIte] at remaining
      split at remaining
      · rename_i result proven
        simp only [pure_ok, Prod.mk.injEq] at remaining
        obtain ⟨carried, acknowledges⟩ := verifyNonRepudiation_ok proven
        exact .inr (.inl ⟨remaining.1.symm, read, carried, acknowledges⟩)
      · simp only [pure_ok, Prod.mk.injEq] at remaining
        exact .inr (.inr ⟨remaining.1.symm, read⟩)
      · simp at remaining

end Verdicts

section Reloading

omit [Libraries] in
/-- Two options, both absent or both present and related. -/
theorem rel_isSome {α β : Type} {related : α → β → Prop} {first : Option α} {second : Option β}
    (same : Option.Rel related first second) : second.isSome = first.isSome := by
  cases same <;> rfl

omit [Libraries] in
theorem transform_reload {before after : Transform} (kept : Transform.codec.reload before = some after) :
    after.algorithm = before.algorithm := by
  simp only [Transform.codec, record_reload, withWildcard_reload] at kept
  obtain ⟨⟨algorithm, content⟩, ⟨same, -⟩, rfl⟩ := kept
  exact (Option.some.inj same).symm

omit [Libraries] in
theorem transforms_reload {before after : Transforms} (kept : Transforms.codec.reload before = some after) :
    after.transforms.map (·.algorithm) = before.transforms.map (·.algorithm) := by
  simp only [Transforms.codec, record_reload, many_reload] at kept
  obtain ⟨transforms, each, rfl⟩ := kept
  exact forall₂_map_eq each fun _ _ => transform_reload

omit [Libraries] in
/-- What a reference is compared by survives storing it. -/
theorem reference_reload {before after : DsigReference} (kept : DsigReference.codec.reload before = some after) :
    ComparableReferenceFields.fromReference after = ComparableReferenceFields.fromReference before := by
  simp only [DsigReference.codec, record_reload, pair_reload] at kept
  obtain ⟨⟨transforms, method, value, id, uri, typeValue⟩, ⟨transformsKept, methodKept, valueKept, -, uriKept, -⟩, rfl⟩ :=
    kept
  have sameTransforms : transforms.transforms.map (·.algorithm) = before.transforms.transforms.map (·.algorithm) :=
    transforms_reload transformsKept
  have sameMethod : method = before.digestMethod := by
    have kept : DigestMethod.codec.reload before.digestMethod = some method := methodKept
    simp only [DigestMethod.codec, record_reload] at kept
    obtain ⟨algorithm, same, rfl⟩ := kept
    rw [← Option.some.inj same]
  have sameValue : value = before.digestValue := by
    have kept : DigestValue.codec.reload before.digestValue = some value := valueKept
    simp only [DigestValue.codec, record_reload] at kept
    obtain ⟨text, same, rfl⟩ := kept
    rw [← Option.some.inj same]
  have sameUri : uri = before.uri := (Option.some.inj uriKept).symm
  subst sameMethod sameValue sameUri
  simp only [ComparableReferenceFields.fromReference, transformAlgorithms, sameTransforms]

omit [Libraries] in
/-- The comparable references of a receipt. -/
def comparables (information : NonRepudiationInformation) : List ComparableReferenceFields :=
  (acknowledgedReferences information).map ComparableReferenceFields.fromReference

omit [Libraries] in
theorem part_reload {before after : MessagePartNRInformation}
    (kept : MessagePartNRInformation.codec.reload before = some after) :
    after.references.map ComparableReferenceFields.fromReference =
      before.references.map ComparableReferenceFields.fromReference := by
  simp only [MessagePartNRInformation.codec, record_reload, someOf_reload] at kept
  obtain ⟨references, each, rfl⟩ := kept
  exact forall₂_map_eq each fun _ _ => reference_reload

omit [Libraries] in
theorem information_reload {before after : NonRepudiationInformation}
    (kept : NonRepudiationInformation.codec.reload before = some after) : comparables after = comparables before := by
  simp only [NonRepudiationInformation.codec, record_reload, many_reload] at kept
  obtain ⟨parts, each, rfl⟩ := kept
  have sameParts := forall₂_map_eq each fun _ _ => part_reload
  simp only [comparables, acknowledgedReferences, List.map_flatMap]
  rw [List.flatMap_def, List.flatMap_def, sameParts]

/-- What the verdict on a signal depends on. -/
structure SameSignal (before after : SignalMessage) : Prop where
  errors : after.errors.length = before.errors.length
  receipt : after.receipt.isSome = before.receipt.isSome
  information : ((after.receipt.bind (·.nonRepudiationInformation)).map comparables) =
    ((before.receipt.bind (·.nonRepudiationInformation)).map comparables)

theorem signal_reload {before after : SignalMessage} (kept : SignalMessage.codec.reload before = some after) :
    SameSignal before after := by
  simp only [SignalMessage.codec, record_reload, withWildcard_reload, pair_reload, optional_reload, many_reload] at kept
  obtain ⟨⟨⟨info, request, receipt, errors⟩, content⟩, ⟨⟨-, -, receiptKept, errorsKept⟩, -⟩, rfl⟩ := kept
  refine ⟨?_, rel_isSome receiptKept, ?_⟩
  · exact errorsKept.length_eq.symm
  · simp only at receiptKept ⊢
    generalize before.receipt = oldReceipt at receiptKept ⊢
    cases receiptKept with
    | none => rfl
    | @some old new inner =>
        simp only [Receipt.codec, record_reload, withWildcard_reload, optional_reload] at inner
        obtain ⟨⟨information, content'⟩, ⟨informationKept, -⟩, rfl⟩ := inner
        simp only [Option.bind_some] at informationKept ⊢
        generalize old.nonRepudiationInformation = oldInformation at informationKept ⊢
        cases informationKept with
        | none => rfl
        | some same => simp [information_reload same]

theorem envelope_reload {before after : Envelope} (kept : Envelope.codec.reload before = some after) :
    List.Forall₂ (fun old new => SignalMessage.codec.reload old = some new)
      before.header.messaging.signalMessages after.header.messaging.signalMessages := by
  simp only [Envelope.codec, record_reload, pair_reload] at kept
  obtain ⟨⟨element, header, body⟩, ⟨-, headerKept, -⟩, rfl⟩ := kept
  have headerReload : Header.codec.reload before.header = some header := headerKept
  simp only [Header.codec, record_reload, pair_reload] at headerReload
  obtain ⟨⟨security, messaging⟩, ⟨-, messagingKept⟩, rfl⟩ := headerReload
  have messagingReload : Messaging.codec.reload before.header.messaging = some messaging := messagingKept
  simp only [Messaging.codec, record_reload, withWildcard_reload, pair_reload, many_reload] at messagingReload
  obtain ⟨⟨⟨element', signals, users, id, mustUnderstand⟩, content⟩, ⟨⟨-, signalsKept, -⟩, -⟩, rfl⟩ := messagingReload
  exact signalsKept

/-- A stored receipt and its reloaded form read the same signal. -/
theorem receipt_signal_reload {before after : AS4Receipt} (kept : reloadReceipt before = some after) :
    after.originalMessageId = before.originalMessageId ∧
      ((∃ raised, before.signalMessage = .error raised ∧ after.signalMessage = .error raised) ∨
        ∃ old new, before.signalMessage = .ok old ∧ after.signalMessage = .ok new ∧ Option.Rel SameSignal old new) := by
  unfold reloadReceipt at kept
  split at kept
  · rename_i absent
    obtain rfl := Option.some.inj kept
    exact ⟨rfl, .inr ⟨none, none, by simp [AS4Receipt.signalMessage, absent],
      by simp [AS4Receipt.signalMessage, absent], .none⟩⟩
  · rename_i envelope present
    obtain ⟨envelope', reloaded, rfl⟩ := Option.map_eq_some_iff.mp kept
    refine ⟨rfl, ?_⟩
    have signals := envelope_reload reloaded
    simp only [AS4Receipt.signalMessage, present, Messaging.signalMessage]
    generalize envelope.header.messaging.signalMessages = olds at signals
    generalize envelope'.header.messaging.signalMessages = news at signals
    cases signals with
    | nil => exact .inr ⟨none, none, rfl, rfl, .none⟩
    | @cons old new olds news first rest =>
        cases rest with
        | nil => exact .inr ⟨some old, some new, rfl, rfl, .some (signal_reload first)⟩
        | cons second others =>
            refine .inl ⟨_, rfl, ?_⟩
            simp [Messaging.onlyOne, others.length_eq]

/-- Storing a receipt changes nothing the verdict depends on. -/
theorem receipt_reload {before after : AS4Receipt} (kept : reloadReceipt before = some after) :
    after.originalMessageId = before.originalMessageId ∧
      (after.error.map Option.isSome) = (before.error.map Option.isSome) ∧
      (after.receipt.map Option.isSome) = (before.receipt.map Option.isSome) ∧
      after.nonRepudiatedReferences = before.nonRepudiatedReferences := by
  obtain ⟨sameId, cases⟩ := receipt_signal_reload kept
  refine ⟨sameId, ?_⟩
  rcases cases with ⟨raised, old, new⟩ | ⟨old, new, oldRead, newRead, same⟩
  · simp [AS4Receipt.error, AS4Receipt.errors, AS4Receipt.receipt, AS4Receipt.nonRepudiatedReferences, old, new, bind,
      Except.bind, Except.map]
  · simp only [AS4Receipt.error, AS4Receipt.errors, AS4Receipt.receipt, AS4Receipt.nonRepudiatedReferences, oldRead,
      newRead, bind, Except.bind, pure, Except.pure, Except.map]
    cases same with
    | none => simp
    | @some old new same =>
        refine ⟨?_, by simpa using same.receipt, ?_⟩
        · have errors := same.errors
          cases oldErrors : old.errors <;> cases newErrors : new.errors <;> simp_all
        · have information := same.information
          simp only [Option.bind_some]
          cases oldInformation : old.receipt.bind (·.nonRepudiationInformation) <;>
            cases newInformation : new.receipt.bind (·.nonRepudiationInformation) <;>
              simp_all [comparables]

end Reloading

section Verified

/-- A receipt that verified under this certificate, however often it was stored
and restored since. -/
inductive VerifiedUnder (certificate : Certificate) : AS4Receipt → Prop where
  | parsed {data : Bytes} {receipt : AS4Receipt} (read : AS4Receipt.parse data certificate = .ok receipt) :
      VerifiedUnder certificate receipt
  | reloaded {before after : AS4Receipt} (verified : VerifiedUnder certificate before)
      (kept : reloadReceipt before = some after) : VerifiedUnder certificate after

theorem messageInfo_ref {n : Located} {info : MessageInfo} (read : MessageInfo.codec.validate n = .ok info) :
    info.refToMessageId ≠ some "" := by
  simp only [MessageInfo.codec, record_ok, pair_ok] at read
  obtain ⟨⟨timestamp, messageId, ref⟩, ⟨-, -, refRead⟩, rfl⟩ := read
  rintro rfl
  obtain ⟨_, child, -, text⟩ := optional_some.mp refRead
  obtain ⟨s, stripped, same⟩ := requiredText_ok.mp text
  exact strippedText_ne stripped (Except.ok.inj same)

theorem signal_messageInfo {n : Located} {signal : SignalMessage}
    (read : SignalMessage.codec.validate n = .ok signal) :
    ∃ key child, lookupChildren n (eb3 "MessageInfo") "message_info" = some (key, [child]) ∧
      MessageInfo.codec.validate child = .ok signal.messageInfo := by
  simp only [SignalMessage.codec, record_ok, withWildcard_ok, pair_ok, singular_ok] at read
  obtain ⟨⟨⟨info, request, receipt, errors⟩, content⟩, ⟨⟨infoRead, -⟩, -⟩, rfl⟩ := read
  exact infoRead

omit [Libraries] in
theorem onlyOne_ok {α : Type} {messages : List α} {elementName : String} {found : Option α}
    (only : Messaging.onlyOne messages elementName = .ok found) : messages = found.toList := by
  unfold Messaging.onlyOne at only
  split at only
  · obtain rfl := Except.ok.inj only
    rfl
  · obtain rfl := Except.ok.inj only
    rfl
  · simp at only

/-- The parts of a signal that was parsed. -/
theorem parse_receipt_ok {data : Bytes} {certificate : Certificate} {receipt : AS4Receipt}
    (read : AS4Receipt.parse data certificate = .ok receipt) :
    ∃ (document : Node) (envelope : Envelope) (signal : Option SignalMessage),
      Libraries.parseXml data = some document ∧
      Envelope.codec.validate (.root document) = .ok envelope ∧
      envelope.header.messaging.signalMessages = signal.toList ∧
      receipt = { soapEnvelope := some envelope, originalMessageId := signal.bind (·.messageInfo.refToMessageId) } ∧
      requireReference receipt = .ok () ∧
      verifyReceiptSignature envelope (.root document) certificate = .ok () := by
  simp only [AS4Receipt.parse, readSignal, Envelope.modelValidateEtree, bind_ok, mapError_ok, pure_ok,
    Prod.exists, Prod.mk.injEq] at read
  obtain ⟨_, envelope, signal, ⟨document, xml, _, validated, _, only, rfl, rfl, rfl⟩, _, referenced, _, verified, rfl⟩ :=
    read
  exact ⟨document, _, _, parseXml_ok.mp xml, validated, onlyOne_ok only, rfl, referenced, verified⟩

theorem verified_id {certificate : Certificate} {receipt : AS4Receipt} (verified : VerifiedUnder certificate receipt) :
    receipt.originalMessageId ≠ some "" := by
  induction verified with
  | parsed read =>
      obtain ⟨document, envelope, signal, -, validated, only, rfl, -⟩ := parse_receipt_ok read
      cases signal with
      | none => simp
      | some signal =>
          obtain ⟨-, ⟨_, header, -, headerRead⟩, -⟩ := Envelope.reads validated
          obtain ⟨-, _, messaging, -, messagingRead⟩ := Header.reads headerRead
          have signals := (Messaging.reads messagingRead).2.1
          rw [only] at signals
          obtain ⟨child, -, signalRead⟩ := forall₂_source signals (List.mem_singleton_self signal)
          obtain ⟨_, info, -, infoRead⟩ := signal_messageInfo signalRead
          exact messageInfo_ref infoRead
  | reloaded _ kept ih =>
      rw [(receipt_reload kept).1]
      exact ih

end Verified

section Acknowledged

/-- In the acknowledged state the stored receipt proves delivery. -/
def AcknowledgedMeansProven (exchange : AS4SendingExchange) : Prop :=
  exchange.state = .acknowledged → ∃ receipt, exchange.receipt = some receipt ∧
    VerifiedUnder exchange.remoteParty.credentials.certificate receipt ∧
    receipt.originalMessageId = some exchange.messageId ∧
    Proves receipt exchange.signedReferences exchange.requiredReferences

theorem proves_reload {before after : AS4Receipt} (kept : reloadReceipt before = some after)
    {sent : List ComparableReferenceFields} {required : Option (List ComparableReferenceFields)}
    (proven : Proves before sent required) : Proves after sent required := by
  obtain ⟨-, error, content, references⟩ := receipt_reload kept
  refine ⟨?_, ?_, references ▸ proven.acknowledges⟩
  · rw [proven.noError] at error
    obtain ⟨found, read, absent⟩ := map_ok.mp error
    cases found with
    | none => exact read
    | some _ => simp at absent
  · obtain ⟨old, read⟩ := proven.carried
    rw [read] at content
    obtain ⟨found, read', present⟩ := map_ok.mp content
    cases found with
    | none => simp at present
    | some new => exact ⟨new, read'⟩

theorem step_acknowledged (operation : Operation) (exchange : AS4SendingExchange)
    (holds : AcknowledgedMeansProven exchange) : AcknowledgedMeansProven (step operation exchange) := by
  cases operation with
  | build builder draws =>
      rcases build_cases builder draws exchange with ⟨-, identifiers, after⟩ | ⟨_, message, _, _, _, after⟩
      · rw [after]
        exact holds
      · rw [after]
        intro state
        simp at state
  | markSent =>
      intro state
      simp [step, markSent] at state
  | receiveSignal signalData =>
      rcases receiveSignal_cases signalData exchange with ⟨-, after⟩ | ⟨receipt, state, unproven, judged, after⟩
      · rw [after]
        exact holds
      · rw [after]
        rintro rfl
        obtain ⟨read, named, given⟩ := judgeSignal_ok.mp judged
        rcases verdict_ok given with ⟨other, -⟩ | ⟨-, proven⟩ | ⟨other, -⟩
        · simp at other
        · exact ⟨receipt, rfl, .parsed read, named, proven⟩
        · simp at other
  | restore localParty =>
      rcases restore_cases localParty exchange with after | ⟨message, receipt, -, receiptKept, after⟩
      · rw [after]
        exact holds
      · rw [after]
        intro state
        obtain ⟨stored, present, verified, named, proven⟩ := holds state
        rw [present] at receiptKept
        obtain ⟨kept, reloaded, rfl⟩ := Option.map_eq_some_iff.mp receiptKept
        have verified' := VerifiedUnder.reloaded verified reloaded
        have named' : kept.originalMessageId = some exchange.messageId := (receipt_reload reloaded).1.trans named
        refine ⟨kept, rfl, verified', ?_, proves_reload reloaded proven⟩
        -- A signal names its message by text that is not empty, so restoring keeps the id.
        have nonempty : exchange.messageId ≠ "" := by
          intro empty
          exact verified_id verified' (empty ▸ named')
        simpa [defaultMessageIds, nonempty] using named'

/-- Whatever calls are made on a new sending exchange, in whatever order: when it
is acknowledged, its receipt verified under the remote party's certificate, names
the exchange's message, reports no error and acknowledges just what it should. -/
theorem acknowledged_means_proven (localParty : AS4InternalParty) (remoteParty : AS4ExternalParty)
    (identifiers : AS4References) (required : Option (List ComparableReferenceFields)) (messageId messagingId : String)
    (operations : List Operation) :
    AcknowledgedMeansProven
      (run step (AS4SendingExchange.new localParty remoteParty identifiers required messageId messagingId) operations) := by
  apply run_invariant step_acknowledged
  intro state
  simp [AS4SendingExchange.new, defaultMessageIds] at state

end Acknowledged

section Evidence

/-- State and evidence agree: a receipt is stored in just the states a verdict
leads to, the state is the verdict on it, and a message is stored once anything
has happened. -/
structure EvidenceAgrees (exchange : AS4SendingExchange) : Prop where
  stored : exchange.receipt.isSome = true ↔
    exchange.state = .acknowledged ∨ exchange.state = .rejected ∨ exchange.state = .failed
  judged : ∀ receipt ∈ exchange.receipt,
    VerifiedUnder exchange.remoteParty.credentials.certificate receipt ∧
      receipt.originalMessageId = some exchange.messageId ∧
        ∃ unproven, verdict exchange receipt = .ok (exchange.state, unproven)
  message : exchange.state ≠ .created → exchange.message.isSome = true

/-- The order of calls the exchange is meant for: nothing is built over a stored
receipt, nothing is marked as sent that was not built or is already answered, and
no signal that names the exchange's message is taken in before there is a message.
Calls that raise before they record anything may come at any time. -/
def InOrder : Operation → AS4SendingExchange → Prop
  | .build builder draws, exchange => exchange.receipt = none ∨
      ∀ message identifiers, builder exchange.localParty exchange.remoteParty exchange.identifiers =
        .ok message identifiers → ∃ raised, requestData message draws = .error raised
  | .markSent, exchange => exchange.receipt = none ∧ exchange.message.isSome = true
  | .receiveSignal signalData, exchange => exchange.message.isSome = true ∨
      ∀ receipt, AS4Receipt.parse signalData exchange.remoteParty.credentials.certificate = .ok receipt →
        receipt.originalMessageId ≠ some exchange.messageId
  | .restore _, _ => True

theorem verdict_reload {before after : AS4Receipt} (kept : reloadReceipt before = some after)
    {exchange exchange' : AS4SendingExchange} (sameSent : exchange'.signedReferences = exchange.signedReferences)
    (sameRequired : exchange'.requiredReferences = exchange.requiredReferences) :
    verdict exchange' after = verdict exchange before := by
  obtain ⟨-, error, content, references⟩ := receipt_reload kept
  have nonRepudiation : ∀ sent required,
      after.verifyNonRepudiation sent required = before.verifyNonRepudiation sent required := by
    intro sent required
    simp only [AS4Receipt.verifyNonRepudiation, references]
    cases old : before.receipt <;> cases new : after.receipt <;> simp_all [Except.map, bind, Except.bind]
    rename_i oldContent newContent
    cases oldContent <;> cases newContent <;> simp_all
  simp only [verdict, sameSent, sameRequired, nonRepudiation]
  cases old : before.error <;> cases new : after.error <;> simp_all [Except.map, bind, Except.bind]

omit [Libraries] in
theorem each_refuses {α : Type} {check : α → Except PyError Unit} (items : List α)
    (refuses : ∀ item, check item = .ok () ∨ ∃ message, check item = refuse message) :
    each check items = .ok () ∨ ∃ message, each check items = refuse message := by
  induction items with
  | nil => exact .inl rfl
  | cons item rest ih =>
      rcases refuses item with passes | ⟨message, fails⟩
      · simpa [each, passes, Except.bind] using ih
      · exact .inr ⟨message, by simp [each, fails, refuse, Except.bind]⟩

theorem verifyNonRepudiation_refuses {receipt : AS4Receipt} {content : Option Receipt}
    {acknowledged : List ComparableReferenceFields} (carried : receipt.receipt = .ok content)
    (listed : receipt.nonRepudiatedReferences = .ok acknowledged) (sent : List ComparableReferenceFields)
    (required : Option (List ComparableReferenceFields)) :
    receipt.verifyNonRepudiation sent required = .ok () ∨
      ∃ message, receipt.verifyNonRepudiation sent required = .error (.receiptVerification message) := by
  have sentRefuses : ∀ reference, requireSent sent reference = .ok () ∨
      ∃ message, requireSent sent reference = refuse message := by
    intro reference
    unfold requireSent
    split
    · exact .inl rfl
    · exact .inr ⟨_, rfl⟩
  have acknowledgedRefuses : ∀ reference, requireAcknowledged acknowledged reference = .ok () ∨
      ∃ message, requireAcknowledged acknowledged reference = refuse message := by
    intro reference
    unfold requireAcknowledged
    split
    · exact .inl rfl
    · exact .inr ⟨_, rfl⟩
  simp only [AS4Receipt.verifyNonRepudiation, carried, listed, bind, Except.bind]
  split
  · exact .inr ⟨_, rfl⟩
  · split
    · exact .inr ⟨_, rfl⟩
    · rcases each_refuses acknowledged sentRefuses with passes | ⟨message, fails⟩
      · simpa only [passes, refuse] using each_refuses (required.getD sent) acknowledgedRefuses
      · exact .inr ⟨message, by simp only [fails, refuse]⟩

/-- Every receipt that was parsed gets a verdict. -/
theorem verdict_of_parsed {data : Bytes} {certificate : Certificate} {receipt : AS4Receipt}
    (read : AS4Receipt.parse data certificate = .ok receipt) (exchange : AS4SendingExchange) :
    ∃ state unproven, verdict exchange receipt = .ok (state, unproven) := by
  obtain ⟨document, envelope, signal, -, -, only, rfl, -⟩ := parse_receipt_ok read
  generalize parsed : AS4Receipt.mk (some envelope) (signal.bind (·.messageInfo.refToMessageId)) none = receipt
  have signalRead : receipt.signalMessage = .ok signal := by
    subst parsed
    simp only [AS4Receipt.signalMessage, Messaging.signalMessage, only]
    cases signal <;> rfl
  have errorRead : receipt.error = .ok ((signal.map (·.errors)).getD []).head? := by
    simp [AS4Receipt.error, AS4Receipt.errors, signalRead, bind, Except.bind, pure, Except.pure]
  have receiptRead : receipt.receipt = .ok (signal.bind (·.receipt)) := by
    simp [AS4Receipt.receipt, signalRead, bind, Except.bind, pure, Except.pure]
  have listed : ∃ acknowledged, receipt.nonRepudiatedReferences = .ok acknowledged := by
    simp only [AS4Receipt.nonRepudiatedReferences, receiptRead, bind, Except.bind]
    split <;> exact ⟨_, rfl⟩
  obtain ⟨acknowledged, listed⟩ := listed
  simp only [verdict, errorRead, bind, Except.bind]
  split
  · exact ⟨_, _, rfl⟩
  · rcases verifyNonRepudiation_refuses receiptRead listed exchange.signedReferences exchange.requiredReferences with
      proven | ⟨message, unproven⟩
    · exact ⟨_, _, by rw [proven]; rfl⟩
    · exact ⟨_, _, by rw [unproven]; rfl⟩

theorem verdict_state {exchange : AS4SendingExchange} {receipt : AS4Receipt} {state : ExchangeState}
    {unproven : Option PyError} (judged : verdict exchange receipt = .ok (state, unproven)) :
    state = .acknowledged ∨ state = .rejected ∨ state = .failed := by
  rcases verdict_ok judged with ⟨rejected, -⟩ | ⟨acknowledged, -⟩ | ⟨failed, -⟩
  · exact .inr (.inl rejected)
  · exact .inl acknowledged
  · exact .inr (.inr failed)

theorem build_agrees_iff (builder : MessageBuilder) (draws : Draws) {exchange : AS4SendingExchange}
    (agrees : EvidenceAgrees exchange) :
    EvidenceAgrees (step (.build builder draws) exchange) ↔ InOrder (.build builder draws) exchange := by
  rcases build_cases builder draws exchange with ⟨unbuilt, identifiers, after⟩ |
    ⟨identifiers, message, request, built, requested, after⟩
  · rw [after]
    exact ⟨fun _ => .inr unbuilt, fun _ => ⟨agrees.stored, agrees.judged, agrees.message⟩⟩
  · rw [after]
    constructor
    · intro agrees'
      have absent := agrees'.stored
      exact .inl (by simpa using absent)
    · rintro (unanswered | unbuilt)
      · exact ⟨by simp [unanswered], by simp [unanswered], fun _ => rfl⟩
      · obtain ⟨raised, failed⟩ := unbuilt message identifiers built
        simp [requested] at failed

theorem markSent_agrees_iff (exchange : AS4SendingExchange) :
    EvidenceAgrees (step .markSent exchange) ↔ InOrder .markSent exchange := by
  constructor
  · intro agrees
    have absent := agrees.stored
    exact ⟨by simpa [step, markSent] using absent, agrees.message (by simp [step, markSent])⟩
  · rintro ⟨unanswered, stored⟩
    exact ⟨by simp [step, markSent, unanswered], by simp [step, markSent, unanswered], fun _ => stored⟩

theorem receiveSignal_agrees_iff (signalData : Bytes) {exchange : AS4SendingExchange}
    (agrees : EvidenceAgrees exchange) :
    EvidenceAgrees (step (.receiveSignal signalData) exchange) ↔ InOrder (.receiveSignal signalData) exchange := by
  rcases receiveSignal_cases signalData exchange with ⟨⟨raised, failed⟩, after⟩ |
    ⟨receipt, state, unproven, judged, after⟩
  · rw [after]
    refine ⟨fun _ => .inr fun receipt read named => ?_, fun _ => agrees⟩
    -- A parsed signal that names this message always gets a verdict.
    obtain ⟨state, unproven, given⟩ := verdict_of_parsed read exchange
    simp [judgeSignal_ok.mpr ⟨read, named, given⟩] at failed
  · rw [after]
    obtain ⟨read, named, given⟩ := judgeSignal_ok.mp judged
    have reached := verdict_state given
    constructor
    · intro agrees'
      refine .inl (agrees'.message ?_)
      rcases reached with rfl | rfl | rfl <;> simp
    · rintro (stored | foreign)
      · refine ⟨⟨fun _ => reached, fun _ => rfl⟩, ?_, fun _ => stored⟩
        rintro receipt' ⟨⟩
        exact ⟨.parsed read, named, unproven, given⟩
      · exact absurd named (foreign receipt read)

omit [Libraries] in
theorem reloadOptional_isSome {α : Type} {reload : α → Option α} {before after : Option α}
    (kept : reloadOptional reload before = some after) : after.isSome = before.isSome := by
  cases before with
  | none => simpa [reloadOptional] using kept.symm
  | some value =>
      obtain ⟨reloaded, -, rfl⟩ := Option.map_eq_some_iff.mp kept
      rfl

theorem restore_agrees (localParty : AS4InternalParty) {exchange : AS4SendingExchange}
    (agrees : EvidenceAgrees exchange) : EvidenceAgrees (step (.restore localParty) exchange) := by
  rcases restore_cases localParty exchange with after | ⟨message, receipt, messageKept, receiptKept, after⟩
  · rw [after]
    exact agrees
  · rw [after]
    have sameMessage := reloadOptional_isSome messageKept
    have sameReceipt := reloadOptional_isSome receiptKept
    refine ⟨?_, ?_, ?_⟩
    · simpa [defaultMessageIds, sameReceipt] using agrees.stored
    · rintro reloaded ⟨⟩
      cases stored : exchange.receipt with
      | none => simp [stored, reloadOptional] at receiptKept
      | some original =>
          rw [stored] at receiptKept
          obtain ⟨_, kept, same⟩ := Option.map_eq_some_iff.mp receiptKept
          obtain rfl := Option.some.inj same
          obtain ⟨verified, named, unproven, given⟩ := agrees.judged original stored
          have verified' := VerifiedUnder.reloaded verified kept
          have named' := (receipt_reload kept).1.trans named
          refine ⟨verified', ?_, unproven, (verdict_reload kept rfl rfl).trans given⟩
          have nonempty : exchange.messageId ≠ "" := by
            intro empty
            exact verified_id verified' (empty ▸ named')
          simpa [defaultMessageIds, nonempty] using named'
    · simpa [defaultMessageIds, sameMessage] using agrees.message

theorem step_agrees_iff (operation : Operation) {exchange : AS4SendingExchange} (agrees : EvidenceAgrees exchange) :
    EvidenceAgrees (step operation exchange) ↔ InOrder operation exchange := by
  cases operation with
  | build builder draws => exact build_agrees_iff builder draws agrees
  | markSent => exact markSent_agrees_iff exchange
  | receiveSignal signalData => exact receiveSignal_agrees_iff signalData agrees
  | restore localParty => exact ⟨fun _ => trivial, fun _ => restore_agrees localParty agrees⟩

/-- State and evidence agree throughout just those runs that keep to the order. -/
theorem evidence_agrees_iff_in_order (localParty : AS4InternalParty) (remoteParty : AS4ExternalParty)
    (identifiers : AS4References) (required : Option (List ComparableReferenceFields)) (messageId messagingId : String)
    (operations : List Operation) :
    (∀ sofar, sofar <+: operations → EvidenceAgrees
      (run step (AS4SendingExchange.new localParty remoteParty identifiers required messageId messagingId) sofar)) ↔
      Guarded step InOrder
        (AS4SendingExchange.new localParty remoteParty identifiers required messageId messagingId) operations := by
  apply guarded_iff fun operation exchange agrees => step_agrees_iff operation agrees
  exact ⟨by simp [AS4SendingExchange.new, defaultMessageIds], by simp [AS4SendingExchange.new, defaultMessageIds],
    by simp [AS4SendingExchange.new, defaultMessageIds]⟩

omit [Libraries] in
/-- A new exchange that is marked as sent says so of a message nobody built. -/
theorem sent_without_message :
    letI := recorded []
    ¬ EvidenceAgrees (run step
      (AS4SendingExchange.new (sendingParty []) (remoteReceiver []) sentReferences none "" "") [.markSent]) := by
  letI := recorded []
  intro agrees
  have built := agrees.message (by simp [run, step, markSent])
  simp [run, step, markSent, AS4SendingExchange.new, defaultMessageIds] at built

end Evidence

end ExchangeInvariants
