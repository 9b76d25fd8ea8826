import AS4.CertifiedAccessPoint
import AS4.ExchangeInvariants
import AS4.RecordReloads
import AS4.WrittenEnvelope

/-!
Runs of a receiving exchange. Messages of every kind may follow each other, and the
exchange may be stored and restored between them; whether it still describes one
message is decided by the sender it remembers.
-/

namespace ReceivingRuns
open ElementTree ElementCodec ElementCodec.Codec FallibleSteps PythonData AS4Libraries AS4Errors SignatureModel
  MessagingModel EnvelopeModel Verification MessageParsing ReceiptVerification SignalBuilding Exchange StateMachine
  CertifiedAccessPoint ExchangeInvariants RecordReloads RecordedExchange Serialisation WrittenEnvelope

variable [Libraries]

section Events

inductive ReceivingEvent where
  | receive (requestHeaders : Dict String String) (requestBody : Bytes)
      (acceptParticipant : Option (String → Except PyError Unit)) (securityPolicy : SecurityPolicy) (now : Datetime)
  | receiveMessage (message : AS4Message) (now : Datetime)
  | restore (localParty : AS4InternalParty)

/-- The message a call hands to `receive_message`, with the time of the answer. -/
def arrives (exchange : AS4ReceivingExchange) : ReceivingEvent → Option (AS4Message × Datetime)
  | .receive requestHeaders requestBody acceptParticipant securityPolicy now =>
      (parseMessage (payloadFromRequest requestHeaders requestBody)
        { localParty := exchange.localParty, acceptParticipant := acceptParticipant,
          securityPolicy := securityPolicy }).toOption.map fun message => (message, now)
  | .receiveMessage message now => some (message, now)
  | .restore _ => none

/-- The exchange after a call, which leaves it as it was when it raises. -/
def receivingStep (event : ReceivingEvent) (exchange : AS4ReceivingExchange) : AS4ReceivingExchange :=
  match event with
  | .receive requestHeaders requestBody acceptParticipant securityPolicy now =>
      afterReceive exchange requestHeaders requestBody acceptParticipant securityPolicy now
  | .receiveMessage message now => (receiveMessage exchange message now).toOption.getD exchange
  | .restore localParty => (restoreReceiving exchange localParty).toOption.getD exchange

theorem receivingStep_arrives {event : ReceivingEvent} {exchange : AS4ReceivingExchange} {message : AS4Message}
    {now : Datetime} (arrived : arrives exchange event = some (message, now)) :
    receivingStep event exchange = (receiveMessage exchange message now).toOption.getD exchange := by
  cases event with
  | receive requestHeaders requestBody acceptParticipant securityPolicy time =>
      simp only [arrives] at arrived
      obtain ⟨other, parsed, same⟩ := Option.map_eq_some_iff.mp arrived
      obtain ⟨rfl, rfl⟩ := Prod.mk.inj same
      simp only [receivingStep, afterReceive, receive]
      cases read : parseMessage (payloadFromRequest requestHeaders requestBody)
          { localParty := exchange.localParty, acceptParticipant := acceptParticipant, securityPolicy := securityPolicy } with
      | error raised => simp [read, Except.toOption] at parsed
      | ok read' =>
          obtain rfl : read' = other := by simpa [read, Except.toOption] using parsed
          simp only [bind, Except.bind]
          cases receiveMessage exchange read' time <;> rfl
  | receiveMessage other time =>
      obtain ⟨rfl, rfl⟩ := Prod.mk.inj (Option.some.inj arrived)
      rfl
  | restore localParty => simp [arrives] at arrived

/-- Nothing happens when nothing arrives, unless the exchange is restored. -/
theorem receivingStep_silent {event : ReceivingEvent} {exchange : AS4ReceivingExchange}
    (silent : arrives exchange event = none) : receivingStep event exchange = exchange ∨
      ∃ localParty, event = .restore localParty := by
  cases event with
  | receive requestHeaders requestBody acceptParticipant securityPolicy time =>
      left
      simp only [arrives, Option.map_eq_none_iff] at silent
      simp only [receivingStep, afterReceive, receive]
      cases read : parseMessage (payloadFromRequest requestHeaders requestBody)
          { localParty := exchange.localParty, acceptParticipant := acceptParticipant, securityPolicy := securityPolicy } with
      | error raised => simp [bind, Except.bind]
      | ok message => simp [read, Except.toOption] at silent
  | receiveMessage message now => simp [arrives] at silent
  | restore localParty => exact .inr ⟨localParty, rfl⟩

theorem restoreReceiving_ok {localParty : AS4InternalParty} {exchange restored : AS4ReceivingExchange} :
    restoreReceiving exchange localParty = .ok restored ↔
      exchange.localParty.identity.partyId = localParty.identity.partyId ∧
        ∃ message receipt, reloadOptional reloadMessage exchange.message = some message ∧
          reloadOptional reloadReceipt exchange.receipt = some receipt ∧
          restored = { exchange with localParty := localParty, message := message, receipt := receipt } := by
  unfold restoreReceiving
  by_cases other : exchange.localParty.identity.partyId ≠ localParty.identity.partyId
  · simp [other]
  · rw [if_neg other]
    push Not at other
    simp only [other, true_and]
    cases reloadOptional reloadMessage exchange.message with
    | none => simp
    | some message =>
        cases reloadOptional reloadReceipt exchange.receipt with
        | none => simp
        | some receipt => simp [eq_comm]

end Events

section Reloading

theorem headers_reload {before after : Envelope} (kept : Envelope.codec.reload before = some after) :
    Security.codec.reload before.header.security = some after.header.security ∧
      Messaging.codec.reload before.header.messaging = some after.header.messaging := by
  simp only [Envelope.codec, record_reload, pair_reload] at kept
  obtain ⟨⟨element, header, body⟩, ⟨-, headerKept, -⟩, rfl⟩ := kept
  have headerKept : Header.codec.reload before.header = some header := headerKept
  simp only [Header.codec, record_reload, pair_reload] at headerKept
  obtain ⟨⟨security, messaging⟩, ⟨securityKept, messagingKept⟩, rfl⟩ := headerKept
  exact ⟨securityKept, messagingKept⟩

/-- The references of a signature are compared alike after it was stored. -/
theorem signature_reload {before after : Security} (kept : Security.codec.reload before = some after) :
    Option.Rel (fun old new => List.Forall₂ (fun reference reference' => DsigReference.codec.reload reference = some reference')
      old.signedInfo.references new.signedInfo.references) before.signature after.signature := by
  simp only [Security.codec, record_reload, pair_reload, optional_reload] at kept
  obtain ⟨⟨tokens, key, data, signature, mustUnderstand⟩, ⟨-, -, -, signatureKept, -⟩, rfl⟩ := kept
  have signatureKept : Option.Rel (fun old new => Signature.codec.reload old = some new) before.signature signature :=
    signatureKept
  generalize before.signature = olds at signatureKept ⊢
  cases signatureKept with
  | none => exact .none
  | @some old new kept =>
      simp only [Signature.codec, record_reload, pair_reload] at kept
      obtain ⟨⟨info, value, keyInfo, objects, id⟩, ⟨infoKept, -⟩, rfl⟩ := kept
      have infoKept : SignedInfo.codec.reload old.signedInfo = some info := infoKept
      simp only [SignedInfo.codec, record_reload, pair_reload, many_reload] at infoKept
      obtain ⟨⟨element, canonicalization, method, references, id'⟩, ⟨-, -, -, referencesKept, -⟩, rfl⟩ := infoKept
      exact .some referencesKept

theorem userMessage_reload {before after : UserMessage} (kept : UserMessage.codec.reload before = some after) :
    after.partyInfo = before.partyInfo := by
  simp only [UserMessage.codec, record_reload, pair_reload] at kept
  obtain ⟨⟨info, parties, collaboration, properties, payloads, mpc⟩, ⟨-, partiesKept, -⟩, rfl⟩ := kept
  exact (Option.some.inj partiesKept).symm

theorem requireUserMessage_reload {before after : Envelope} (kept : Envelope.codec.reload before = some after) :
    (requireUserMessage after).map (·.partyInfo) = (requireUserMessage before).map (·.partyInfo) := by
  have messagingKept := (headers_reload kept).2
  simp only [Messaging.codec, record_reload, withWildcard_reload, pair_reload, many_reload] at messagingKept
  obtain ⟨⟨⟨element, signals, users, id, mustUnderstand⟩, content⟩, ⟨⟨-, -, usersKept, -⟩, -⟩, same⟩ := messagingKept
  simp only [requireUserMessage, Messaging.userMessage, ← same]
  generalize before.header.messaging.userMessages = olds at usersKept ⊢
  cases usersKept with
  | nil => rfl
  | cons first rest =>
      cases rest with
      | nil => simp [Messaging.onlyOne, bind, Except.bind, pure, Except.pure, Except.map, userMessage_reload first]
      | cons second others => simp [Messaging.onlyOne, others.length_eq, bind, Except.bind, Except.map]

/-- What storing a message keeps of it. -/
theorem message_reload {before after : AS4Message} (kept : reloadMessage before = some after) :
    after.parseError = before.parseError ∧ after.messageId = before.messageId ∧
      after.messagingId = before.messagingId ∧ after.signedReferences = before.signedReferences ∧
        after.getRemoteParty = before.getRemoteParty := by
  unfold reloadMessage at kept
  split at kept
  · obtain rfl := Option.some.inj kept
    exact ⟨rfl, rfl, rfl, rfl, rfl⟩
  · rename_i envelope stored
    obtain ⟨envelope', reloaded, rfl⟩ := Option.map_eq_some_iff.mp kept
    refine ⟨rfl, rfl, rfl, ?_, ?_⟩
    · simp only [AS4Message.signedReferences, AS4Message.signatureReferences, stored, Option.bind_some]
      have related := signature_reload (headers_reload reloaded).1
      generalize envelope.header.security.signature = old at related ⊢
      generalize envelope'.header.security.signature = new at related ⊢
      cases related with
      | none => rfl
      | some each => exact forall₂_map_eq each fun _ _ => reference_reload
    · have same := requireUserMessage_reload reloaded
      simp only [AS4Message.getRemoteParty, stored]
      cases before.signerCertificate with
      | none => rfl
      | some certificate =>
          simp only
          cases read : requireUserMessage envelope <;> cases read' : requireUserMessage envelope' <;>
            simp_all [Except.map, bind, Except.bind, pure, Except.pure]

omit [Libraries] in
theorem error_reload (error : MessagingModel.Error) : Error.codec.reload error = some error := by
  obtain ⟨description, detail, category, ref, code, origin, severity, short⟩ := error
  cases description <;> cases detail <;> rfl

/-- Storing a receipt keeps its errors and whether it has a receipt. -/
theorem signalMessage_reload {before after : AS4Receipt} (kept : reloadReceipt before = some after)
    (holds : Bool → List MessagingModel.Error → Prop) :
    (∃ signal, after.signalMessage = .ok (some signal) ∧ holds signal.receipt.isSome signal.errors) ↔
      ∃ signal, before.signalMessage = .ok (some signal) ∧ holds signal.receipt.isSome signal.errors := by
  unfold reloadReceipt at kept
  split at kept
  · obtain rfl := Option.some.inj kept
    rfl
  · rename_i envelope stored
    obtain ⟨envelope', reloaded, rfl⟩ := Option.map_eq_some_iff.mp kept
    have signals := envelope_reload reloaded
    simp only [AS4Receipt.signalMessage, stored, Messaging.signalMessage]
    generalize envelope.header.messaging.signalMessages = olds at signals ⊢
    generalize envelope'.header.messaging.signalMessages = news at signals ⊢
    cases signals with
    | nil => simp [Messaging.onlyOne]
    | cons first rest =>
        cases rest with
        | cons second others => simp [Messaging.onlyOne]
        | nil =>
            simp only [SignalMessage.codec, record_reload, withWildcard_reload, pair_reload, optional_reload,
              many_reload] at first
            obtain ⟨⟨⟨info, request, receipt, errors⟩, content⟩, ⟨⟨-, -, receiptKept, errorsKept⟩, -⟩, rfl⟩ := first
            simp only [error_reload, Option.some.injEq, List.forall₂_eq_eq_eq] at errorsKept
            simp only [Messaging.onlyOne, Except.ok.injEq, Option.some.injEq, exists_eq_left']
            rw [← errorsKept, ← rel_isSome receiptKept]

end Reloading

section OneMessage

/-- The signal stored beside a message is of this outcome. -/
def Signals (receipt : AS4Receipt) (holds : Bool → List MessagingModel.Error → Prop) : Prop :=
  ∃ signal, receipt.signalMessage = .ok (some signal) ∧ holds signal.receipt.isSome signal.errors

/-- State, evidence and sender of the exchange are those of its one message. -/
structure DescribesOneMessage (exchange : AS4ReceivingExchange) : Prop where
  created : exchange.state = .created ↔ exchange.message = none ∧ exchange.receipt = none
  received : exchange.state = .received ↔ ∃ message receipt, exchange.message = some message ∧
    exchange.receipt = some receipt ∧ message.parseError = none ∧
      Signals receipt fun acknowledges errors => acknowledges = true ∧ errors = []
  rejected : exchange.state = .rejected ↔ ∃ message receipt error, exchange.message = some message ∧
    exchange.receipt = some receipt ∧ message.parseError = some error ∧
      Signals receipt fun _ errors => errors = [errorOf error message.messageId]
  identified : ∀ message ∈ exchange.message,
    exchange.messageId = message.messageId ∧ exchange.signedReferences = message.signedReferences
  sender : ∀ party ∈ exchange.remoteParty, ∃ message, exchange.message = some message ∧
    message.getRemoteParty = .ok party

/-- A call that records a message knows its sender, or none was known before. -/
def KnowsItsSender (event : ReceivingEvent) (exchange : AS4ReceivingExchange) : Prop :=
  ∀ message now received, arrives exchange event = some (message, now) →
    receiveMessage exchange message now = .ok received →
      exchange.remoteParty = none ∨ ∃ party, message.getRemoteParty = .ok party

/-- The signal made for a message. -/
theorem forMessage_signals {message : AS4Message} {localParty : AS4InternalParty} {references : AS4References}
    {now : Datetime} {receipt : AS4Receipt} (made : forMessage message localParty references now = .ok receipt) :
    receipt.signalMessage = .ok (some (signalFor message references now)) := by
  simp only [forMessage, signalSoapEnvelope, bind_ok, pure_ok] at made
  obtain ⟨envelope, ⟨messagingReference, -, bodyReference, -, signature, -, rfl⟩, rfl⟩ := made
  rfl

theorem receiveMessage_describes_iff {exchange received : AS4ReceivingExchange} {message : AS4Message} {now : Datetime}
    (taken : receiveMessage exchange message now = .ok received) :
    DescribesOneMessage received ↔ exchange.remoteParty = none ∨ ∃ party, message.getRemoteParty = .ok party := by
  obtain ⟨receipt, made, stored, known⟩ := receiveMessage_ok taken
  have signal := forMessage_signals made
  constructor
  · intro describes
    rcases known with ⟨party, ok, -⟩ | ⟨⟨raised, failed, -⟩, kept⟩
    · exact .inr ⟨party, ok⟩
    · left
      by_contra some'
      obtain ⟨party, known⟩ := Option.ne_none_iff_exists'.mp some'
      obtain ⟨message', same, ok⟩ := describes.sender party (kept.trans known)
      rw [stored] at same
      obtain rfl : message = message' := Option.some.inj same
      simp [failed] at ok
  · intro allowed
    have sender : ∀ party ∈ received.remoteParty, message.getRemoteParty = .ok party := by
      intro party recorded
      rcases known with ⟨party', ok, same⟩ | ⟨⟨raised, failed, -⟩, kept⟩
      · obtain rfl : party' = party := Option.some.inj (same.symm.trans recorded)
        exact ok
      · rcases allowed with none | ⟨party', ok⟩
        · rw [kept, none] at recorded
          simp at recorded
        · simp [failed] at ok
    generalize received.remoteParty = remoteParty at stored sender
    subst stored
    cases outcome : message.parseError with
    | none =>
        refine ⟨by simp, ?_, by simp [outcome], by simp, fun party recorded => ⟨message, rfl, sender party recorded⟩⟩
        simp [outcome, Signals, signal, signalFor, getSuccessSignalMessage]
    | some error =>
        refine ⟨by simp, by simp [outcome], ?_, by simp, fun party recorded => ⟨message, rfl, sender party recorded⟩⟩
        simp [outcome, Signals, signal, signalFor, getErrorSignalMessage]

omit [Libraries] in
theorem reloadOptional_rel {α : Type} {reload : α → Option α} {before after : Option α}
    (kept : reloadOptional reload before = some after) : Option.Rel (fun old new => reload old = some new) before after := by
  cases before with
  | none =>
      obtain rfl : none = after := Option.some.inj kept
      exact .none
  | some value =>
      obtain ⟨value', loaded, rfl⟩ := Option.map_eq_some_iff.mp kept
      exact .some loaded

theorem restore_describes {exchange restored : AS4ReceivingExchange} {localParty : AS4InternalParty}
    (describes : DescribesOneMessage exchange) (succeeded : restoreReceiving exchange localParty = .ok restored) :
    DescribesOneMessage restored := by
  obtain ⟨-, message, receipt, messageKept, receiptKept, rfl⟩ := restoreReceiving_ok.mp succeeded
  obtain ⟨created, received, rejected, identified, sender⟩ := describes
  have messages := reloadOptional_rel messageKept
  have receipts := reloadOptional_rel receiptKept
  generalize exchange.message = oldMessage at *
  generalize exchange.receipt = oldReceipt at *
  cases messages with
  | none =>
      cases receipts with
      | none => exact ⟨created, received, rejected, identified, sender⟩
      | some kept' => exact ⟨by simpa using created, by simpa using received, by simpa using rejected, by simp, by simpa using sender⟩
  | @some old new kept =>
      obtain ⟨parseError, messageId, -, references, party⟩ := message_reload kept
      cases receipts with
      | none =>
          refine ⟨by simpa using created, by simpa using received, by simpa using rejected, ?_, ?_⟩
          · simpa [messageId, references] using identified
          · simpa [party] using sender
      | @some old' new' kept' =>
          have signals : ∀ holds, Signals new' holds ↔ Signals old' holds := signalMessage_reload kept'
          refine ⟨by simpa using created, ?_, ?_, ?_, ?_⟩
          · simpa [parseError, signals] using received
          · simpa [parseError, messageId, signals] using rejected
          · simpa [messageId, references] using identified
          · simpa [party] using sender

theorem receivingStep_describes_iff (event : ReceivingEvent) {exchange : AS4ReceivingExchange}
    (describes : DescribesOneMessage exchange) :
    DescribesOneMessage (receivingStep event exchange) ↔ KnowsItsSender event exchange := by
  cases arrived : arrives exchange event with
  | none =>
      have silent : KnowsItsSender event exchange := by
        intro message now received arrives
        simp [arrived] at arrives
      simp only [silent, iff_true]
      rcases receivingStep_silent arrived with unchanged | ⟨localParty, rfl⟩
      · rwa [unchanged]
      · simp only [receivingStep]
        cases restored : restoreReceiving exchange localParty with
        | error raised => exact describes
        | ok result => exact restore_describes describes restored
  | some call =>
      obtain ⟨message, now⟩ := call
      rw [receivingStep_arrives arrived]
      cases taken : receiveMessage exchange message now with
      | error raised =>
          have silent : KnowsItsSender event exchange := by
            intro message' now' received arrives taken'
            obtain ⟨rfl, rfl⟩ := Prod.mk.inj (Option.some.inj (arrived.symm.trans arrives))
            simp [taken] at taken'
          exact ⟨fun _ => silent, fun _ => describes⟩
      | ok received =>
          refine (receiveMessage_describes_iff taken).trans ⟨?_, ?_⟩
          · intro known message' now' received' arrives _
            obtain ⟨rfl, rfl⟩ := Prod.mk.inj (Option.some.inj (arrived.symm.trans arrives))
            exact known
          · intro known
            exact known message now received arrived taken

/-- An exchange describes one message throughout just those runs in which every call
that records a message after a sender was known knows the sender of its own. -/
theorem describes_one_message_iff (localParty : AS4InternalParty) (identifiers : AS4References)
    (events : List ReceivingEvent) :
    (∀ sofar, sofar <+: events →
      DescribesOneMessage (run receivingStep (newReceivingExchange localParty identifiers) sofar)) ↔
      Guarded receivingStep KnowsItsSender (newReceivingExchange localParty identifiers) events := by
  apply guarded_iff fun event exchange describes => receivingStep_describes_iff event describes
  refine ⟨?_, ?_, ?_, ?_, ?_⟩ <;> simp [newReceivingExchange]

end OneMessage

section UnknownSender

omit [Libraries] in
/-- The recorded toolkit, with a canonical form for every element that may be signed.
In place of keys that were not recorded, and their certificates, it has a key that marks
what it signs. -/
@[reducible] def signing (documents : List Node) : Libraries :=
  { recorded documents with
    isCertificate := fun _ => true
    canonicalForm := fun element _ => some (canonicalText element.node)
    digest := fun _ content => 0 :: content
    rsaVerify := fun _ _ data signature => signature == 0 :: data }

omit [Libraries] in
/-- The receiver, with some key to answer with. -/
def answeringParty (documents : List Node) : @AS4InternalParty (signing documents) :=
  letI := signing documents
  { identity := peppolIdentity "9932:1111111111"
    credentials :=
      { certificate := ⟨[48, 1], rfl⟩
        privateKey := ⟨fun data => .ok (0 :: data), .ok⟩ } }

omit [Libraries] in
/-- A message whose signer is known. -/
def signedMessage (documents : List Node) : @AS4Message (signing documents) :=
  letI := signing documents
  { messageId := "message"
    soapEnvelope := some (plainEnvelope answerTime { binarySecurityTokens := [⟨base64Binary, x509V3, "T", "token"⟩] })
    signerCertificate := some ⟨[48, 2], rfl⟩ }

omit [Libraries] in
/-- After a request that is no AS4 message, the exchange still names the sender of the
message before. -/
theorem earlier_sender_kept :
    letI := signing []
    ¬ DescribesOneMessage (run receivingStep (newReceivingExchange (answeringParty []) answerReferences)
      [.receiveMessage (signedMessage []) answerTime, .receive [] [] none {} answerTime]) := by
  let _ := signing []
  let start := newReceivingExchange (answeringParty []) answerReferences
  let unknown : AS4Message := { parseError := some soapPartNotFound.new }
  have makes := @forMessage_makes (signing []) (answeringParty []) (fun element => ⟨_, rfl⟩) (fun data => ⟨0 :: data, rfl⟩)
  obtain ⟨party, sender⟩ : ∃ party, (signedMessage []).getRemoteParty = .ok party := ⟨_, rfl⟩
  obtain ⟨before, taken⟩ : ∃ before, receiveMessage start (signedMessage []) answerTime = .ok before := by
    obtain ⟨receipt, made⟩ := makes (signedMessage []) answerReferences answerTime
    simp only [receiveMessage, remotePartyOf, sender, bind_ok, pure_ok]
    exact ⟨_, _, rfl, receipt, made, rfl⟩
  have local' : before.localParty = answeringParty [] ∧ before.identifiers = answerReferences := by
    obtain ⟨receipt, -, same, -⟩ := receiveMessage_ok taken
    rw [same]
    exact ⟨rfl, rfl⟩
  obtain ⟨after, taken'⟩ : ∃ after, receiveMessage before unknown answerTime = .ok after := by
    obtain ⟨receipt, made⟩ := makes unknown answerReferences answerTime
    have silent : remotePartyOf before unknown = .ok before.remoteParty := rfl
    simp only [receiveMessage, silent, local'.1, local'.2, bind_ok, pure_ok]
    exact ⟨_, _, rfl, receipt, made, rfl⟩
  have reached : run receivingStep start
      [.receiveMessage (signedMessage []) answerTime, .receive [] [] none {} answerTime] = after := by
    have first : receivingStep (.receiveMessage (signedMessage []) answerTime) start = before := by
      rw [receivingStep_arrives rfl, taken]
      rfl
    have second : receivingStep (.receive [] [] none {} answerTime) before = after := by
      rw [receivingStep_arrives (show arrives before _ = some (unknown, answerTime) from rfl), taken']
      rfl
    simp only [run, first, second]
  intro describes
  rcases (receiveMessage_describes_iff taken').mp (reached ▸ describes) with none | ⟨party', verified⟩
  · rcases receiveMessage_ok taken with ⟨receipt, -, -, ⟨party', -, known⟩ | ⟨⟨raised, failed, -⟩, -⟩⟩
    · simp [none] at known
    · simp [sender] at failed
  · simp [AS4Message.getRemoteParty, unknown] at verified

end UnknownSender

end ReceivingRuns
