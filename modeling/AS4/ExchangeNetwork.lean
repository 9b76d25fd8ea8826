import AS4.CompletedExchanges
import AS4.SignalDeliveries
import AS4.SignalRefusals

/-!
A sender and any receivers over a network that loses, repeats and reorders what it carries.
Any request may reach a receiver, and any bytes the sender; but a signal that verifies is
one that a receiver made. Whatever the sender ends with is then what its remote party made
of its message.
-/

namespace ExchangeNetwork
open ElementTree ElementCodec ElementCodec.Codec FallibleSteps PythonData AS4Libraries AS4Errors SignatureModel
  MessagingModel EnvelopeModel Verification MessageParsing ReceiptVerification SignalBuilding MessageBuilding Exchange
  StateMachine ExchangeInvariants RecordLaws RecordReadings Serialisation AcceptedMessage SignedReadings BuiltSignals
  EmittedSignals NonRepudiation BuiltMessages BuiltUserMessages AcceptedBuilds CompletedExchanges

variable [Libraries]

section Signals
variable {message : AS4Message} {emitted receipt : AS4Receipt} {localParty : AS4InternalParty} {references : AS4References}
  {now : Datetime} {headers : Dict String String} {data : Bytes} {certificate : Certificate}

/-- A signal refers to its message, the white space around the id aside, and repeats what
was signed of it or the code of the error it was rejected with. -/
structure Repeats (message : AS4Message) (receipt : AS4Receipt) : Prop where
  refers : receipt.originalMessageId = (knownMessageId message.messageId).map strip
  accepts : message.parseError = none → CarriesReceipt receipt ∧ receipt.errors = .ok [] ∧
    receipt.nonRepudiatedReferences = .ok message.signedReferences
  rejects : ∀ exception, message.parseError = some exception → ∃ error, receipt.errors = .ok [error] ∧
    error.errorCode = exception.errorClass.errorCode ∧ error.severity = exception.errorClass.severity

/-- The envelope of a signal is read back from its bytes. -/
def ReadBack (receipt : AS4Receipt) : Prop :=
  ∀ envelope, receipt.soapEnvelope = some envelope →
    Libraries.parseXml (envelopeBytes envelope) = some (Envelope.codec.element (soap12 "Envelope") envelope)

/-- The signal of a message that was read, or could not be unpacked, can be written. -/
theorem read_admits {payload : Bytes} {context : AS4ParseContext} (references : AS4References) (now : Datetime)
    (read : parseMessage payload context = .ok message) : SignalMessage.codec.admits (signalFor message references now) := by
  cases rejected : message.parseError with
  | some exception =>
      simp only [signalFor, rejected]
      exact (errorSignal_plain exception message.messageId references now).1
  | none =>
      unfold parseMessage at read
      split at read
      · obtain ⟨reading, accepts⟩ := parse_accepts read rejected
        simp only [signalFor, rejected]
        exact (receiptSignal_repeats message.messageId references now
          fun reference member => ((accepted_repeats accepts).1 reference member).1).1
      · obtain rfl := Except.ok.inj read
        simp at rejected
      · simp at read

theorem signalFor_refersTo : (signalFor message references now).messageInfo.refToMessageId =
    match message.parseError with
    | some _ => knownMessageId message.messageId
    | none => some message.messageId := by
  unfold signalFor
  cases message.parseError <;> rfl

/-- The certificate a signal is verified under is the one of the party that made it. -/
theorem embedded_local {security : Security} {signature : Signature}
    (tokens : security.binarySecurityTokens = [{ getLocalBinarySecurityToken localParty references with
      value := strip (getLocalBinarySecurityToken localParty references).value }])
    (embedded : embeddedCertificate security signature = .ok (some certificate)) :
    localParty.credentials.certificate = certificate := by
  simp only [embeddedCertificate, tokens] at embedded
  split at embedded
  · simp at embedded
  · rename_i token found
    obtain rfl := List.mem_singleton.mp (List.mem_of_find?_eq_some found)
    obtain ⟨loaded, read, same⟩ := map_ok.mp embedded
    obtain rfl := Option.some.inj same
    obtain ⟨-, decoded⟩ := SignalRefusals.x509Certificate_ok.mp read
    simp only [getLocalBinarySecurityToken, Base64.strip_b64encode, Base64.b64decode_b64encode, Except.ok.injEq] at decoded
    obtain ⟨der, loads⟩ := loaded
    obtain rfl : _ = der := decoded
    rfl

/-- Whoever verifies a signal does so under the certificate of the party that made it, and
reads in it what it repeats. -/
theorem answer_repeats (admitted : SignalMessage.codec.admits (signalFor message references now))
    (known : message.parseError = none → message.messageId ≠ "")
    (made : forMessage message localParty references now = .ok emitted) (kept : ReadBack emitted)
    (sent : getRequestData emitted = .ok (headers, data))
    (accepted : AS4Receipt.parse data certificate = .ok receipt) :
    localParty.credentials.certificate = certificate ∧ Repeats message receipt := by
  simp only [forMessage, bind_ok, pure_ok] at made
  obtain ⟨envelope, built, rfl⟩ := made
  obtain ⟨-, rfl⟩ := Prod.mk.inj (Except.ok.inj sent)
  obtain ⟨messagingForm, bodyForm, infoForm, value, -, -, -, -, rfl⟩ := signalSoapEnvelope_ok.mp built
  obtain ⟨document, envelope', signal, here, validated, listed, rfl, -, verified⟩ := parse_receipt_ok accepted
  have found := kept _ rfl
  obtain rfl := Option.some.inj (found.symm.trans here)
  -- What was written could be read, so what was read is what was written, read again.
  have read := (rereads_element Envelope.lawful (signalEnvelope_admits admitted) (n := .root _) rfl).2 _ validated
  have signals : (signalEnvelope localParty references (signalFor message references now)
      (signalInfo references messagingForm bodyForm) value).header.messaging.signalMessages =
        [signalFor message references now] := rfl
  obtain ⟨⟨_, -, -, headerRead⟩, -⟩ := Envelope.rereads read
  obtain ⟨⟨_, -, -, securityRead⟩, _, -, -, messagingRead⟩ := Header.rereads headerRead
  obtain ⟨signal', one, _, signalRead⟩ := MessageReadings.mem_single (signals ▸ (Messaging.rereads messagingRead).2.1)
  obtain ⟨⟨_, infoRead⟩, receiptRead, errorsRead⟩ := SignalMessage.rereads signalRead
  have same : signal = some signal' := by
    cases signal with
    | none => simp [one] at listed
    | some signal => simpa [one, eq_comm] using listed
  subst same
  have carried : ∀ named, AS4Receipt.signalMessage { soapEnvelope := some envelope', originalMessageId := named } =
      .ok (some signal') := by
    intro named
    simp [AS4Receipt.signalMessage, Messaging.signalMessage, one, Messaging.onlyOne]
  have signed : localParty.credentials.certificate = certificate := by
    have tokens := (Security.rereads securityRead).1
    unfold verifyReceiptSignature at verified
    split at verified
    · exact absurd verified refuse_ne
    · simp only [bind_ok] at verified
      obtain ⟨embedded, found, _, expected, -⟩ := verified
      obtain rfl := SignalRefusals.requireExpectedSigner_ok.mp expected
      exact embedded_local tokens found
  refine ⟨signed, ?_, ?_, ?_⟩
  · have refers := (MessageInfo.rereads infoRead).2.2
    rw [signalFor_refersTo] at refers
    cases rejected : message.parseError with
    | some exception => simpa [rejected] using refers
    | none => simpa [rejected, knownMessageId, known rejected] using refers
  · intro sound
    refine ⟨(accepted_signal_carries sound signals read).1, (accepted_signal_carries sound signals read).2, ?_⟩
    simp only [signalFor, sound, getSuccessSignalMessage] at receiptRead
    obtain ⟨content, holds, _, contentRead⟩ : ∃ content, signal'.receipt = some content ∧ ∃ child,
        Receipt.codec.reread child ⟨some ⟨message.signatureReferences.map fun reference => ⟨[reference]⟩⟩, []⟩ content := by
      generalize signal'.receipt = found at receiptRead
      cases receiptRead with
      | some kept => exact ⟨_, rfl, kept⟩
    obtain ⟨information, informed, _, informationRead⟩ := Receipt.rereads rfl contentRead
    have repeated := repeated_same (NonRepudiationInformation.rereads informationRead)
    simp [AS4Receipt.nonRepudiatedReferences, AS4Receipt.receipt, carried, holds, informed, bind, Except.bind, pure,
      Except.pure, repeated, AS4Message.signedReferences]
  · intro exception rejected
    simp only [signalFor, rejected, getErrorSignalMessage] at errorsRead
    obtain ⟨error, none, ⟨child, errorRead⟩, nothing, only⟩ := List.forall₂_cons_left_iff.mp errorsRead
    obtain rfl := List.forall₂_nil_left_iff.mp nothing
    obtain ⟨-, -, -, code, severity, -⟩ := Error.rereads errorRead
    refine ⟨error, ?_, code, severity⟩
    simp [AS4Receipt.errors, carried, only, bind, Except.bind, pure, Except.pure]

end Signals

section Steps

/-- The sender, and every exchange that a receiver has taken a request into. -/
structure Network where
  sender : AS4SendingExchange
  answered : List AS4ReceivingExchange := []

inductive Event where
  | sending (operation : Operation)
  | request (receiving : AS4ReceivingExchange) (requestHeaders : Dict String String) (requestBody : Bytes)
      (acceptParticipant : Option (String → Except PyError Unit)) (securityPolicy : SecurityPolicy) (now : Datetime)

def step : Event → Network → Network
  | .sending operation, network => { network with sender := ExchangeInvariants.step operation network.sender }
  | .request receiving requestHeaders requestBody acceptParticipant securityPolicy now, network =>
      match receive receiving requestHeaders requestBody acceptParticipant securityPolicy now with
      | .ok received => { network with answered := network.answered ++ [received] }
      -- A request that raised left no exchange behind that could answer it.
      | .error _ => network

theorem step_built {network : Network} {builder : MessageBuilder} {draws : Draws} {request : Dict String String × Bytes}
    {sent : AS4SendingExchange} (built : build builder draws network.sender = .ok request sent) :
    step (.sending (.build builder draws)) network = ⟨sent, network.answered⟩ := by
  simp only [step, ExchangeInvariants.step, built, leftBehind]

theorem step_taken {network : Network} {receiving received : AS4ReceivingExchange} {requestHeaders : Dict String String}
    {requestBody : Bytes} {accept : Option (String → Except PyError Unit)} {policy : SecurityPolicy} {now : Datetime}
    (taken : receive receiving requestHeaders requestBody accept policy now = .ok received) :
    step (.request receiving requestHeaders requestBody accept policy now) network =
      ⟨network.sender, network.answered ++ [received]⟩ := by
  simp only [step, taken]

/-- One of the receivers' exchanges answers with these bytes. -/
def Emits (answered : List AS4ReceivingExchange) (data : Bytes) : Prop :=
  ∃ session ∈ answered, ∃ headers, buildSignal session = .ok (headers, data)

/-- What may happen: no signal is forged, and what a receiver writes can be read back. -/
def Allowed : Event → Network → Prop
  | .sending (.receiveSignal signalData), network =>
      ∀ receipt, AS4Receipt.parse signalData network.sender.remoteParty.credentials.certificate = .ok receipt →
        Emits network.answered signalData
  | .sending _, _ => True
  | .request receiving requestHeaders requestBody acceptParticipant securityPolicy now, _ =>
      ∀ received receipt, receive receiving requestHeaders requestBody acceptParticipant securityPolicy now = .ok received →
        received.receipt = some receipt → ReadBack receipt

end Steps

section Sessions
variable {session : AS4ReceivingExchange} {sender : AS4SendingExchange}

/-- Whoever reads the signal of an exchange learns what became of the message. -/
structure Tells (session : AS4ReceivingExchange) (message : AS4Message) : Prop where
  holds : session.message = some message
  named : session.messageId = message.messageId
  signed : session.signedReferences = message.signedReferences
  state : session.state = if message.parseError.isSome then .rejected else .received
  repeats : ∀ headers data certificate receipt, buildSignal session = .ok (headers, data) →
    AS4Receipt.parse data certificate = .ok receipt →
      session.localParty.credentials.certificate = certificate ∧ Repeats message receipt

theorem receive_tells {receiving received : AS4ReceivingExchange} {requestHeaders : Dict String String}
    {requestBody : Bytes} {accept : Option (String → Except PyError Unit)} {policy : SecurityPolicy} {now : Datetime}
    (taken : receive receiving requestHeaders requestBody accept policy now = .ok received)
    (kept : ∀ receipt, received.receipt = some receipt → ReadBack receipt) : ∃ message, Tells received message := by
  simp only [receive, bind_ok] at taken
  obtain ⟨message, read, taken⟩ := taken
  obtain ⟨receipt, made, same, -⟩ := CertifiedAccessPoint.receiveMessage_ok taken
  have known : message.parseError = none → message.messageId ≠ "" := by
    intro sound
    unfold parseMessage at read
    split at read
    · obtain ⟨_, accepts⟩ := parse_accepts read sound
      exact accepted_known accepts
    · obtain rfl := Except.ok.inj read
      simp at sound
    · simp at read
  have stored : received.receipt = some receipt := by rw [same]
  refine ⟨message, by rw [same], by rw [same], by rw [same], by rw [same], ?_⟩
  intro headers data certificate receipt' built accepted
  rw [buildSignal, stored] at built
  have party : received.localParty = receiving.localParty := by rw [same]
  exact party ▸ answer_repeats (read_admits _ _ read) known made (kept receipt stored) built accepted

/-- The exchange took in the message of the sender, and is the one of its remote party. -/
def Concerns (session : AS4ReceivingExchange) (sender : AS4SendingExchange) : Prop :=
  session.localParty.credentials.certificate = sender.remoteParty.credentials.certificate ∧
    sender.messageId ≠ "" ∧ strip session.messageId = sender.messageId

/-- What was signed of the message is what the sender sent and asked to have acknowledged. -/
structure Confirms (session : AS4ReceivingExchange) (sender : AS4SendingExchange) : Prop where
  asked : sender.requiredReferences ≠ some []
  sent : ∀ reference ∈ session.signedReferences, reference ∈ sender.signedReferences
  covered : ∀ reference ∈ sender.requiredReferences.getD sender.signedReferences, reference ∈ session.signedReferences

theorem confirms_same {after : AS4SendingExchange} (sent : after.signedReferences = sender.signedReferences)
    (required : after.requiredReferences = sender.requiredReferences) : Confirms session after ↔ Confirms session sender := by
  constructor <;> rintro ⟨asked, within, covered⟩
  · exact ⟨required ▸ asked, sent ▸ within, sent ▸ required ▸ covered⟩
  · exact ⟨required.symm ▸ asked, sent.symm ▸ within, sent.symm ▸ required.symm ▸ covered⟩

/-- The error the sender stored is the one the exchange rejected the message with. -/
def ToldWhy (session : AS4ReceivingExchange) (sender : AS4SendingExchange) : Prop :=
  ∃ message exception receipt error, session.message = some message ∧ message.parseError = some exception ∧
    sender.receipt = some receipt ∧ receipt.error = .ok (some error) ∧
      error.errorCode = exception.errorClass.errorCode ∧ error.severity = exception.errorClass.severity

/-- What a signal of the exchange makes of the sender it answers. -/
theorem told_outcome {message : AS4Message} {headers : Dict String String} {data : Bytes} {receipt : AS4Receipt}
    (tells : Tells session message) (built : buildSignal session = .ok (headers, data))
    (answer : SignalDeliveries.Answers sender data receipt) :
    Concerns session sender ∧
      (session.state = .rejected ∧ (∃ error, receipt.error = .ok (some error)) ∧
          ToldWhy session { sender with receipt := some receipt } ∨
        session.state = .received ∧ receipt.error = .ok none ∧
          (receipt.verifyNonRepudiation sender.signedReferences sender.requiredReferences = .ok () ↔
            Confirms session sender)) := by
  obtain ⟨accepted, answers⟩ := answer
  obtain ⟨party, refers, accepts, rejects⟩ := tells.repeats headers data _ receipt built accepted
  refine ⟨?_, ?_⟩
  · rw [answers] at refers
    by_cases unknown : message.messageId = ""
    · simp [knownMessageId, unknown] at refers
    · have same : sender.messageId = strip message.messageId := by simpa [knownMessageId, unknown] using refers
      have solid := verified_id (.parsed accepted)
      rw [answers] at solid
      exact ⟨party, fun empty => solid (congrArg some empty), by rw [tells.named, same]⟩
  -- A signal says one of two things of its message, and the sender's verdict follows it.
  · cases rejected : message.parseError with
    | some exception =>
        obtain ⟨error, listed, code, severity⟩ := rejects exception rejected
        have first : receipt.error = .ok (some error) := by
          simp [AS4Receipt.error, listed, bind, Except.bind, pure, Except.pure]
        exact .inl ⟨by simp [tells.state, rejected], ⟨error, first⟩, message, exception, receipt, error, tells.holds,
          rejected, rfl, first, code, severity⟩
    | none =>
        obtain ⟨carries, faultless, listed⟩ := accepts rejected
        have silent : receipt.error = .ok none := by simp [AS4Receipt.error, faultless, bind, Except.bind, pure, Except.pure]
        refine .inr ⟨by simp [tells.state, rejected], silent, ?_⟩
        rw [verifyNonRepudiation_iff]
        constructor
        · rintro ⟨-, asked, acknowledged, read, sent, covered⟩
          obtain rfl := Except.ok.inj (listed.symm.trans read)
          exact ⟨asked, tells.signed ▸ sent, tells.signed ▸ covered⟩
        · rintro ⟨asked, sent, covered⟩
          exact ⟨carries, asked, _, listed, tells.signed ▸ sent, tells.signed ▸ covered⟩

end Sessions

section Runs

/-- The sender ends with what its remote party made of its message: acknowledged where it was
received and confirmed, rejected where it was, and for the same reason, and failed where it
was received but not as it was sent. -/
structure Settled (network : Network) : Prop where
  tells : ∀ session ∈ network.answered, ∃ message, Tells session message
  acknowledged : network.sender.state = .acknowledged → ∃ session ∈ network.answered,
    session.state = .received ∧ Concerns session network.sender ∧ Confirms session network.sender
  rejected : network.sender.state = .rejected → ∃ session ∈ network.answered,
    session.state = .rejected ∧ Concerns session network.sender ∧ ToldWhy session network.sender
  failed : network.sender.state = .failed → ∃ session ∈ network.answered,
    session.state = .received ∧ Concerns session network.sender ∧ ¬ Confirms session network.sender

/-- A sender in none of the three states is settled. -/
theorem open_settled {answered : List AS4ReceivingExchange} {sender : AS4SendingExchange}
    (tells : ∀ session ∈ answered, ∃ message, Tells session message)
    (ongoing : sender.state ≠ .acknowledged ∧ sender.state ≠ .rejected ∧ sender.state ≠ .failed) :
    Settled ⟨sender, answered⟩ :=
  ⟨tells, fun state => absurd state ongoing.1, fun state => absurd state ongoing.2.1, fun state => absurd state ongoing.2.2⟩

/-- The sender is as it was in all that settles it. -/
structure Carried (before after : AS4SendingExchange) : Prop where
  state : after.state = before.state
  concerns : ∀ session, Concerns session before → Concerns session after
  confirms : ∀ session, Confirms session after ↔ Confirms session before
  toldWhy : ∀ session, ToldWhy session before → ToldWhy session after

theorem carried_settled {network : Network} {sender : AS4SendingExchange} (carried : Carried network.sender sender)
    (settled : Settled network) : Settled ⟨sender, network.answered⟩ := by
  refine ⟨settled.tells, ?_, ?_, ?_⟩
  · intro state
    obtain ⟨session, member, received, concerns, confirms⟩ := settled.acknowledged (carried.state.symm.trans state)
    exact ⟨session, member, received, carried.concerns session concerns, (carried.confirms session).mpr confirms⟩
  · intro state
    obtain ⟨session, member, rejected, concerns, why⟩ := settled.rejected (carried.state.symm.trans state)
    exact ⟨session, member, rejected, carried.concerns session concerns, carried.toldWhy session why⟩
  · intro state
    obtain ⟨session, member, received, concerns, unconfirmed⟩ := settled.failed (carried.state.symm.trans state)
    exact ⟨session, member, received, carried.concerns session concerns,
      fun confirms => unconfirmed ((carried.confirms session).mp confirms)⟩

omit [Libraries] in
/-- A stored error keeps its code. -/
theorem error_reload {before after : MessagingModel.Error} (kept : Error.codec.reload before = some after) :
    after.errorCode = before.errorCode ∧ after.severity = before.severity := by
  simp only [Error.codec, record_reload, pair_reload] at kept
  obtain ⟨⟨description, detail, category, ref, code, origin, severity, short⟩, ⟨-, -, -, -, code, -, severity, -⟩, rfl⟩ := kept
  exact ⟨(Option.some.inj code).symm, (Option.some.inj severity).symm⟩

theorem signal_errors_reload {before after : SignalMessage} (kept : SignalMessage.codec.reload before = some after) :
    List.Forall₂ (fun old new => Error.codec.reload old = some new) before.errors after.errors := by
  simp only [SignalMessage.codec, record_reload, withWildcard_reload, pair_reload, many_reload] at kept
  obtain ⟨⟨⟨info, request, receipt, errors⟩, content⟩, ⟨⟨-, -, -, errorsKept⟩, -⟩, rfl⟩ := kept
  exact errorsKept

/-- And so the error a stored receipt reports. -/
theorem reported_reload {before after : AS4Receipt} (kept : reloadReceipt before = some after) {error : MessagingModel.Error}
    (reported : before.error = .ok (some error)) :
    ∃ error', after.error = .ok (some error') ∧ error'.errorCode = error.errorCode ∧ error'.severity = error.severity := by
  unfold reloadReceipt at kept
  split at kept
  · obtain rfl := Option.some.inj kept
    exact ⟨error, reported, rfl, rfl⟩
  · rename_i envelope present
    obtain ⟨envelope', reloaded, rfl⟩ := Option.map_eq_some_iff.mp kept
    have signals := envelope_reload reloaded
    simp only [AS4Receipt.error, AS4Receipt.errors, AS4Receipt.signalMessage, present, Messaging.signalMessage] at reported ⊢
    generalize envelope.header.messaging.signalMessages = olds at signals reported
    generalize envelope'.header.messaging.signalMessages = news at signals
    cases signals with
    | nil => simp [Messaging.onlyOne, bind, Except.bind, pure, Except.pure] at reported
    | @cons old new olds news first rest =>
        cases rest with
        | nil =>
            have errors := signal_errors_reload first
            simp only [Messaging.onlyOne, bind, Except.bind, pure, Except.pure, Option.map_some, Option.getD_some,
              Except.ok.injEq] at reported ⊢
            generalize old.errors = oldErrors at errors reported
            generalize new.errors = newErrors at errors
            cases errors with
            | nil => simp at reported
            | @cons oldError newError _ _ same _ =>
                obtain rfl : oldError = error := by simpa using reported
                exact ⟨newError, by simp, error_reload same⟩
        | cons second others => simp [Messaging.onlyOne, bind, Except.bind] at reported

/-- Restoring a sender changes nothing of what it sent, waits for and was told. -/
theorem restored_carried (localParty : AS4InternalParty) (sender : AS4SendingExchange) :
    Carried sender (ExchangeInvariants.step (.restore localParty) sender) := by
  -- Restoring fills in only an id that is empty, and the one an answer refers to is not.
  rcases restore_cases localParty sender with same | ⟨message, receipt, -, receiptKept, same⟩
  · rw [same]
    exact ⟨rfl, fun _ => id, fun _ => Iff.rfl, fun _ => id⟩
  · rw [same]
    refine ⟨rfl, ?_, fun _ => confirms_same rfl rfl, ?_⟩
    · rintro session ⟨party, known, named⟩
      exact ⟨party, by simp [defaultMessageIds, known], by simpa [defaultMessageIds, known] using named⟩
    · rintro session ⟨message, exception, stored, error, holds, rejected, present, reported, code, severity⟩
      rw [present] at receiptKept
      obtain ⟨kept, reloaded, rfl⟩ := Option.map_eq_some_iff.mp receiptKept
      obtain ⟨error', reported', code', severity'⟩ := reported_reload reloaded reported
      exact ⟨message, exception, kept, error', holds, rejected, rfl, reported', code'.trans code, severity'.trans severity⟩

/-- Taking in a signal settles the sender. -/
theorem signal_settled {network : Network} {signalData : Bytes} (settled : Settled network)
    (unforged : ∀ receipt, AS4Receipt.parse signalData network.sender.remoteParty.credentials.certificate = .ok receipt →
      Emits network.answered signalData) :
    Settled ⟨leftBehind (receiveSignal signalData network.sender), network.answered⟩ := by
  rcases SignalDeliveries.receiveSignal_outcome network.sender signalData with ⟨-, raised, refused⟩ | ⟨receipt, answer, outcome⟩
  · rw [refused]
    exact ⟨settled.tells, settled.acknowledged, settled.rejected, settled.failed⟩
  · obtain ⟨session, member, headers, built⟩ := unforged receipt answer.1
    obtain ⟨message, tells⟩ := settled.tells session member
    obtain ⟨concerns, made⟩ := told_outcome tells built answer
    rcases outcome with ⟨⟨error, reported⟩, taken⟩ | ⟨silent, proven, taken⟩ | ⟨silent, raised, unproven, taken⟩
    · rcases made with ⟨rejected, -, why⟩ | ⟨-, silent, -⟩
      · rw [taken]
        refine ⟨settled.tells, ?_, fun _ => ⟨session, member, rejected, concerns, ?_⟩, ?_⟩
        · simp [leftBehind]
        · exact why
        · simp [leftBehind]
      · rw [silent] at reported
        simp at reported
    · rcases made with ⟨-, ⟨error, reported⟩, -⟩ | ⟨received, -, decided⟩
      · rw [silent] at reported
        simp at reported
      · obtain ⟨asked, sent, covered⟩ := decided.mp proven
        rw [taken]
        refine ⟨settled.tells, fun _ => ⟨session, member, received, concerns, asked, sent, covered⟩, ?_, ?_⟩
        · simp [leftBehind]
        · simp [leftBehind]
    · rcases made with ⟨-, ⟨error, reported⟩, -⟩ | ⟨received, -, decided⟩
      · rw [silent] at reported
        simp at reported
      · rw [taken]
        refine ⟨settled.tells, ?_, ?_, fun _ => ⟨session, member, received, concerns, ?_⟩⟩
        · simp [leftBehind]
        · simp [leftBehind]
        · rintro ⟨asked, sent, covered⟩
          rw [decided.mpr ⟨asked, sent, covered⟩] at unproven
          simp at unproven

/-- What one event does keeps the network settled. -/
theorem step_settled (event : Event) (network : Network) (allowed : Allowed event network) (settled : Settled network) :
    Settled (step event network) := by
  cases event with
  | request receiving requestHeaders requestBody accept policy now =>
      simp only [step]
      split
      · rename_i received taken
        have kept : ∀ receipt, received.receipt = some receipt → ReadBack receipt :=
          fun receipt => allowed received receipt taken
        have grown : ∀ {holds : AS4ReceivingExchange → Prop}, (∃ session ∈ network.answered, holds session) →
            ∃ session ∈ network.answered ++ [received], holds session := by
          rintro holds ⟨session, member, here⟩
          exact ⟨session, List.mem_append_left _ member, here⟩
        refine ⟨?_, fun state => grown (settled.acknowledged state), fun state => grown (settled.rejected state),
          fun state => grown (settled.failed state)⟩
        intro session member
        rcases List.mem_append.mp member with before | new
        · exact settled.tells session before
        · obtain rfl := List.mem_singleton.mp new
          exact receive_tells taken kept
      · exact settled
  | sending operation =>
      cases operation with
      | build builder draws =>
          rcases build_cases builder draws network.sender with ⟨-, identifiers, after⟩ | ⟨_, message, _, _, _, after⟩
          · -- Only identifiers changed, and nothing here depends on them.
            simp only [step, after]
            exact carried_settled ⟨rfl, fun _ => id, fun _ => confirms_same rfl rfl, fun _ => id⟩ settled
          · simp only [step, after]
            apply open_settled settled.tells
            simp
      | markSent =>
          apply open_settled settled.tells
          simp [ExchangeInvariants.step, markSent]
      | receiveSignal signalData => exact signal_settled settled allowed
      | restore localParty => exact carried_settled (restored_carried localParty network.sender) settled

end Runs

section Settling
variable {sending sent : AS4SendingExchange} {receiving : AS4ReceivingExchange} {payload : Bytes}
  {args : PeppolAS4MessageBuilderArgs} {draws : Draws} {request : Dict String String × Bytes}
  {accept : Option (String → Except PyError Unit)} {policy : SecurityPolicy} {now : Datetime}
  {attachmentId dataId name : String} {root : Node}

/-- What the receiver makes of the built request can be read back. -/
theorem request_allowed (faithful : Faithful receiving sent request accept policy now) (network : Network) :
    Allowed (.request receiving request.1 request.2 accept policy now) network := by
  intro received receipt taken stored
  simp only [receive, bind_ok] at taken
  obtain ⟨message, read, taken⟩ := taken
  obtain ⟨receipt', made, same, -⟩ := CertifiedAccessPoint.receiveMessage_ok taken
  obtain rfl : receipt' = receipt := by
    rw [same] at stored
    exact Option.some.inj stored
  exact fun envelope holds => faithful.answered message _ envelope read made holds

omit [Libraries] in
/-- What the exchange of the invoice rests on. -/
theorem invoice_exchanged :
    let documents := exchangeDocuments acceptedSignal
    letI := undoing documents
    ∃ request, build (peppolBuilder (plainText invoiceRoot) RecordedExchange.builderArgs invoiceDraws) invoiceDraws
        (invoiceSending documents) = .ok request (invoiceSent documents) ∧
      Deliverable (contextOf (invoiceReceiving documents) none (invoicePolicy documents)) (invoiceSending documents).localParty
        (invoiceSending documents).remoteParty RecordedExchange.builderArgs invoiceDraws (plainText invoiceRoot)
          (invoiceSent documents).identifiers invoiceAttachment.1 invoiceAttachment.2 "Invoice" invoiceRoot ∧
        Faithful (invoiceReceiving documents) (invoiceSent documents) request none (invoicePolicy documents)
          RecordedExchange.answerTime := by
  intro documents
  let _ := undoing documents
  obtain ⟨listed, written, posted⟩ := @invoices_listed [recipientDocument acceptedSignal]
  obtain ⟨request, built⟩ := invoice_built documents listed
  exact ⟨request, built, invoice_deliverable documents none listed written,
    invoice_faithful acceptedSignal none request fun message parsed =>
      invoice_acknowledged documents listed written posted parsed⟩

/-- Over any run that the network may take, the sender ends with what its remote party made
of its message. -/
theorem sender_settled (localParty : AS4InternalParty) (remoteParty : AS4ExternalParty) (identifiers : AS4References)
    (required : Option (List ComparableReferenceFields)) (messageId messagingId : String) (events : List Event)
    (allowed : Guarded step Allowed ⟨.new localParty remoteParty identifiers required messageId messagingId, []⟩ events) :
    Settled (run step ⟨.new localParty remoteParty identifiers required messageId messagingId, []⟩ events) := by
  apply guarded_invariant step_settled allowed
  apply open_settled
  · simp
  · simp [AS4SendingExchange.new, defaultMessageIds]

omit [Libraries] in
/-- The invoice is built, taken in, marked as sent and acknowledged. -/
theorem invoice_settled :
    let documents := exchangeDocuments acceptedSignal
    letI := undoing documents
    ∃ (request : Dict String String × Bytes) (data : Bytes),
      let start : Network := ⟨invoiceSending documents, []⟩
      let events : List Event :=
        [.sending (.build (peppolBuilder (plainText invoiceRoot) RecordedExchange.builderArgs invoiceDraws) invoiceDraws),
          .request (invoiceReceiving documents) request.1 request.2 none (invoicePolicy documents) RecordedExchange.answerTime,
          .sending .markSent, .sending (.receiveSignal data)]
      Guarded step Allowed start events ∧ (run step start events).sender.state = .acknowledged ∧
        Settled (run step start events) := by
  intro documents
  let _ := undoing documents
  obtain ⟨request, built, deliverable, faithful⟩ := invoice_exchanged
  obtain ⟨-, -, received, headers, data, receipt, taken, -, -, -, written, settles⟩ :=
    built_acknowledged (fun _ => rfl) (fun _ => List.cons_ne_nil _ _) (fun _ => ⟨_, rfl⟩) built deliverable rfl
      (invoice_answering documents) faithful (by decide)
  have settled := settles (markSent (invoiceSent documents)) rfl rfl rfl fun required given => nomatch given
  refine ⟨request, data, ?_⟩
  intro start events
  have afterBuild : step (.sending (.build
      (peppolBuilder (plainText invoiceRoot) RecordedExchange.builderArgs invoiceDraws) invoiceDraws)) start =
        ⟨invoiceSent documents, []⟩ := step_built built
  have afterRequest : step (.request (invoiceReceiving documents) request.1 request.2 none (invoicePolicy documents)
      RecordedExchange.answerTime) ⟨invoiceSent documents, []⟩ = ⟨invoiceSent documents, [received]⟩ := step_taken taken
  have afterSignal : step (.sending (.receiveSignal data)) ⟨markSent (invoiceSent documents), [received]⟩ =
      ⟨{ markSent (invoiceSent documents) with receipt := some receipt, state := .acknowledged }, [received]⟩ := by
    simp only [step, ExchangeInvariants.step, settled, leftBehind]
  have afterMark : step (.sending .markSent) ⟨invoiceSent documents, [received]⟩ =
      ⟨markSent (invoiceSent documents), [received]⟩ := rfl
  have allowed : Guarded step Allowed start events := by
    simp only [events, Guarded, afterBuild, afterRequest, afterMark]
    refine ⟨trivial, request_allowed faithful _, trivial, ?_, trivial⟩
    exact fun _ _ => ⟨received, List.mem_singleton_self received, headers, written⟩
  refine ⟨allowed, ?_, sender_settled _ _ _ _ _ _ events allowed⟩
  simp only [events, run, afterBuild, afterRequest, afterMark, afterSignal]

end Settling

section Resending
variable {sending sent : AS4SendingExchange} {receiving : AS4ReceivingExchange} {payload : Bytes}
  {args : PeppolAS4MessageBuilderArgs} {draws : Draws} {request : Dict String String × Bytes}
  {accept : Option (String → Except PyError Unit)} {policy : SecurityPolicy} {now : Datetime}
  {attachmentId dataId name : String} {root : Node}

/-- The exchange still waits for the signal of the message that was sent. -/
structure Waits (sent sender : AS4SendingExchange) : Prop where
  remoteParty : sender.remoteParty = sent.remoteParty
  messageId : sender.messageId = sent.messageId
  signedReferences : sender.signedReferences = sent.signedReferences
  requiredReferences : sender.requiredReferences = sent.requiredReferences

/-- The sender builds another message. -/
def Builds : Event → Prop
  | .sending (.build _ _) => True
  | _ => False

theorem step_waits {event : Event} {network : Network} (known : sent.messageId ≠ "") (unbuilt : ¬ Builds event)
    (waits : Waits sent network.sender) : Waits sent (step event network).sender := by
  cases event with
  | request receiving requestHeaders requestBody accept policy now =>
      simp only [step]
      split <;> exact waits
  | sending operation =>
      obtain ⟨party, named, signed, required⟩ := waits
      cases operation with
      | build builder draws => exact absurd trivial unbuilt
      | markSent => exact ⟨party, named, signed, required⟩
      | receiveSignal signalData =>
          obtain ⟨state, receipt, same⟩ := SignalDeliveries.leftBehind_located network.sender signalData
          have located : (step (.sending (.receiveSignal signalData)) network).sender = _ := same
          rw [located]
          exact ⟨party, named, signed, required⟩
      | restore localParty =>
          rcases restore_cases localParty network.sender with same | ⟨message, receipt, -, -, same⟩
          · simp only [step, same]
            exact ⟨party, named, signed, required⟩
          · simp only [step, same]
            refine ⟨party, ?_, signed, required⟩
            simp [defaultMessageIds, named, known]

theorem run_waits {events : List Event} {network : Network} (known : sent.messageId ≠ "")
    (unbuilt : ∀ event ∈ events, ¬ Builds event) (waits : Waits sent network.sender) :
    Waits sent (run step network events).sender := by
  induction events generalizing network with
  | nil => exact waits
  | cons event rest ih =>
      have here := step_waits known (unbuilt event List.mem_cons_self) waits
      exact ih (fun event later => unbuilt event (List.mem_cons_of_mem _ later)) here

/-- Whatever was lost, repeated or refused since a message was built, sending its request
again and delivering the answer acknowledges it. -/
theorem resent_acknowledged (placeFree : PlaceFree) (hashes : ∀ data, Libraries.digest .sha256 data ≠ [])
    (forms : ∀ element, ∃ form, Libraries.canonicalForm (.root element) [] = some form)
    (built : build (peppolBuilder payload args draws) draws sending = .ok request sent)
    (deliverable : Deliverable (contextOf receiving accept policy) sending.localParty sending.remoteParty args draws payload
      sent.identifiers attachmentId dataId name root)
    (services : acceptRecipient (contextOf receiving accept policy) (strip args.recipient) = .ok ())
    (answering : Answering receiving sent.identifiers dataId now) (faithful : Faithful receiving sent request accept policy now)
    (trimmed : strip sent.messageId = sent.messageId) (asks : AsksForSent sent) (answered : List AS4ReceivingExchange)
    (events : List Event) (unbuilt : ∀ event ∈ events, ¬ Builds event) :
    let asked := step (.request receiving request.1 request.2 accept policy now) (run step ⟨sent, answered⟩ events)
    ∃ received data, received ∈ asked.answered ∧ received.state = .received ∧ received.messageId = sent.messageId ∧
      received.signedReferences = sent.signedReferences ∧ (∃ headers, buildSignal received = .ok (headers, data)) ∧
        (step (.sending (.receiveSignal data)) asked).sender.state = .acknowledged := by
  intro asked
  obtain ⟨known, -, received, headers, data, receipt, taken, state, named, signed, written, settles⟩ :=
    built_acknowledged placeFree hashes forms built deliverable services answering faithful trimmed
  have waits : Waits sent (run step ⟨sent, answered⟩ events).sender := run_waits known unbuilt ⟨rfl, rfl, rfl, rfl⟩
  have same : asked = ⟨(run step ⟨sent, answered⟩ events).sender,
      (run step ⟨sent, answered⟩ events).answered ++ [received]⟩ := step_taken taken
  have settled := settles _ waits.remoteParty waits.messageId waits.signedReferences (by
    simpa only [AsksForSent, waits.requiredReferences, waits.signedReferences] using asks)
  refine ⟨received, data, ?_, state, named, signed, ⟨headers, written⟩, ?_⟩
  · rw [same]
    exact List.mem_append_right _ (List.mem_singleton_self received)
  · rw [same]
    simp [step, ExchangeInvariants.step, settled, leftBehind]

omit [Libraries] in
/-- The invoice after its request was lost once. -/
theorem invoice_resent :
    let documents := exchangeDocuments acceptedSignal
    letI := undoing documents
    ∃ request, build (peppolBuilder (plainText invoiceRoot) RecordedExchange.builderArgs invoiceDraws) invoiceDraws
        (invoiceSending documents) = .ok request (invoiceSent documents) ∧
      let asking : Event := .request (invoiceReceiving documents) request.1 request.2 none (invoicePolicy documents)
        RecordedExchange.answerTime
      let asked := step asking (run step ⟨invoiceSent documents, []⟩ [.sending .markSent, asking])
      ∃ received data, received ∈ asked.answered ∧ received.state = .received ∧
        received.messageId = (invoiceSent documents).messageId ∧
          received.signedReferences = (invoiceSent documents).signedReferences ∧
            (∃ headers, buildSignal received = .ok (headers, data)) ∧
              (step (.sending (.receiveSignal data)) asked).sender.state = .acknowledged := by
  intro documents
  let _ := undoing documents
  obtain ⟨request, built, deliverable, faithful⟩ := invoice_exchanged
  refine ⟨request, built, ?_⟩
  intro asking asked
  have unbuilt : ∀ event ∈ [.sending .markSent, asking], ¬ Builds event := by simp [Builds, asking]
  exact resent_acknowledged (fun _ => rfl) (fun _ => List.cons_ne_nil _ _) (fun _ => ⟨_, rfl⟩) built deliverable rfl
    (invoice_answering documents) faithful (by decide) (fun required given => nomatch given) [] _ unbuilt

end Resending

end ExchangeNetwork
