import AS4.AnsweredRequests
import AS4.RepeatedEntries
import AS4.RestoredReceivers

/-!
Looking into a receiving exchange after it has received. The accessors that read the
user message check once more that there is no other, which may be what the message was
refused for; and an exchange is restored only when no stored list is empty that must
not be.
-/

namespace InspectedExchanges
open ElementTree ElementCodec ElementCodec.Codec FallibleSteps PythonData AS4Libraries AS4Errors SignatureModel
  MessagingModel EnvelopeModel Verification MessageParsing ReceiptVerification SignalBuilding Exchange RepeatedEntries
  CertifiedAccessPoint RestoredReceivers ReceivingRuns RecordLaws RecordReadings Serialisation RecordedExchange WrittenEnvelope
  MessageReadings LooseMessages AcceptedDelivery AnsweredRequests

variable [Libraries]

section Accessors

/-- `AS4Exchange.errors` -/
def errors (exchange : AS4ReceivingExchange) : Except PyError (List MessagingModel.Error) :=
  match exchange.receipt with
  | none => .ok []
  | some receipt => receipt.errors

/-- `AS4Exchange.error` -/
def error (exchange : AS4ReceivingExchange) : Except PyError (Option MessagingModel.Error) := do
  let errors ← errors exchange
  return errors.head?

/-- `AS4ReceivingExchange.successful` -/
def successful (exchange : AS4ReceivingExchange) : Bool := exchange.state == .received

/-- `AS4Message.conversation_id` -/
def messageConversationId (message : AS4Message) : Except PyError (Option String) :=
  match message.soapEnvelope with
  | none => .ok none
  | some envelope => do
      let userMessage ← envelope.header.messaging.userMessage
      return userMessage.map (·.collaborationInfo.conversationId)

/-- `AS4Exchange.conversation_id` -/
def conversationId (exchange : AS4ReceivingExchange) : Except PyError (Option String) :=
  match exchange.message with
  | none => .ok none
  | some message => messageConversationId message

end Accessors

section Inspection

/-- Every accessor returns, and so do `build_signal` and restoring what was dumped.
(`successful` and `signed_references` raise for no exchange.) -/
structure Inspectable (exchange : AS4ReceivingExchange) : Prop where
  errors : ∃ found, errors exchange = .ok found
  error : ∃ found, error exchange = .ok found
  conversation : ∃ found, conversationId exchange = .ok found
  properties : ∀ message ∈ exchange.message, ∃ found, messageProperties message = .ok found
  signal : ∃ request, buildSignal exchange = .ok request
  restores : ∀ localParty : AS4InternalParty, exchange.localParty.identity.partyId = localParty.identity.partyId →
    ∃ restored, restoreReceiving exchange localParty = .ok restored

/-- The stored envelope has one user message at most, and no list is empty in it that
its model wants an entry of. -/
def StoredPlainly (message : AS4Message) : Prop :=
  ∀ envelope ∈ message.soapEnvelope,
    envelope.header.messaging.userMessages.length ≤ 1 ∧ Envelope.codec.storable envelope

omit [Libraries] in
theorem onlyOne_returns_iff {α : Type} {messages : List α} (elementName : String) :
    (∃ message, Messaging.onlyOne messages elementName = .ok message) ↔ messages.length ≤ 1 := by
  cases messages with
  | nil => simp [Messaging.onlyOne]
  | cons first rest =>
      cases rest with
      | nil => simp [Messaging.onlyOne]
      | cons second rest => simp [Messaging.onlyOne]

theorem messageConversationId_returns_iff {message : AS4Message} :
    (∃ found, messageConversationId message = .ok found) ↔
      ∀ envelope ∈ message.soapEnvelope, envelope.header.messaging.userMessages.length ≤ 1 := by
  unfold messageConversationId
  cases message.soapEnvelope with
  | none => simp
  | some envelope =>
      simp only [bind_ok, pure_ok, Option.mem_some_iff, forall_eq']
      rw [← onlyOne_returns_iff "eb:UserMessage"]
      constructor
      · rintro ⟨_, user, one, -⟩
        exact ⟨user, one⟩
      · rintro ⟨user, one⟩
        exact ⟨_, user, one, rfl⟩

theorem messageProperties_returns_iff {message : AS4Message} :
    (∃ found, messageProperties message = .ok found) ↔
      ∀ envelope ∈ message.soapEnvelope, envelope.header.messaging.userMessages.length ≤ 1 := by
  unfold messageProperties
  cases message.soapEnvelope with
  | none => simp
  | some envelope =>
      simp only [bind_ok, pure_ok, Option.mem_some_iff, forall_eq']
      rw [← onlyOne_returns_iff "eb:UserMessage"]
      constructor
      · rintro ⟨_, user, one, -⟩
        exact ⟨user, one⟩
      · rintro ⟨user, one⟩
        exact ⟨_, user, one, rfl⟩

/-- The signal an exchange owes is a single one. -/
theorem errors_return {message : AS4Message} {localParty : AS4InternalParty} {references : AS4References} {now : Datetime}
    {receipt : AS4Receipt} (made : forMessage message localParty references now = .ok receipt) :
    ∃ found, receipt.errors = .ok found := by
  simp only [AS4Receipt.errors, forMessage_signals made, bind_ok, pure_ok]
  exact ⟨_, _, rfl, rfl⟩

/-- After `receive` has returned, everything can be read just where the stored envelope
has one user message at most and no list is empty that must not be. -/
theorem received_inspectable_iff (exchange received : AS4ReceivingExchange) (requestHeaders : Dict String String)
    (requestBody : Bytes) (acceptParticipant : Option (String → Except PyError Unit)) (securityPolicy : SecurityPolicy)
    (now : Datetime)
    (returned : receive exchange requestHeaders requestBody acceptParticipant securityPolicy now = .ok received) :
    Inspectable received ↔ ∀ message ∈ received.message, StoredPlainly message := by
  simp only [receive, bind_ok] at returned
  obtain ⟨message, -, taken⟩ := returned
  obtain ⟨receipt, made, stored, -⟩ := receiveMessage_ok taken
  have carried : received.message = some message := by rw [stored]
  have owes : received.receipt = some receipt := by rw [stored]
  obtain ⟨signal, envelope, storable, -⟩ := signal_storable made
  obtain ⟨found, listed⟩ := errors_return made
  simp only [carried, Option.mem_some_iff, forall_eq']
  constructor
  · intro inspectable envelope stores
    refine ⟨?_, ?_⟩
    · have read := inspectable.conversation
      rw [conversationId, carried] at read
      exact messageConversationId_returns_iff.mp read envelope stores
    · obtain ⟨restored, succeeded⟩ := inspectable.restores received.localParty rfl
      exact restored_storable succeeded message carried envelope stores
  · intro plainly
    have single := fun envelope stores => (plainly envelope stores).1
    refine ⟨⟨found, by simp [errors, owes, listed]⟩, ⟨found.head?, ?_⟩, ?_, ?_, ?_, ?_⟩
    · simp [error, errors, owes, listed, bind, Except.bind, pure, Except.pure]
    · rw [conversationId, carried]
      exact messageConversationId_returns_iff.mpr single
    · rintro _ same
      obtain rfl := Option.some.inj (carried.symm.trans same)
      exact messageProperties_returns_iff.mpr single
    · simp [buildSignal, owes, getRequestData, envelope]
    · intro localParty same
      obtain ⟨message', messageLoaded⟩ := reloadMessage_stored.mpr fun envelope stores => (plainly envelope stores).2
      obtain ⟨receipt', receiptLoaded⟩ := reloadReceipt_stored.mpr fun other stores => by
        obtain rfl : signal = other := Option.some.inj (envelope.symm.trans stores)
        exact storable
      exact ⟨_, restoreReceiving_ok.mpr ⟨same, some message', some receipt', by simp [carried, reloadOptional, messageLoaded],
        by simp [owes, reloadOptional, receiptLoaded], rfl⟩⟩

end Inspection

section Bundled

omit [Libraries] in
/-- An envelope with two user messages, and no signature. -/
def bundledEnvelope : Envelope where
  header :=
    { security := { binarySecurityTokens := [⟨base64Binary, x509V3, "T", "token"⟩] }
      messaging := { userMessages := [plainUserMessage answerTime, plainUserMessage answerTime], messagingId := some "M" } }
  body := {}

omit [Libraries] in
def bundledDocument : Node :=
  letI := signing []
  Envelope.codec.element (soap12 "Envelope") bundledEnvelope

theorem bundledEnvelope_admits : Envelope.codec.admits bundledEnvelope := by
  simp [Envelope.codec, Header.codec, Security.codec, BinarySecurityToken.codec, Messaging.codec, Body.codec,
    UserMessage.codec, MessageInfo.codec, PartyInfo.codec, Party.codec, PartyId.codec, CollaborationInfo.codec,
    Service.codec, stringText, bundledEnvelope, plainUserMessage]

theorem bundledEnvelope_readable (stamps : Stamps answerTime) : Envelope.codec.readable bundledEnvelope := by
  have stamped : (requiredText datetimeScalar "value").readable answerTime := requiredText_readable.mpr stamps
  have understood : (Codec.optionalAttribute boolScalar (soap12 "mustUnderstand")
      "w3_org_2003_05_soap_envelope_must_understand").readable none := .inl rfl
  have secured : (Codec.attributeOr boolScalar true (soap12 "mustUnderstand") "must_understand").readable true :=
    .inr ⟨true, boolScalar_rereads true⟩
  have texts : strip "message" ≠ "" ∧ strip initiator ≠ "" ∧ strip responder ≠ "" ∧ strip "service" ≠ "" ∧
      strip "action" ≠ "" ∧ strip "conversation" ≠ "" ∧ strip "token" ≠ "" ∧ base64Binary ≠ "" ∧ x509V3 ≠ "" := by decide
  simp [Envelope.codec, Header.codec, Security.codec, BinarySecurityToken.codec, Messaging.codec, Body.codec,
    UserMessage.codec, MessageInfo.codec, PartyInfo.codec, Party.codec, PartyId.codec, CollaborationInfo.codec,
    Service.codec, stringText, bundledEnvelope, plainUserMessage, stamped, understood, secured, texts]

theorem bundledEnvelope_reads (stamps : Stamps answerTime) :
    ∃ envelope, Envelope.codec.validate (.root (Envelope.codec.element (soap12 "Envelope") bundledEnvelope)) = .ok envelope ∧
      envelope.header.security.signature = none ∧ envelope.header.messaging.userMessages.length = 2 := by
  obtain ⟨reads, kept⟩ := rereads_element Envelope.lawful bundledEnvelope_admits
    (n := .root (Envelope.codec.element (soap12 "Envelope") bundledEnvelope)) rfl
  obtain ⟨envelope, read⟩ := reads.mp (bundledEnvelope_readable stamps)
  obtain ⟨⟨header, -, -, headerRead⟩, -⟩ := Envelope.rereads (kept envelope read)
  obtain ⟨⟨_, -, -, securityRead⟩, _, -, -, messagingRead⟩ := Header.rereads headerRead
  obtain ⟨-, -, users⟩ := Messaging.rereads messagingRead
  have absent := (Security.rereads securityRead).2.2.2
  generalize found : envelope.header.security.signature = signature at absent
  cases absent
  exact ⟨envelope, read, found, users.length_eq.symm⟩

omit [Libraries] in
/-- The bundle is refused for its missing signature, and stays in the message. -/
theorem bundled_refused (context : @AS4ParseContext (posting bundledDocument)) (mimeAttachments : Dict String Bytes)
    (signed : letI := posting bundledDocument; context.securityPolicy.signRequired = true) :
    letI := posting bundledDocument
    ∃ message envelope, parse .peppol context (plainText bundledDocument) mimeAttachments = .ok message ∧
      message.parseError = some signatureRequired.new ∧ message.soapEnvelope = some envelope ∧
        envelope.header.messaging.userMessages.length = 2 ∧ message.signerCertificate = none := by
  have stamps : @Stamps (posting bundledDocument) answerTime := (recorded_stamps []).1
  obtain ⟨envelope, read, unsigned, two⟩ := @bundledEnvelope_reads (posting bundledDocument) stamps
  let _ := posting bundledDocument
  have validated : Envelope.codec.validate (.root bundledDocument) = .ok envelope := read
  obtain ⟨index, indexed⟩ : ∃ index, indexElementsById (.root bundledDocument) = .ok index :=
    index_ok_iff.mpr ⟨by decide, by decide⟩
  have refused : getVerifiedSignature context envelope.header.security envelope index =
      .error (.receiptable signatureRequired.new) := by
    simp [getVerifiedSignature, unsigned, signed, raise]
  have stopped : ∀ before, processPeppol context (.root bundledDocument) mimeAttachments before =
      .error (.receiptable signatureRequired.new)
        { before with mimeAttachments := mimeAttachments, soapEnvelope := some envelope } := by
    intro before
    simp only [processPeppol, processAs4, Envelope.modelValidateEtree, validated, indexed, refused, Except.mapError, bind,
      EStateM.bind, lift, modify, modifyGet, MonadStateOf.modifyGet, EStateM.modifyGet]
  exact ⟨_, envelope, parse_answers (alone_listed bundledDocument) rfl rfl (stopped _) rfl, rfl, rfl, two, rfl⟩

omit [Libraries] in
/-- The exchange that took in a bundle has no conversation to show. -/
theorem bundled_not_inspectable :
    letI := posting bundledDocument
    ∃ received, receive (postedTo bundledDocument) [] [] none (trustingTheSigner bundledDocument) answerTime = .ok received ∧
      received.state = .rejected ∧ ¬ Inspectable received := by
  let _ := posting bundledDocument
  let context : AS4ParseContext :=
    { localParty := (postedTo bundledDocument).localParty, securityPolicy := trustingTheSigner bundledDocument }
  obtain ⟨message, envelope, parsed, error, stored, two, unverified⟩ := bundled_refused context [("payload", [])] rfl
  have unpacked := posted_unpacks bundledDocument (payloadFromRequest [] [])
  have taken : parseMessage (payloadFromRequest [] []) context = .ok message := by
    simp [parseMessage, unpacked, parsed]
  obtain ⟨receipt, made⟩ := @forMessage_makes (posting bundledDocument) (postedTo bundledDocument).localParty
    (fun element => ⟨_, rfl⟩) (fun data => ⟨0 :: data, rfl⟩) message (postedTo bundledDocument).identifiers answerTime
  have unknown : remotePartyOf (postedTo bundledDocument) message = .ok (postedTo bundledDocument).remoteParty := by
    simp [remotePartyOf, AS4Message.getRemoteParty, unverified, suppressed]
  obtain ⟨received, answered, kept, state⟩ : ∃ received, receiveMessage (postedTo bundledDocument) message answerTime =
      .ok received ∧ received.message = some message ∧ received.state = .rejected := by
    simp only [receiveMessage, unknown, made, bind, Except.bind, pure, Except.pure, Except.ok.injEq, exists_eq_left']
    simp [error]
  refine ⟨received, by simp only [receive, bind_ok]; exact ⟨message, taken, answered⟩, state, fun inspectable => ?_⟩
  have read := inspectable.conversation
  rw [conversationId, kept] at read
  have single := messageConversationId_returns_iff.mp read envelope stored
  omega

omit [Libraries] in
/-- A request that is no AS4 message leaves an exchange that can be inspected. -/
theorem refused_inspectable :
    letI := signing []
    ∃ received, receive (newReceivingExchange (answeringParty []) answerReferences) [] [] none {} answerTime = .ok received ∧
      Inspectable received := by
  let _ := signing []
  let message : AS4Message := { parseError := some soapPartNotFound.new }
  obtain ⟨receipt, made⟩ := @forMessage_makes (signing []) (answeringParty []) (fun element => ⟨_, rfl⟩)
    (fun data => ⟨0 :: data, rfl⟩) message answerReferences answerTime
  obtain ⟨received, returned, kept⟩ : ∃ received,
      receive (newReceivingExchange (answeringParty []) answerReferences) [] [] none {} answerTime = .ok received ∧
        received.message = some message := by
    have unknown : remotePartyOf (newReceivingExchange (answeringParty []) answerReferences) message = .ok none := rfl
    have taken : parseMessage (payloadFromRequest [] []) { localParty := answeringParty [] } = .ok message := rfl
    simp only [receive, receiveMessage, bind_ok, pure_ok]
    exact ⟨_, ⟨message, taken, none, unknown, receipt, made, rfl⟩, rfl⟩
  refine ⟨received, returned, (received_inspectable_iff _ received _ _ _ _ _ returned).mpr ?_⟩
  rintro message' same envelope stored
  obtain rfl : message = message' := Option.some.inj (kept.symm.trans same)
  simp [message] at stored

end Bundled

end InspectedExchanges
