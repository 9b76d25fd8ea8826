import AS4.AcceptedBuilds
import AS4.CertifiedAccessPoint
import AS4.EmittedSignals
import AS4.NonRepudiation
import AS4.WrappedMessages

/-!
An exchange from its build to its end. What one party builds, the other takes in; the
signal that answers it is the one the first party waits for, and ends its exchange in the
state the other's is in.
-/

namespace CompletedExchanges
open ElementTree ElementCodec ElementCodec.Codec FallibleSteps PythonData AS4Libraries AS4Errors SignatureModel
  MessagingModel EnvelopeModel Verification MessageParsing ReceiptVerification SignalBuilding MessageBuilding Exchange
  RecordLaws RecordReadings Serialisation WrittenIdentifiers WrittenEnvelope SignedReadings MessageReadings AcceptedMessage
  RepeatedReferences BuiltSignals EmittedSignals NonRepudiation BuiltMessages EnvelopedDocuments BuiltUserMessages
  AcceptedBuilds

variable [Libraries]

section Answers
variable {cls : MessageClass} {context : AS4ParseContext} {soapBytes : Bytes} {mimeAttachments : Dict String Bytes}
  {message : AS4Message} {localParty : AS4InternalParty} {references : AS4References} {now : Datetime} {receipt : AS4Receipt}

/-- The signal of an accepted message carries a receipt and no error, however it is read. -/
theorem accepted_signal_carries {n : Located} {envelope envelope' : Envelope} {named : Option String}
    (accepted : message.parseError = none)
    (signals : envelope.header.messaging.signalMessages = [signalFor message references now])
    (read : Envelope.codec.reread n envelope envelope') :
    CarriesReceipt { soapEnvelope := some envelope', originalMessageId := named } ∧
      AS4Receipt.errors { soapEnvelope := some envelope', originalMessageId := named } = .ok [] := by
  obtain ⟨⟨_, -, -, headerRead⟩, -⟩ := Envelope.rereads read
  obtain ⟨-, _, -, -, messagingRead⟩ := Header.rereads headerRead
  obtain ⟨signal, one, _, signalRead⟩ := mem_single (signals ▸ (Messaging.rereads messagingRead).2.1)
  obtain ⟨-, receiptRead, errorsRead⟩ := SignalMessage.rereads signalRead
  simp only [signalFor, accepted, getSuccessSignalMessage] at receiptRead errorsRead
  have faultless := List.forall₂_nil_left_iff.mp errorsRead
  have listed : AS4Receipt.signalMessage { soapEnvelope := some envelope', originalMessageId := named } =
      .ok (some signal) := by
    simp [AS4Receipt.signalMessage, Messaging.signalMessage, one, Messaging.onlyOne]
  constructor
  · generalize carried : signal.receipt = found at receiptRead
    cases receiptRead with
    | @some _ content kept =>
        exact ⟨content, by simp [AS4Receipt.receipt, listed, carried, bind, Except.bind, pure, Except.pure]⟩
  · simp [AS4Receipt.errors, listed, faultless, bind, Except.bind, pure, Except.pure]

/-- The signal of a parsed message, read by the party that waits for it. -/
theorem answer_read (placeFree : PlaceFree) (hashes : ∀ data, Libraries.digest .sha256 data ≠ [])
    (parsed : parse cls context soapBytes mimeAttachments = .ok message) (agrees : KeyAgrees localParty)
    (certified : localParty.credentials.certificate.der ≠ []) (fresh : Fresh references soapBytes) (stamps : Stamps now)
    (survives : Survives message) (made : forMessage message localParty references now = .ok receipt)
    (faithful : ∀ envelope, receipt.soapEnvelope = some envelope →
      Libraries.parseXml (envelopeBytes envelope) = some (Envelope.codec.element (soap12 "Envelope") envelope)) :
    ∃ headers data receipt', getRequestData receipt = .ok (headers, data) ∧
      AS4Receipt.parse data localParty.credentials.certificate = .ok receipt' ∧ SaysWhatWasMeant message receipt' ∧
        (message.parseError = none → CarriesReceipt receipt' ∧ receipt'.errors = .ok []) := by
  simp only [forMessage, bind_ok, pure_ok] at made
  obtain ⟨envelope, built, rfl⟩ := made
  have known : message.parseError = none → message.messageId ≠ "" := by
    intro accepted
    obtain ⟨_, accepts⟩ := parse_accepts parsed accepted
    exact accepted_known accepts
  have signals : envelope.header.messaging.signalMessages = [signalFor message references now] := by
    obtain ⟨_, _, _, _, -, -, -, -, rfl⟩ := signalSoapEnvelope_ok.mp built
    rfl
  obtain ⟨envelope', read, accepted⟩ := built_signal_parses placeFree hashes agrees certified
    (signalFor_legible parsed stamps fresh survives.answerable) built (faithful envelope rfl)
    (signalFor_refers parsed survives.answerable)
  refine ⟨_, _, _, rfl, accepted, (signal_faithful_iff survives.answerable known signals read).mpr survives, ?_⟩
  intro sound
  exact accepted_signal_carries sound signals read

end Answers

section Settling
variable {message : AS4Message} {exchange : AS4SendingExchange} {receipt : AS4Receipt} {data : Bytes}

/-- What a sender asks to have acknowledged is something of what it sent. -/
def AsksForSent (exchange : AS4SendingExchange) : Prop :=
  ∀ required, exchange.requiredReferences = some required →
    required ≠ [] ∧ ∀ reference ∈ required, reference ∈ exchange.signedReferences

theorem signal_correlates (refers : receipt.originalMessageId = knownMessageId message.messageId)
    (named : message.messageId ≠ "") (same : message.messageId = exchange.messageId) :
    requireSameMessage exchange receipt = .ok () := by
  have known : receipt.originalMessageId = some exchange.messageId := by simp [refers, knownMessageId, ← same, named]
  simp [requireSameMessage, known]

/-- A signal that accepts the message of an exchange, and says what of it was signed,
acknowledges it. -/
theorem signal_acknowledges (exchange : AS4SendingExchange)
    (accepted : AS4Receipt.parse data exchange.remoteParty.credentials.certificate = .ok receipt)
    (meant : SaysWhatWasMeant message receipt) (sound : message.parseError = none) (named : message.messageId ≠ "")
    (same : message.messageId = exchange.messageId) (signed : message.signedReferences = exchange.signedReferences)
    (carries : CarriesReceipt receipt) (faultless : receipt.errors = .ok []) (asks : AsksForSent exchange) :
    receiveSignal data exchange = .ok () { exchange with receipt := some receipt, state := .acknowledged } := by
  obtain ⟨refers, acknowledged⟩ := meant
  simp only [sound] at acknowledged
  have correlated := signal_correlates refers named same
  -- Signed and sent are the same list, so nothing asked for is left out.
  have proved : receipt.verifyNonRepudiation exchange.signedReferences exchange.requiredReferences = .ok () := by
    refine verifyNonRepudiation_iff.mpr ⟨carries, fun nothing => (asks [] nothing).1 rfl, _, acknowledged, ?_, ?_⟩
    · exact fun reference member => signed ▸ member
    · intro reference member
      cases required : exchange.requiredReferences with
      | none => simpa [required, signed] using member
      | some references => exact signed.symm ▸ (asks references required).2 reference (by simpa [required] using member)
  have silent : receipt.error = .ok none := by simp [AS4Receipt.error, faultless, bind, Except.bind, pure, Except.pure]
  have judged : judgeSignal exchange data = .ok (receipt, .acknowledged, none) := by
    simp [judgeSignal, verdict, accepted, correlated, silent, proved, bind, Except.bind, pure, Except.pure]
  simp [receiveSignal, judged]

/-- A signal that reports an error on the message of an exchange rejects it. -/
theorem signal_rejects (exchange : AS4SendingExchange) {exception : BaseAS4ReceiptableError}
    (accepted : AS4Receipt.parse data exchange.remoteParty.credentials.certificate = .ok receipt)
    (meant : SaysWhatWasMeant message receipt) (raised : message.parseError = some exception) (named : message.messageId ≠ "")
    (same : message.messageId = exchange.messageId) :
    receiveSignal data exchange = .ok () { exchange with receipt := some receipt, state := .rejected } ∧
      ∃ error, receipt.error = .ok (some error) ∧ SaysError error exception := by
  obtain ⟨refers, reported⟩ := meant
  simp only [raised] at reported
  obtain ⟨error, listed, same'⟩ := reported
  have correlated := signal_correlates refers named same
  have first : receipt.error = .ok (some error) := by simp [AS4Receipt.error, listed, bind, Except.bind, pure, Except.pure]
  have judged : judgeSignal exchange data = .ok (receipt, .rejected, none) := by
    simp [judgeSignal, verdict, accepted, correlated, first, bind, Except.bind, pure, Except.pure]
  exact ⟨by simp [receiveSignal, judged], error, first, same'⟩

end Settling

section Taking
variable {sending sent : AS4SendingExchange} {receiving : AS4ReceivingExchange} {payload : Bytes}
  {args : PeppolAS4MessageBuilderArgs} {draws : Draws} {request : Dict String String × Bytes} {message : AS4Message}
  {context : AS4ParseContext} {attachmentId dataId name : String} {root : Node}

/-- What an exchange that built its message holds. -/
theorem build_parts (built : build (peppolBuilder payload args draws) draws sending = .ok request sent) :
    ∃ message, buildMessage payload sending.localParty sending.remoteParty args draws sending.identifiers =
        .ok message sent.identifiers ∧
      sent.message = some message ∧ sent.messageId = message.messageId ∧
        sent.signedReferences = message.signedReferences ∧ sent.remoteParty = sending.remoteParty := by
  simp only [build, peppolBuilder] at built
  cases made : buildMessage payload sending.localParty sending.remoteParty args draws sending.identifiers with
  | error raised references => simp [made] at built
  | ok message references =>
      simp only [made] at built
      cases serialised : requestData message draws with
      | error raised => simp [serialised] at built
      | ok request' =>
          simp only [serialised, EStateM.Result.ok.injEq] at built
          obtain ⟨-, rfl⟩ := built
          exact ⟨message, rfl, rfl, rfl, rfl, rfl⟩

/-- An exchange builds its message where the profile does. -/
theorem build_makes (sending : AS4SendingExchange) {references : AS4References} {envelope : Envelope}
    (made : buildMessage payload sending.localParty sending.remoteParty args draws sending.identifiers =
      .ok message references) (stored : message.soapEnvelope = some envelope) :
    ∃ request, build (peppolBuilder payload args draws) draws sending = .ok request { sending with
      identifiers := references
      message := some message
      messageId := message.messageId
      messagingId := message.messagingId
      signedReferences := message.signedReferences
      state := .built } := by
  simp [build, peppolBuilder, made, requestData, stored]

/-- The ids of an answer differ from each other and from those of the message. -/
structure FreshBeside (answering references : AS4References) (dataId : String) : Prop where
  named : strip answering.messageId ≠ ""
  solid : ∀ id ∈ carriedIds answering ++ [answering.bodyId], id ≠ ""
  distinct : (carriedIds answering ++ [answering.bodyId]).Nodup
  unused : ∀ id ∈ carriedIds answering ++ [answering.bodyId], id ∉ userIds references dataId

omit [Libraries] in
/-- A reference that names its digest and its transforms can be read again. -/
theorem reread_rereadable {n : Located} {reference reference' : DsigReference}
    (digested : reference.digestMethod.algorithm ≠ "")
    (transformed : ∀ transform ∈ reference.transforms.transforms,
      ∃ algorithm, transform.algorithm = some algorithm ∧ algorithm ≠ "")
    (read : DsigReference.codec.reread n reference reference') : Rereadable reference' := by
  obtain ⟨transforms, method, -, -, -⟩ := DsigReference.rereads read
  refine ⟨method ▸ digested, fun transform member unnamed => ?_⟩
  rw [transforms, List.mem_map] at member
  obtain ⟨transform, inside, rfl⟩ := member
  obtain ⟨algorithm, named, filled⟩ := transformed transform inside
  simp only [named, written_some filled, Option.getD_some] at unnamed
  exact absurd unnamed filled

/-- The sender a message is read to be from. -/
theorem remote_read {n : Located} {envelope envelope' : Envelope} {user : UserMessage} {certificate : Certificate}
    {received : AS4Message} (only : envelope.header.messaging.userMessages = [user])
    (stored : received.soapEnvelope = some envelope') (signer : received.signerCertificate = some certificate)
    (read : Envelope.codec.reread n envelope envelope') :
    received.getRemoteParty = .ok ⟨⟨strip user.partyInfo.partyFrom.partyId.value,
      written user.partyInfo.partyFrom.partyId.typeValue⟩, ⟨certificate⟩⟩ := by
  obtain ⟨⟨_, -, -, headerRead⟩, -⟩ := Envelope.rereads read
  obtain ⟨-, messaging, -, -, messagingRead⟩ := Header.rereads headerRead
  obtain ⟨-, -, users⟩ := Messaging.rereads messagingRead
  obtain ⟨user', one, _, userRead⟩ := mem_single (only ▸ users)
  obtain ⟨-, ⟨_, partyRead⟩, -⟩ := UserMessage.rereads userRead
  have carries : requireUserMessage envelope' = .ok user' := by
    simp [requireUserMessage, Messaging.userMessage, one, Messaging.onlyOne, bind, Except.bind, pure, Except.pure]
  simp [AS4Message.getRemoteParty, stored, signer, carries, Party.rereads partyRead, AS4PartyIdentity.fromParty, bind,
    Except.bind, pure, Except.pure]

end Taking

section Exchanging
variable {sending sent : AS4SendingExchange} {receiving : AS4ReceivingExchange} {payload : Bytes}
  {args : PeppolAS4MessageBuilderArgs} {draws : Draws} {request : Dict String String × Bytes}
  {accept : Option (String → Except PyError Unit)} {policy : SecurityPolicy} {now : Datetime}
  {attachmentId dataId name : String} {root : Node}

/-- The context a receiving exchange parses a request in. -/
def contextOf (receiving : AS4ReceivingExchange) (accept : Option (String → Except PyError Unit))
    (policy : SecurityPolicy) : AS4ParseContext :=
  { localParty := receiving.localParty, acceptParticipant := accept, securityPolicy := policy }

/-- The receiver of an exchange: it signs what it answers, under ids of its own. -/
structure Answering (receiving : AS4ReceivingExchange) (references : AS4References) (dataId : String) (now : Datetime) :
    Prop where
  agrees : KeyAgrees receiving.localParty
  signs : ∀ data, ∃ value, receiving.localParty.credentials.privateKey.sign data = .ok value
  fresh : FreshBeside receiving.identifiers references dataId
  stamps : Stamps now

/-- What is written and sent arrives as it was: the message in its request, its envelope in
its bytes, and the envelope of the answer to it. -/
structure Faithful (receiving : AS4ReceivingExchange) (sent : AS4SendingExchange) (request : Dict String String × Bytes)
    (accept : Option (String → Except PyError Unit)) (policy : SecurityPolicy) (now : Datetime) : Prop where
  transported : ∀ message envelope, sent.message = some message → message.soapEnvelope = some envelope →
    unpackMessage (payloadFromRequest request.1 request.2) = .ok (envelopeBytes envelope, message.mimeAttachments)
  written : ∀ message envelope, sent.message = some message → message.soapEnvelope = some envelope →
    Libraries.parseXml (envelopeBytes envelope) = some (Envelope.codec.element (soap12 "Envelope") envelope)
  answered : ∀ message receipt envelope,
    parseMessage (payloadFromRequest request.1 request.2) (contextOf receiving accept policy) = .ok message →
      forMessage message receiving.localParty receiving.identifiers now = .ok receipt →
        receipt.soapEnvelope = some envelope →
          Libraries.parseXml (envelopeBytes envelope) = some (Envelope.codec.element (soap12 "Envelope") envelope)

/-- What the receiver's exchange is once it took in a message. -/
def takenIn (receiving : AS4ReceivingExchange) (message : AS4Message) (remoteParty : AS4ExternalParty)
    (receipt : AS4Receipt) : AS4ReceivingExchange :=
  { receiving with
    message := some message
    messageId := message.messageId
    messagingId := message.messagingId
    signedReferences := message.signedReferences
    remoteParty := some remoteParty
    receipt := some receipt
    state := if message.parseError.isSome then .rejected else .received }

/-- A message that is read, from a sender it names, is taken in and answered. -/
theorem request_taken (now : Datetime) {message : AS4Message} {remoteParty : AS4ExternalParty}
    (forms : ∀ element, ∃ form, Libraries.canonicalForm (.root element) [] = some form)
    (signs : ∀ data, ∃ value, receiving.localParty.credentials.privateKey.sign data = .ok value)
    (read : parseMessage (payloadFromRequest request.1 request.2) (contextOf receiving accept policy) = .ok message)
    (named : message.getRemoteParty = .ok remoteParty) :
    ∃ receipt, forMessage message receiving.localParty receiving.identifiers now = .ok receipt ∧
      receive receiving request.1 request.2 accept policy now = .ok (takenIn receiving message remoteParty receipt) := by
  obtain ⟨receipt, made⟩ := forMessage_makes forms signs message receiving.identifiers now
  refine ⟨receipt, made, ?_⟩
  rw [contextOf] at read
  simp only [receive, read, receiveMessage, remotePartyOf, named, made, bind, Except.bind, pure, Except.pure]
  rfl

omit [Libraries] in
theorem notServiced_trimmed :
    Trimmed peppolNotServiced.new.errorClass.description ∧ Trimmed peppolNotServiced.new.detail ∧
      peppolNotServiced.new.errorClass.errorCode ≠ "" ∧ peppolNotServiced.new.errorClass.severity ≠ "" ∧
        peppolNotServiced.new.errorClass.category ≠ "" ∧ peppolNotServiced.new.errorClass.shortDescription ≠ "" :=
  ⟨trimmed_of_chars (by decide +kernel) (by decide), trimmed_of_chars (by decide +kernel) (by decide), by decide, by decide,
    by decide, by decide⟩

section Delivered
variable (placeFree : PlaceFree) (hashes : ∀ data, Libraries.digest .sha256 data ≠ [])
  (forms : ∀ element, ∃ form, Libraries.canonicalForm (.root element) [] = some form) {message received : AS4Message}
  {envelope envelope' : Envelope}
  (deliverable : Deliverable (contextOf receiving accept policy) sending.localParty sending.remoteParty args draws payload
    sent.identifiers attachmentId dataId name root)
  (made : buildMessage payload sending.localParty sending.remoteParty args draws sending.identifiers =
    .ok message sent.identifiers)
  (carried : sent.message = some message) (stored : message.soapEnvelope = some envelope)
  (answering : Answering receiving sent.identifiers dataId now) (faithful : Faithful receiving sent request accept policy now)
include placeFree hashes forms deliverable made carried stored answering faithful

/-- A built message that its receiver reads is answered by a signal its sender reads. -/
theorem delivered_answered
    (reread : Envelope.codec.reread (.root (Envelope.codec.element (soap12 "Envelope") envelope)) envelope envelope')
    (parsed : parse .peppol (contextOf receiving accept policy) (envelopeBytes envelope) message.mimeAttachments = .ok received)
    (holds : received.soapEnvelope = some envelope')
    (signer : received.signerCertificate = some sending.localParty.credentials.certificate) (survives : Survives received) :
    ∃ remoteParty receipt headers data receipt',
      receive receiving request.1 request.2 accept policy now = .ok (takenIn receiving received remoteParty receipt) ∧
        buildSignal (takenIn receiving received remoteParty receipt) = .ok (headers, data) ∧
          AS4Receipt.parse data sending.remoteParty.credentials.certificate = .ok receipt' ∧
            SaysWhatWasMeant received receipt' ∧
              (received.parseError = none → CarriesReceipt receipt' ∧ receipt'.errors = .ok []) := by
  have found := faithful.written message envelope carried stored
  have read : parseMessage (payloadFromRequest request.1 request.2) (contextOf receiving accept policy) = .ok received := by
    simp only [parseMessage, faithful.transported message envelope carried stored, parsed]
  have named := remote_read (built_user placeFree hashes deliverable made stored) holds signer reread
  -- The ids of the answer are compared with those of the document the receiver parsed.
  have unused : ∀ document, Libraries.parseXml (envelopeBytes envelope) = some document →
      ∀ id ∈ carriedIds receiving.identifiers ++ [receiving.identifiers.bodyId], id ∉ identifiers document := by
    intro document here
    obtain rfl := Option.some.inj (found.symm.trans here)
    rw [built_identifiers placeFree hashes deliverable made stored]
    exact answering.fresh.unused
  have fresh : Fresh receiving.identifiers (envelopeBytes envelope) :=
    ⟨answering.fresh.named, answering.fresh.solid, answering.fresh.distinct, unused⟩
  have certified : receiving.localParty.credentials.certificate.der ≠ [] :=
    deliverable.keyed.same ▸ deliverable.keyed.certified.2
  obtain ⟨receipt, answered, taken⟩ := request_taken now forms answering.signs read named
  obtain ⟨headers, data, receipt', written, accepted, meant, sound⟩ := answer_read placeFree hashes parsed answering.agrees
    certified fresh answering.stamps survives answered fun envelope =>
      faithful.answered received receipt envelope read answered
  exact ⟨_, receipt, headers, data, receipt', taken, written, deliverable.keyed.same ▸ accepted, meant, sound⟩

end Delivered

end Exchanging

section Invoices

def acceptedSignal : SignalMessage :=
  letI := undoing []
  getSuccessSignalMessage invoiceReferences.messageId invoiceInfo.references RecordedExchange.answerReferences
    RecordedExchange.answerTime

def refusedSignal : SignalMessage :=
  letI := undoing []
  getErrorSignalMessage peppolNotServiced.new invoiceReferences.messageId RecordedExchange.answerReferences
    RecordedExchange.answerTime

/-- What the recipient answers with. -/
def recipientAnswer (signal : SignalMessage) : Envelope :=
  letI := undoing []
  let info := signalInfo RecordedExchange.answerReferences
    (canonicalText (Messaging.codec.element (eb3 "Messaging")
      (receiptMessaging RecordedExchange.answerReferences signal)))
    (canonicalText (Body.codec.element (soap12 "Body")
      { bodyId := some RecordedExchange.answerReferences.bodyId }))
  signalEnvelope (invoiceRecipient []) RecordedExchange.answerReferences signal info
    (0 :: canonicalText (SignedInfo.codec.element (ds "SignedInfo") info))

def recipientDocument (signal : SignalMessage) : Node :=
  (@Envelope.codec (undoing [])).element (soap12 "Envelope") (recipientAnswer signal)

def exchangeDocuments (signal : SignalMessage) : List Node := invoiceDocuments ++ [recipientDocument signal]

omit [Libraries] in
theorem recipientAnswer_made (documents : List Node) (signal : SignalMessage) :
    letI := undoing documents
    signalSoapEnvelope (invoiceRecipient documents) RecordedExchange.answerReferences signal = .ok (recipientAnswer signal) := by
  let _ := undoing documents
  exact signalSoapEnvelope_ok.mpr ⟨_, _, _, _, rfl, rfl, rfl, rfl, rfl⟩

/-- The sender's exchange, before and after it built the invoice. -/
def invoiceSending (documents : List Node) : @AS4SendingExchange (undoing documents) :=
  letI := undoing documents
  .new (invoiceSender documents) (remoteRecipient documents) freshReferences none

def invoiceMessage (documents : List Node) : @AS4Message (undoing documents) :=
  letI := undoing documents
  messageWith RecordedExchange.builderArgs invoiceDraws invoiceReferences invoiceAttachment.1
    (plainText invoiceDocument) invoiceEnvelope

def invoiceSent (documents : List Node) : @AS4SendingExchange (undoing documents) :=
  letI := undoing documents
  { invoiceSending documents with
    identifiers := invoiceReferences
    message := some (invoiceMessage documents)
    messageId := (invoiceMessage documents).messageId
    messagingId := (invoiceMessage documents).messagingId
    signedReferences := (invoiceMessage documents).signedReferences
    state := .built }

def invoiceReceiving (documents : List Node) : @AS4ReceivingExchange (undoing documents) :=
  letI := undoing documents
  { localParty := invoiceRecipient documents, identifiers := RecordedExchange.answerReferences }

omit [Libraries] in
theorem invoice_built (documents : List Node)
    (listed : documents.find? (fun document => plainText document == plainText invoiceRoot) = some invoiceRoot) :
    letI := undoing documents
    ∃ request, build (peppolBuilder (plainText invoiceRoot) RecordedExchange.builderArgs invoiceDraws) invoiceDraws
      (invoiceSending documents) = .ok request (invoiceSent documents) := by
  let _ := undoing documents
  exact build_makes (invoiceSending documents) (invoice_builds documents listed) rfl

omit [Libraries] in
/-- The bytes an attribute is written in. -/
def attributeBytes (value : String) : Bytes := (value.toList.flatMap plainStyle.escapeAttribute).flatMap String.utf8EncodeChar

omit [Libraries] in
/-- Elements are written apart where one attribute is. -/
theorem attribute_apart {tag name : QName} {before after : List (QName × String)} {value value' : String}
    {content content' : List Node} (apart : WrappedMessages.Apart (attributeBytes value) (attributeBytes value'))
    (declared : List (String × String)) :
    WrappedMessages.Apart (WrappedMessages.written declared (.element tag (before ++ (name, value) :: after) content))
      (WrappedMessages.written declared (.element tag (before ++ (name, value') :: after) content')) := by
  have same : undeclared declared tag (before ++ (name, value') :: after) =
      undeclared declared tag (before ++ (name, value) :: after) := by
    simp [undeclared]
  let new := undeclared declared tag (before ++ (name, value) :: after)
  have whole : ∀ value content, undeclared declared tag (before ++ (name, value) :: after) = new → ∃ rest,
      WrappedMessages.written declared (.element tag (before ++ (name, value) :: after) content) =
        (['<'] ++ (qualified tag).toList ++ new.flatMap namespaceText ++
          before.flatMap (fun entry => attributeText (qualified entry.1).toList
            (entry.2.toList.flatMap plainStyle.escapeAttribute)) ++
          ([' '] ++ (qualified name).toList ++ ['=', quote])).flatMap String.utf8EncodeChar ++ attributeBytes value ++ rest := by
    intro value content declares
    by_cases empty : content.isEmpty
    · simp only [WrappedMessages.written, writeNode, startTag, declares, empty, plainStyle, attributeText, attributeBytes,
        Bool.and_self, if_true, id_eq, List.flatMap_append, List.flatMap_cons, List.append_assoc]
      exact ⟨_, rfl⟩
    · simp only [WrappedMessages.written, writeNode, startTag, declares, empty, plainStyle, attributeText, attributeBytes,
        Bool.and_false, Bool.false_eq_true, if_false, id_eq, List.flatMap_append, List.flatMap_cons, List.append_assoc]
      exact ⟨_, rfl⟩
  obtain ⟨rest, written⟩ := whole value content rfl
  obtain ⟨rest', written'⟩ := whole value' content' same
  rw [written, written']
  exact apart.between _ _ _

omit [Libraries] in
theorem token_element {id value : String} (solid : value ≠ "" ∧ id ≠ "") :
    BinarySecurityToken.codec.element (wsse "BinarySecurityToken") ⟨base64Binary, x509V3, id, value⟩ =
      .element (wsse "BinarySecurityToken")
        ([(plain "EncodingType", base64Binary), (plain "ValueType", x509V3)] ++ (wsu "Id", id) :: []) [.text value] := by
  have words : base64Binary ≠ "" ∧ x509V3 ≠ "" := by decide
  simp [element, BinarySecurityToken.codec, stringText, record, pair, requiredAttribute, attributeFragment, requiredText,
    Scalar.string, Fragment.toElement, Fragment.append, textNode, solid, words]

omit [Libraries] in
/-- An answer begins unlike the message: its first token has another id. -/
theorem answer_apart (signal : SignalMessage) : plainText (recipientDocument signal) ≠ plainText invoiceMessageDocument := by
  let _ := undoing []
  have ids : WrappedMessages.Apart (attributeBytes RecordedExchange.answerReferences.signatureBstId)
      (attributeBytes invoiceReferences.encryptedKeyBstId) :=
    ⟨[], 88, 48, (attributeBytes RecordedExchange.answerReferences.signatureBstId).tail,
      (attributeBytes invoiceReferences.encryptedKeyBstId).tail, by decide, by decide +kernel, by decide +kernel⟩
  obtain ⟨rest, others, more, answer⟩ : ∃ rest others more, recipientDocument signal =
      .element (soap12 "Envelope") [] (.element (soap12 "Header") [] (.element (wsse "Security")
        [(soap12 "mustUnderstand", "true")] (BinarySecurityToken.codec.element (wsse "BinarySecurityToken")
          ⟨base64Binary, x509V3, RecordedExchange.answerReferences.signatureBstId, Base64.b64encode [48, 2]⟩ :: rest) :: others) ::
            more) := ⟨_, _, _, rfl⟩
  obtain ⟨rest', others', more', message⟩ : ∃ rest others more, invoiceMessageDocument =
      .element (soap12 "Envelope") [] (.element (soap12 "Header") [] (.element (wsse "Security")
        [(soap12 "mustUnderstand", "true")] (BinarySecurityToken.codec.element (wsse "BinarySecurityToken")
          ⟨base64Binary, x509V3, invoiceReferences.encryptedKeyBstId, Base64.b64encode [48, 2]⟩ :: rest) :: others) ::
            more) := ⟨_, _, _, rfl⟩
  have solid : Base64.b64encode [48, 2] ≠ "" ∧ RecordedExchange.answerReferences.signatureBstId ≠ "" := by decide
  have solid' : Base64.b64encode [48, 2] ≠ "" ∧ invoiceReferences.encryptedKeyBstId ≠ "" := by decide
  rw [answer, message, token_element solid, token_element solid']
  exact (WrappedMessages.first_child_apart (WrappedMessages.first_child_apart (WrappedMessages.first_child_apart
    (attribute_apart ids))) outermost).ne

omit [Libraries] in
/-- A document begins with the name of its root. -/
theorem element_begins (tag : QName) (attrib : List (QName × String)) (content : List Node) :
    ∃ rest, plainText (.element tag attrib content) = (['<'] ++ (qualified tag).toList).flatMap String.utf8EncodeChar ++ rest := by
  by_cases empty : content.isEmpty
  · simp only [plainText, writeNode, startTag, empty, plainStyle, Bool.and_self, if_true, List.flatMap_append, List.append_assoc]
    exact ⟨_, rfl⟩
  · simp only [plainText, writeNode, startTag, empty, plainStyle, Bool.and_false, Bool.false_eq_true, if_false,
      List.flatMap_append, List.append_assoc]
    exact ⟨_, rfl⟩

omit [Libraries] in
theorem answer_apart_from_documents (signal : SignalMessage) :
    plainText invoiceRoot ≠ plainText (recipientDocument signal) ∧
      plainText invoiceDocument ≠ plainText (recipientDocument signal) := by
  have root : (plainText invoiceRoot).take 2 = [60, 73] := by decide +kernel
  have document : (plainText invoiceDocument).take 2 = [60, 110] := by decide +kernel
  have answer : (plainText (recipientDocument signal)).take 2 = [60, 83] := by
    obtain ⟨content, shape⟩ : ∃ content, recipientDocument signal = .element (soap12 "Envelope") [] content := ⟨_, rfl⟩
    obtain ⟨rest, begins⟩ := element_begins (soap12 "Envelope") [] content
    have name : (['<'] ++ (qualified (soap12 "Envelope")).toList).flatMap String.utf8EncodeChar =
        [60, 83] ++ [49, 50, 58, 69, 110, 118, 101, 108, 111, 112, 101] := by decide +kernel
    rw [shape, begins, name]
    rfl
  refine ⟨fun same => ?_, fun same => ?_⟩
  · simp [same, answer] at root
  · simp [same, answer] at document

omit [Libraries] in
theorem exchange_listed (signal : SignalMessage) :
    (exchangeDocuments signal).find? (fun document => plainText document == plainText (recipientDocument signal)) =
      some (recipientDocument signal) := by
  obtain ⟨root, document⟩ := answer_apart_from_documents signal
  have message := (answer_apart signal).symm
  simp [exchangeDocuments, invoiceDocuments, beq_eq_false_iff_ne.mpr, root, document, message]

def signedReference (algorithm text uri : String) : DsigReference where
  transforms := ⟨[{ algorithm := some algorithm }]⟩
  digestMethod := ⟨xmlencSha256⟩
  digestValue := ⟨text⟩
  uri := some uri

omit [Libraries] in
/-- A reference that was signed is read as it was written. -/
theorem signed_reference_exact {n : Located} {algorithm text uri : String} {reference : DsigReference}
    (trimmed : strip text = text) (filled : algorithm ≠ "" ∧ uri ≠ "")
    (read : DsigReference.codec.reread n (signedReference algorithm text uri) reference) :
    reference = signedReference algorithm text uri := by
  obtain ⟨transforms, method, value, identifier, target⟩ := DsigReference.rereads read
  simp only [DsigReference.codec, signedReference, record_reread, pair_reread, optionalAttribute_string_reread] at read transforms method value identifier target
  obtain ⟨-, -, -, -, -, kind⟩ := read
  obtain ⟨⟨transforms'⟩, method', ⟨value'⟩, identifier', target', kind'⟩ := reference
  simp only [List.map_cons, List.map_nil, written_some filled.1] at transforms
  simp only [trimmed] at value
  simp only [written_some filled.2] at target
  simp only [written_none] at identifier kind
  subst transforms method value identifier target kind
  rfl

omit [Libraries] in
theorem invoice_references_read (documents : List Node) (received : @AS4Message (undoing documents)) {n : Located}
    {envelope : Envelope}
    (holds : letI := undoing documents; received.soapEnvelope = some envelope)
    (read : letI := undoing documents; Envelope.codec.reread n invoiceEnvelope envelope) :
    letI := undoing documents
    received.signatureReferences = invoiceInfo.references := by
  let _ := undoing documents
  have each := @signatureReferences_rereads (undoing documents) n invoiceEnvelope envelope (invoiceMessage documents)
    received rfl holds read
  have words : exclusiveC14N ≠ "" ∧ attachmentContentSignature ≠ "" := by decide
  have exact' : ∀ reference ∈ invoiceInfo.references, ∃ algorithm text uri,
      reference = signedReference algorithm text uri ∧ strip text = text ∧ algorithm ≠ "" ∧ uri ≠ "" := by
    intro reference member
    simp only [invoiceInfo, userInfo, signedInfoOver, List.mem_cons, List.not_mem_nil, or_false] at member
    rcases member with rfl | rfl | rfl
    · exact ⟨_, _, _, rfl, Base64.strip_b64encode _, words.1, by simp⟩
    · exact ⟨_, _, _, rfl, Base64.strip_b64encode _, words.1, by simp⟩
    · exact ⟨_, _, _, rfl, Base64.strip_b64encode _, words.2, by simp⟩
  have same : ∀ {references references' : List DsigReference},
      List.Forall₂ (fun reference reference' => ∃ child, DsigReference.codec.reread child reference reference') references
        references' → (∀ reference ∈ references, ∃ algorithm text uri,
          reference = signedReference algorithm text uri ∧ strip text = text ∧ algorithm ≠ "" ∧ uri ≠ "") →
            references' = references := by
    intro references references' each signed
    induction each with
    | nil => rfl
    | cons first _ ih =>
        obtain ⟨_, first⟩ := first
        obtain ⟨algorithm, text, uri, rfl, trimmed, filled⟩ := signed _ List.mem_cons_self
        rw [signed_reference_exact trimmed filled first, ih fun reference member => signed reference (List.mem_cons_of_mem _ member)]
  exact same each exact'

omit [Libraries] in
theorem invoice_transported (signal : SignalMessage) (request : Dict String String × Bytes) :
    letI := undoing (exchangeDocuments signal)
    unpackMessage (payloadFromRequest request.1 request.2) =
      .ok (plainText invoiceMessageDocument, (invoiceMessage (exchangeDocuments signal)).mimeAttachments) := by
  have bare : stripBrackets ("<" ++ invoiceAttachment.1 ++ ">") = invoiceAttachment.1 := by decide +kernel
  have named : invoiceAttachment.1 ≠ "" := by decide
  let _ := undoing (exchangeDocuments signal)
  let encrypted := invoiceDraws.nonce ++
    (invoiceDraws.sessionKey ++ invoiceDraws.nonce ++ (31 :: 139 :: plainText invoiceDocument))
  have read : parseMime (payloadFromRequest request.1 request.2) =
      .ok (.part "application/soap+xml" none (some (plainText invoiceMessageDocument)) [],
        .part "application/octet-stream" (some ("<" ++ invoiceAttachment.1 ++ ">")) (some encrypted) []) := by
    have parts : Libraries.parseMime (payloadFromRequest request.1 request.2) =
        .part "multipart/related" none none
          [.part "application/soap+xml" none (some (plainText invoiceMessageDocument)) [],
           .part "application/octet-stream" (some ("<" ++ invoiceAttachment.1 ++ ">")) (some encrypted) []] := rfl
    simp [parseMime, parts, findPart, findPartIn]
  simp only [unpackMessage, read, partContent, partContentId, Option.map_some, Option.getD_some, bare, named, if_false, bind,
    Except.bind, pure, Except.pure]
  rfl

omit [Libraries] in
/-- The invoice is answered by a signal that accepts it. -/
theorem invoice_acknowledged (documents : List Node)
    (listed : documents.find? (fun document => plainText document == plainText invoiceRoot) = some invoiceRoot)
    (written : documents.find? (fun document => plainText document == plainText invoiceDocument) = some invoiceDocument)
    (posted : documents.find? (fun document => plainText document == plainText invoiceMessageDocument) =
      some invoiceMessageDocument)
    {message : @AS4Message (undoing documents)}
    (parsed : letI := undoing documents
      parse .peppol (invoiceContext documents none) (plainText invoiceMessageDocument)
        (invoiceMessage documents).mimeAttachments = .ok message) :
    letI := undoing documents
    signalFor message RecordedExchange.answerReferences RecordedExchange.answerTime = acceptedSignal := by
  have faithful : ∀ envelope, @AS4Message.soapEnvelope (undoing documents) (invoiceMessage documents) = some envelope →
      @Libraries.parseXml (undoing documents) (@envelopeBytes (undoing documents) envelope) =
        some ((@Envelope.codec (undoing documents)).element (soap12 "Envelope") envelope) := by
    intro envelope carried
    obtain rfl := Option.some.inj carried
    exact posted
  obtain ⟨_, envelope', stored, reread, read⟩ := @built_reads (undoing documents) (invoiceContext documents none)
    (invoiceSender documents) (remoteRecipient documents) RecordedExchange.builderArgs invoiceReferences freshReferences
    invoiceDraws (plainText invoiceRoot) (invoiceMessage documents) "Invoice" invoiceAttachment.1 invoiceAttachment.2
    invoiceRoot (fun _ => rfl) (fun _ => List.cons_ne_nil _ _) (invoice_deliverable documents none listed written)
    (invoice_builds documents listed) rfl faithful
  obtain rfl := Option.some.inj stored
  obtain rfl := Except.ok.inj (read.symm.trans parsed)
  have holds : @AS4Message.soapEnvelope (undoing documents) (@asReceived (undoing documents) (invoiceSender documents)
      (remoteRecipient documents) RecordedExchange.builderArgs (invoiceMessage documents) envelope') = some envelope' := rfl
  have references := invoice_references_read documents _ holds reread
  exact congrArg (fun references => getSuccessSignalMessage invoiceReferences.messageId references
    RecordedExchange.answerReferences RecordedExchange.answerTime) references

omit [Libraries] in
theorem answers_fresh : FreshBeside RecordedExchange.answerReferences invoiceReferences invoiceAttachment.2 :=
  ⟨by decide, by decide, by decide, by decide⟩

omit [Libraries] in
theorem invoice_answering (documents : List Node) :
    letI := undoing documents
    Answering (invoiceReceiving documents) invoiceReferences invoiceAttachment.2 RecordedExchange.answerTime := by
  let _ := undoing documents
  refine ⟨fun data value signed => ?_, fun data => ⟨_, rfl⟩, answers_fresh,
    undoing_stamps documents (AcceptedDelivery.recorded_stamps documents).1⟩
  obtain rfl := Except.ok.inj signed
  exact ⟨List.cons_ne_nil _ _, ⟨[48, 2]⟩, rfl, beq_self_eq_true _⟩

omit [Libraries] in
/-- The exchange of the invoice is carried as it is written, whatever its one answer is. -/
theorem invoice_faithful (signal : SignalMessage) (accept : Option (String → Except PyError Unit))
    (request : Dict String String × Bytes)
    (answers : letI := undoing (exchangeDocuments signal)
      ∀ message, parse .peppol (invoiceContext (exchangeDocuments signal) accept) (plainText invoiceMessageDocument)
          (invoiceMessage (exchangeDocuments signal)).mimeAttachments = .ok message →
        signalFor message RecordedExchange.answerReferences RecordedExchange.answerTime = signal) :
    letI := undoing (exchangeDocuments signal)
    Faithful (invoiceReceiving (exchangeDocuments signal)) (invoiceSent (exchangeDocuments signal)) request accept
      (invoicePolicy (exchangeDocuments signal)) RecordedExchange.answerTime := by
  let _ := undoing (exchangeDocuments signal)
  obtain ⟨-, -, posted⟩ := @invoices_listed [recipientDocument signal]
  refine ⟨?_, ?_, ?_⟩
  · rintro _ _ ⟨⟩ ⟨⟩
    exact invoice_transported signal request
  · rintro _ _ ⟨⟩ ⟨⟩
    exact posted
  · intro message receipt envelope read made carried
    have transported := invoice_transported signal request
    simp only [parseMessage, transported] at read
    have signals := answers message read
    have built := recipientAnswer_made (exchangeDocuments signal) signal
    simp only [forMessage, bind_ok, pure_ok] at made
    obtain ⟨envelope', built', rfl⟩ := made
    obtain rfl := Option.some.inj carried
    have same : recipientAnswer signal = envelope' := by
      have made := signals ▸ built'
      exact Except.ok.inj (built.symm.trans made)
    subst same
    exact exchange_listed signal

end Invoices

section Ends
variable {sending sent : AS4SendingExchange} {receiving : AS4ReceivingExchange} {payload : Bytes}
  {args : PeppolAS4MessageBuilderArgs} {draws : Draws} {request : Dict String String × Bytes}
  {accept : Option (String → Except PyError Unit)} {policy : SecurityPolicy} {now : Datetime}
  {attachmentId dataId name : String} {root : Node}

/-- What one party builds is taken in by the other as it was built, and answered by a
receipt for it. -/
theorem built_answered {message : AS4Message} (placeFree : PlaceFree) (hashes : ∀ data, Libraries.digest .sha256 data ≠ [])
    (forms : ∀ element, ∃ form, Libraries.canonicalForm (.root element) [] = some form)
    (made : buildMessage payload sending.localParty sending.remoteParty args draws sending.identifiers =
      .ok message sent.identifiers) (carried : sent.message = some message)
    (deliverable : Deliverable (contextOf receiving accept policy) sending.localParty sending.remoteParty args draws payload
      sent.identifiers attachmentId dataId name root)
    (services : acceptRecipient (contextOf receiving accept policy) (strip args.recipient) = .ok ())
    (answering : Answering receiving sent.identifiers dataId now) (faithful : Faithful receiving sent request accept policy now)
    (trimmed : strip message.messageId = message.messageId) :
    message.messageId ≠ "" ∧ ∃ envelope' remoteParty receipt headers data receipt',
      let received := asReceived sending.localParty sending.remoteParty args message envelope'
      received.signedReferences = message.signedReferences ∧
        receive receiving request.1 request.2 accept policy now = .ok (takenIn receiving received remoteParty receipt) ∧
          buildSignal (takenIn receiving received remoteParty receipt) = .ok (headers, data) ∧
            AS4Receipt.parse data sending.remoteParty.credentials.certificate = .ok receipt' ∧
              SaysWhatWasMeant received receipt' ∧ CarriesReceipt receipt' ∧ receipt'.errors = .ok [] := by
  obtain ⟨envelope, envelope', stored, reread, parsed⟩ :=
    built_reads placeFree hashes deliverable made services fun envelope => faithful.written message envelope carried
  -- A receipt repeats references as they were read, so each has to be readable once more.
  have rereadable : ∀ reference ∈ (asReceived sending.localParty sending.remoteParty args message envelope').signatureReferences,
      Rereadable reference := by
    intro reference member
    obtain ⟨old, inside, _, read⟩ := forall₂_source (signatureReferences_rereads stored rfl reread) member
    obtain ⟨digested, transformed⟩ := built_references placeFree hashes deliverable made inside
    exact reread_rereadable digested transformed read
  have known : message.messageId ≠ "" := by
    intro empty
    rw [built_messageId placeFree hashes deliverable made] at empty
    exact deliverable.worded.messageId (by rw [empty]; rfl)
  obtain ⟨remoteParty, receipt, headers, data, receipt', taken, written, accepted, meant, sound⟩ :=
    delivered_answered placeFree hashes forms deliverable made carried stored answering faithful reread parsed rfl rfl
      ⟨trimmed, rereadable⟩
  obtain ⟨carries, faultless⟩ := sound rfl
  have same := signedReferences_reread stored
    (show (asReceived sending.localParty sending.remoteParty args message envelope').soapEnvelope = _ from rfl) reread
  exact ⟨known, envelope', remoteParty, receipt, headers, data, receipt', same, taken, written, accepted, meant, carries,
    faultless⟩

/-- What one party builds is taken in by the other, whose answer acknowledges it to every
exchange that waits for it. -/
theorem built_acknowledged (placeFree : PlaceFree) (hashes : ∀ data, Libraries.digest .sha256 data ≠ [])
    (forms : ∀ element, ∃ form, Libraries.canonicalForm (.root element) [] = some form)
    (built : build (peppolBuilder payload args draws) draws sending = .ok request sent)
    (deliverable : Deliverable (contextOf receiving accept policy) sending.localParty sending.remoteParty args draws payload
      sent.identifiers attachmentId dataId name root)
    (services : acceptRecipient (contextOf receiving accept policy) (strip args.recipient) = .ok ())
    (answering : Answering receiving sent.identifiers dataId now) (faithful : Faithful receiving sent request accept policy now)
    (trimmed : strip sent.messageId = sent.messageId) :
    sent.messageId ≠ "" ∧ sent.remoteParty = sending.remoteParty ∧ ∃ received headers data receipt,
      receive receiving request.1 request.2 accept policy now = .ok received ∧ received.state = .received ∧
        received.messageId = sent.messageId ∧ received.signedReferences = sent.signedReferences ∧
          buildSignal received = .ok (headers, data) ∧ ∀ exchange, exchange.remoteParty = sent.remoteParty →
            exchange.messageId = sent.messageId → exchange.signedReferences = sent.signedReferences → AsksForSent exchange →
              receiveSignal data exchange = .ok () { exchange with receipt := some receipt, state := .acknowledged } := by
  obtain ⟨message, made, carried, named, signed, remote⟩ := build_parts built
  obtain ⟨known, envelope', remoteParty, receipt, headers, data, receipt', same, taken, written, accepted, meant, carries,
    faultless⟩ := built_answered placeFree hashes forms made carried deliverable services answering faithful (named ▸ trimmed)
  refine ⟨named ▸ known, remote, _, headers, data, receipt', taken, rfl, named.symm, same.trans signed.symm, written, ?_⟩
  intro exchange party waits sends asks
  have certified : exchange.remoteParty = sending.remoteParty := party.trans remote
  exact signal_acknowledges exchange (certified ▸ accepted) meant rfl known (named.symm.trans waits.symm)
    (same.trans (signed.symm.trans sends.symm)) carries faultless asks

/-- An exchange runs to its end: what one party builds is taken in by the other, which
answers it, and the answer acknowledges what was built. -/
theorem exchange_completes (placeFree : PlaceFree) (hashes : ∀ data, Libraries.digest .sha256 data ≠ [])
    (forms : ∀ element, ∃ form, Libraries.canonicalForm (.root element) [] = some form)
    (built : build (peppolBuilder payload args draws) draws sending = .ok request sent)
    (deliverable : Deliverable (contextOf receiving accept policy) sending.localParty sending.remoteParty args draws payload
      sent.identifiers attachmentId dataId name root)
    (services : acceptRecipient (contextOf receiving accept policy) (strip args.recipient) = .ok ())
    (answering : Answering receiving sent.identifiers dataId now) (faithful : Faithful receiving sent request accept policy now)
    (trimmed : strip sent.messageId = sent.messageId) (asks : AsksForSent sent) :
    ∃ received headers data settled,
      receive receiving request.1 request.2 accept policy now = .ok received ∧ received.state = .received ∧
        received.messageId = sent.messageId ∧ received.signedReferences = sent.signedReferences ∧
          buildSignal received = .ok (headers, data) ∧ receiveSignal data (markSent sent) = .ok () settled ∧
            settled.state = .acknowledged := by
  obtain ⟨-, -, received, headers, data, receipt, taken, state, named, signed, written, settles⟩ :=
    built_acknowledged placeFree hashes forms built deliverable services answering faithful trimmed
  exact ⟨received, headers, data, _, taken, state, named, signed, written, settles (markSent sent) rfl rfl rfl asks, rfl⟩

omit [Libraries] in
/-- The invoice is built, taken in and acknowledged. -/
theorem invoice_exchange_completes :
    let documents := exchangeDocuments acceptedSignal
    letI := undoing documents
    ∃ request received headers data settled,
      build (peppolBuilder (plainText invoiceRoot) RecordedExchange.builderArgs invoiceDraws) invoiceDraws
          (invoiceSending documents) = .ok request (invoiceSent documents) ∧
        receive (invoiceReceiving documents) request.1 request.2 none (invoicePolicy documents) RecordedExchange.answerTime =
            .ok received ∧ received.state = .received ∧ received.messageId = (invoiceSent documents).messageId ∧
          received.signedReferences = (invoiceSent documents).signedReferences ∧
            buildSignal received = .ok (headers, data) ∧
              receiveSignal data (markSent (invoiceSent documents)) = .ok () settled ∧ settled.state = .acknowledged := by
  intro documents
  let _ := undoing documents
  obtain ⟨listed, written, posted⟩ := @invoices_listed [recipientDocument acceptedSignal]
  obtain ⟨request, built⟩ := invoice_built documents listed
  have made := invoice_builds documents listed
  have deliverable : Deliverable (contextOf (invoiceReceiving documents) none (invoicePolicy documents))
      (invoiceSending documents).localParty (invoiceSending documents).remoteParty RecordedExchange.builderArgs invoiceDraws
      (plainText invoiceRoot) (invoiceSent documents).identifiers invoiceAttachment.1 invoiceAttachment.2 "Invoice"
      invoiceRoot := invoice_deliverable documents none listed written
  have faithful := invoice_faithful acceptedSignal none request fun message parsed =>
    invoice_acknowledged documents listed written posted parsed
  obtain ⟨received, headers, data, settled, taken, state, named, signed, answered, settles, acknowledged⟩ :=
    exchange_completes (fun _ => rfl) (fun _ => List.cons_ne_nil _ _) (fun _ => ⟨_, rfl⟩) built deliverable rfl
      (invoice_answering documents) faithful (by decide) fun required given => nomatch given
  exact ⟨request, received, headers, data, settled, built, taken, state, named, signed, answered, settles, acknowledged⟩

/-- An exchange ends on both sides alike where the recipient is not serviced: the receiver
rejects the message, and the sender learns that it did, and why. -/
theorem exchange_refused (placeFree : PlaceFree) (hashes : ∀ data, Libraries.digest .sha256 data ≠ [])
    (forms : ∀ element, ∃ form, Libraries.canonicalForm (.root element) [] = some form)
    (built : build (peppolBuilder payload args draws) draws sending = .ok request sent)
    (deliverable : Deliverable (contextOf receiving accept policy) sending.localParty sending.remoteParty args draws payload
      sent.identifiers attachmentId dataId name root)
    (refused : acceptRecipient (contextOf receiving accept policy) (strip args.recipient) =
      .error (.receiptable peppolNotServiced.new))
    (answering : Answering receiving sent.identifiers dataId now) (faithful : Faithful receiving sent request accept policy now)
    (trimmed : strip sent.messageId = sent.messageId) :
    ∃ received headers data settled receipt error,
      receive receiving request.1 request.2 accept policy now = .ok received ∧ received.state = .rejected ∧
        received.messageId = sent.messageId ∧ buildSignal received = .ok (headers, data) ∧
          receiveSignal data (markSent sent) = .ok () settled ∧ settled.state = .rejected ∧
            settled.receipt = some receipt ∧ receipt.error = .ok (some error) ∧
              SaysError error peppolNotServiced.new := by
  obtain ⟨message, made, carried, named, -, remote⟩ := build_parts built
  obtain ⟨envelope, envelope', answered, stored, reread, parsed, raised, same, holds, signer⟩ :=
    built_refused placeFree hashes deliverable made refused fun envelope => faithful.written message envelope carried
  have known : message.messageId ≠ "" := by
    intro empty
    rw [built_messageId placeFree hashes deliverable made] at empty
    exact deliverable.worded.messageId (by rw [empty]; rfl)
  have survives : Survives answered := by
    refine ⟨same ▸ named ▸ trimmed, ?_⟩
    simpa only [raised] using notServiced_trimmed
  obtain ⟨remoteParty, receipt, headers, data, receipt', taken, written, accepted, meant, -⟩ :=
    delivered_answered placeFree hashes forms deliverable made carried stored answering faithful reread parsed holds signer
      survives
  obtain ⟨rejects, error, first, told⟩ := signal_rejects (markSent sent) (remote ▸ accepted) meant raised
    (same ▸ known) (same.trans named.symm)
  refine ⟨_, headers, data, _, receipt', error, taken, ?_, same.trans named.symm, written, rejects, rfl, rfl, first, told⟩
  simp [takenIn, raised]

/-- An access point that services nobody. -/
def serviceNone (_ : String) : Except PyError Unit := .error .participantNotServiced

omit [Libraries] in
/-- The invoice is refused for its recipient, and its sender learns so. -/
theorem invoice_exchange_refused :
    let documents := exchangeDocuments refusedSignal
    letI := undoing documents
    ∃ request received headers data settled receipt error,
      build (peppolBuilder (plainText invoiceRoot) RecordedExchange.builderArgs invoiceDraws) invoiceDraws
          (invoiceSending documents) = .ok request (invoiceSent documents) ∧
        receive (invoiceReceiving documents) request.1 request.2 (some serviceNone) (invoicePolicy documents)
            RecordedExchange.answerTime = .ok received ∧ received.state = .rejected ∧
          received.messageId = (invoiceSent documents).messageId ∧ buildSignal received = .ok (headers, data) ∧
            receiveSignal data (markSent (invoiceSent documents)) = .ok () settled ∧ settled.state = .rejected ∧
              settled.receipt = some receipt ∧ receipt.error = .ok (some error) ∧
                SaysError error peppolNotServiced.new := by
  intro documents
  let _ := undoing documents
  obtain ⟨listed, written, posted⟩ := @invoices_listed [recipientDocument refusedSignal]
  obtain ⟨request, built⟩ := invoice_built documents listed
  have made := invoice_builds documents listed
  have deliverable : Deliverable (contextOf (invoiceReceiving documents) (some serviceNone) (invoicePolicy documents))
      (invoiceSending documents).localParty (invoiceSending documents).remoteParty RecordedExchange.builderArgs invoiceDraws
      (plainText invoiceRoot) (invoiceSent documents).identifiers invoiceAttachment.1 invoiceAttachment.2 "Invoice"
      invoiceRoot := invoice_deliverable documents (some serviceNone) listed written
  have faithful := invoice_faithful refusedSignal (some serviceNone) request fun message parsed => by
    obtain ⟨envelope, envelope', received, ⟨⟩, -, read, raised, same, -⟩ := built_refused (fun _ => rfl)
      (fun _ => List.cons_ne_nil _ _) deliverable made rfl fun envelope carried => by
        obtain rfl := Option.some.inj carried
        exact posted
    obtain rfl := Except.ok.inj (read.symm.trans parsed)
    simp only [signalFor, raised, same]
    rfl
  obtain ⟨received, headers, data, settled, receipt, error, taken, state, named, answered, settles, rejected, kept, first,
      told⟩ := exchange_refused (fun _ => rfl) (fun _ => List.cons_ne_nil _ _) (fun _ => ⟨_, rfl⟩) built deliverable rfl
    (invoice_answering documents) faithful (by decide)
  exact ⟨request, received, headers, data, settled, receipt, error, built, taken, state, named, answered, settles, rejected,
    kept, first, told⟩

end Ends

end CompletedExchanges
