import AS4.MessageBuilding

/-!
The two sides of an exchange. A sending exchange builds and sends a message and
takes in the signal that answers it; a receiving exchange parses a message and
answers it. Both keep their state and their evidence side by side.
-/

namespace Exchange
open ElementTree ElementCodec FallibleSteps PythonData AS4Libraries AS4Errors SignatureModel MessagingModel
  EnvelopeModel Verification MessageParsing ReceiptVerification SignalBuilding MessageBuilding

section Unpacking

/-! The first part with a content type, looking into multiparts. -/
mutual
def findPart (contentType : String) : MimePart → Option MimePart
  | .part found contentId payload parts =>
      if found = "multipart/related" then findPartIn contentType parts
      else if found = contentType then some (.part found contentId payload parts)
      else none

def findPartIn (contentType : String) : List MimePart → Option MimePart
  | [] => none
  | part :: rest =>
      match findPart contentType part with
      | some found => some found
      | none => findPartIn contentType rest
end

/-- `s.strip().strip("<>")` -/
def stripBrackets (s : String) : String :=
  String.ofList (((strip s).toList.dropWhile fun c => c == '<' || c == '>').rdropWhile fun c => c == '<' || c == '>')

def partContent : MimePart → Option Bytes
  | .part _ _ payload _ => payload

def partContentId : MimePart → Option String
  | .part _ contentId _ _ => contentId.map stripBrackets

def utf8 (s : String) : Bytes := s.toUTF8.data.toList

/-- `payload_from_request`: the headers put back in front of the body. -/
def payloadFromRequest (requestHeaders : Dict String String) (requestBody : Bytes) : Bytes :=
  requestHeaders.flatMap (fun header => utf8 s!"{header.1}: {header.2}" ++ [13, 10]) ++ [13, 10] ++ requestBody

variable [Libraries]

/-- `MIMEHandler.parse` -/
def parseMime (message : Bytes) : Except PyError (MimePart × MimePart) :=
  let parsed := Libraries.parseMime message
  match findPart "application/soap+xml" parsed with
  | none => raise soapPartNotFound.new
  | some soapPart =>
      match findPart "application/octet-stream" parsed with
      | none => raise payloadPartNotFound.new
      | some encryptedPart => .ok (soapPart, encryptedPart)

/-- `unpack_message` -/
def unpackMessage (payload : Bytes) : Except PyError (Bytes × Dict String Bytes) := do
  let (soapPart, encryptedPart) ← parseMime payload
  match partContent soapPart with
  | none => raise (soapPartNotFound.new "SOAP part carries no decodable content")
  | some soapData =>
      match partContent encryptedPart with
      | none => raise (payloadPartNotFound.new "Payload part carries no decodable content")
      | some encryptedBytes =>
          let contentId := (partContentId encryptedPart).getD ""
          if contentId = "" then raise (payloadPartNotFound.new "Payload part carries no Content-ID header")
          else return (soapData, [(contentId, encryptedBytes)])

/-- `parse_message` of the profile -/
def parseMessage (payload : Bytes) (context : AS4ParseContext) : Except PyError AS4Message :=
  match unpackMessage payload with
  | .ok (soapBytes, mimeAttachments) => parse .peppol context soapBytes mimeAttachments
  | .error (.receiptable error) => .ok { parseError := some error }
  | .error raised => .error raised

end Unpacking

inductive ExchangeState where
  | created
  | built
  | sent
  | received
  | acknowledged
  | rejected
  | failed
  deriving DecidableEq, Repr

section Receiving
variable [Libraries]

structure AS4ReceivingExchange where
  localParty : AS4InternalParty
  remoteParty : Option AS4ExternalParty := none
  messageId : String := ""
  messagingId : String := ""
  identifiers : AS4References
  state : ExchangeState := .created
  signedReferences : List ComparableReferenceFields := []
  message : Option AS4Message := none
  receipt : Option AS4Receipt := none

/-- The sender stays unknown when the message did not get far enough. -/
def suppressed : PyError → Bool
  | .remotePartyNotVerified => true
  | .receiptable error => error.errorClass == userMessageNotFound
  | _ => false

def remotePartyOf (exchange : AS4ReceivingExchange) (message : AS4Message) :
    Except PyError (Option AS4ExternalParty) :=
  match message.getRemoteParty with
  | .ok party => .ok (some party)
  | .error raised => if suppressed raised then .ok exchange.remoteParty else .error raised

/-- `receive_message`. The signal is made before any field is set. -/
def receiveMessage (exchange : AS4ReceivingExchange) (message : AS4Message) (now : Datetime) :
    Except PyError AS4ReceivingExchange := do
  let remoteParty ← remotePartyOf exchange message
  let receipt ← forMessage message exchange.localParty exchange.identifiers now
  return { exchange with
    message := some message
    messageId := message.messageId
    messagingId := message.messagingId
    signedReferences := message.signedReferences
    remoteParty := remoteParty
    receipt := some receipt
    state := if message.parseError.isSome then .rejected else .received }

/-- `receive` -/
def receive (exchange : AS4ReceivingExchange) (requestHeaders : Dict String String) (requestBody : Bytes)
    (acceptParticipant : Option (String → Except PyError Unit)) (securityPolicy : SecurityPolicy) (now : Datetime) :
    Except PyError AS4ReceivingExchange := do
  let context : AS4ParseContext :=
    { localParty := exchange.localParty, acceptParticipant := acceptParticipant, securityPolicy := securityPolicy }
  let message ← parseMessage (payloadFromRequest requestHeaders requestBody) context
  receiveMessage exchange message now

/-- `build_signal` -/
def buildSignal (exchange : AS4ReceivingExchange) : Except PyError (Dict String String × Bytes) :=
  match exchange.receipt with
  | none => .error (.valueError "Exchange has no signal to send; nothing has been received yet")
  | some receipt => getRequestData receipt

end Receiving

section Sending
variable [Libraries]

structure AS4SendingExchange where
  localParty : AS4InternalParty
  remoteParty : AS4ExternalParty
  messageId : String := ""
  messagingId : String := ""
  identifiers : AS4References
  state : ExchangeState := .created
  signedReferences : List ComparableReferenceFields := []
  requiredReferences : Option (List ComparableReferenceFields) := none
  message : Option AS4Message := none
  receipt : Option AS4Receipt := none

/-- `default_message_ids_from_identifiers`, which runs whenever one is validated. -/
def defaultMessageIds (exchange : AS4SendingExchange) : AS4SendingExchange :=
  { exchange with
    messageId := if exchange.messageId = "" then exchange.identifiers.messageId else exchange.messageId
    messagingId := if exchange.messagingId = "" then exchange.identifiers.messagingId else exchange.messagingId }

/-- A newly constructed exchange. Message ids left empty come from the identifiers. -/
def AS4SendingExchange.new (localParty : AS4InternalParty) (remoteParty : AS4ExternalParty)
    (identifiers : AS4References) (requiredReferences : Option (List ComparableReferenceFields))
    (messageId messagingId : String := "") : AS4SendingExchange :=
  defaultMessageIds
    { localParty := localParty, remoteParty := remoteParty, messageId := messageId, messagingId := messagingId,
      identifiers := identifiers, requiredReferences := requiredReferences }

/-- What a profile's `build_message` does, for some payload and arguments. -/
abbrev MessageBuilder := AS4InternalParty → AS4ExternalParty → Build AS4Message

/-- `build`. The identifiers may have gained the attachment mapping when it raises. -/
def build (builder : MessageBuilder) (draws : Draws) : EStateM PyError AS4SendingExchange (Dict String String × Bytes) :=
  fun exchange =>
    match builder exchange.localParty exchange.remoteParty exchange.identifiers with
    | .error raised identifiers => .error raised { exchange with identifiers := identifiers }
    | .ok message identifiers =>
        match requestData message draws with
        | .error raised => .error raised { exchange with identifiers := identifiers }
        | .ok request =>
            .ok request { exchange with
              identifiers := identifiers
              message := some message
              messageId := message.messageId
              messagingId := message.messagingId
              signedReferences := message.signedReferences
              state := .built }

/-- `mark_sent` -/
def markSent (exchange : AS4SendingExchange) : AS4SendingExchange := { exchange with state := .sent }

/-- What `receive_signal` makes of a receipt it could parse: the state to record,
and what is raised afterwards. -/
def verdict (exchange : AS4SendingExchange) (receipt : AS4Receipt) : Except PyError (ExchangeState × Option PyError) := do
  let error ← receipt.error
  if error.isSome then return (.rejected, none)
  else
    match receipt.verifyNonRepudiation exchange.signedReferences exchange.requiredReferences with
    | .ok _ => return (.acknowledged, none)
    | .error (.receiptVerification message) => return (.failed, some (.receiptVerification message))
    | .error raised => .error raised

def requireSameMessage (exchange : AS4SendingExchange) (receipt : AS4Receipt) : Except PyError Unit :=
  if receipt.originalMessageId ≠ some exchange.messageId then
    refuse s!"Signal refers to {reprOptional receipt.originalMessageId}, not to this exchange's {Libraries.repr exchange.messageId}"
  else .ok ()

def judgeSignal (exchange : AS4SendingExchange) (signalData : Bytes) :
    Except PyError (AS4Receipt × ExchangeState × Option PyError) := do
  let receipt ← AS4Receipt.parse signalData exchange.remoteParty.credentials.certificate
  requireSameMessage exchange receipt
  let (state, unproven) ← verdict exchange receipt
  return (receipt, state, unproven)

/-- `receive_signal`. The receipt and the state are recorded before an unproven
signal raises. -/
def receiveSignal (signalData : Bytes) : EStateM PyError AS4SendingExchange PUnit := fun exchange =>
  match judgeSignal exchange signalData with
  | .error raised => .error raised exchange
  | .ok (receipt, state, unproven) =>
      let recorded := { exchange with receipt := some receipt, state := state }
      match unproven with
      | some raised => .error raised recorded
      | none => .ok () recorded

end Sending

section Restoring
variable [Libraries]

/-- What dumping a message to JSON and validating it again gives. -/
def reloadMessage (message : AS4Message) : Option AS4Message :=
  match message.soapEnvelope with
  | none => some message
  | some envelope => (Envelope.codec.reload envelope).map fun envelope =>
      { message with soapEnvelope := some envelope }

def reloadReceipt (receipt : AS4Receipt) : Option AS4Receipt :=
  match receipt.soapEnvelope with
  | none => some receipt
  | some envelope => (Envelope.codec.reload envelope).map fun envelope =>
      { receipt with soapEnvelope := some envelope }

/-- A field that may hold nothing. -/
def reloadOptional {α : Type} (reload : α → Option α) : Option α → Option (Option α)
  | none => some none
  | some value => (reload value).map some

/-- `restore(dump(exchange), local_party)`: the dump holds everything but the local
credentials and the elements records were read from. -/
def restore (exchange : AS4SendingExchange) (localParty : AS4InternalParty) : Except PyError AS4SendingExchange :=
  if exchange.localParty.identity.partyId ≠ localParty.identity.partyId then
    .error (.mismatchedLocalParty exchange.localParty.identity.partyId localParty.identity.partyId)
  else
    match reloadOptional reloadMessage exchange.message, reloadOptional reloadReceipt exchange.receipt with
    | some message, some receipt =>
        .ok (defaultMessageIds { exchange with localParty := localParty, message := message, receipt := receipt })
    | _, _ => .error (.validationError ⟨[], .invalid "a stored list is empty"⟩)

/-- The same for a receiving exchange, which has no identifiers to fall back on. -/
def restoreReceiving (exchange : AS4ReceivingExchange) (localParty : AS4InternalParty) :
    Except PyError AS4ReceivingExchange :=
  if exchange.localParty.identity.partyId ≠ localParty.identity.partyId then
    .error (.mismatchedLocalParty exchange.localParty.identity.partyId localParty.identity.partyId)
  else
    match reloadOptional reloadMessage exchange.message, reloadOptional reloadReceipt exchange.receipt with
    | some message, some receipt =>
        .ok { exchange with localParty := localParty, message := message, receipt := receipt }
    | _, _ => .error (.validationError ⟨[], .invalid "a stored list is empty"⟩)

end Restoring

end Exchange
