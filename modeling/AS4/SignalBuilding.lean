import AS4.ReceiptVerification

/-!
Outbound signals: the receipt or error signal that answers a message, signed by
the local party, and the bytes it is sent as.
-/

namespace SignalBuilding
open ElementTree ElementCodec FallibleSteps PythonData AS4Libraries AS4Errors SignatureModel MessagingModel
  EnvelopeModel Verification MessageParsing ReceiptVerification

section Constants

def xmlencSha256 : String := "http://www.w3.org/2001/04/xmlenc#sha256"

def dsigRsaSha256 : String := "http://www.w3.org/2001/04/xmldsig-more#rsa-sha256"

def base64Binary : String :=
  "http://docs.oasis-open.org/wss/2004/01/oasis-200401-wss-soap-message-security-1.0#Base64Binary"

end Constants

section Signing
variable [Libraries]

/-- `Reference.for_bytes`, and the second half of `Reference.for_element`. -/
def referenceForBytes (uri : String) (content : Bytes) (transformAlgorithm : String) : Except PyError DsigReference := do
  let digest ← computeDigest xmlencSha256 content
  return {
    transforms := ⟨[{ algorithm := some transformAlgorithm }]⟩
    digestMethod := ⟨xmlencSha256⟩
    digestValue := ⟨digest⟩
    uri := some uri }

/-- `Reference.for_element`, on an element that stands alone. -/
def referenceForElement (uri : String) (element : Node) : Except PyError DsigReference := do
  let form ← canonicalize (.root element) []
  referenceForBytes uri form exclusiveC14N

def getMessagingDigestReference (references : AS4References) (messaging : Messaging) : Except PyError DsigReference :=
  referenceForElement s!"#{references.messagingId}" (Messaging.codec.element (eb3 "Messaging") messaging)

def getBodyDigestReference (references : AS4References) (body : Body) : Except PyError DsigReference :=
  referenceForElement s!"#{references.bodyId}" (Body.codec.element (soap12 "Body") body)

/-- The signed info of every message the library builds. -/
def signedInfoOver (references : List DsigReference) : SignedInfo where
  canonicalizationMethod := { algorithm := some exclusiveC14N }
  signatureMethod := { algorithm := dsigRsaSha256 }
  references := references

def getLocalBinarySecurityToken (localParty : AS4InternalParty) (references : AS4References) : BinarySecurityToken where
  encodingType := base64Binary
  valueType := x509V3
  bstId := references.signatureBstId
  value := Base64.b64encode localParty.credentials.certificate.der

/-- `get_signature`. The value is given in Base64 and decoded again when the
record is made. -/
def getSignature (localParty : AS4InternalParty) (references : AS4References) (signedInfo : SignedInfo) :
    Except PyError Signature := do
  let element := Located.root (SignedInfo.codec.element (ds "SignedInfo") signedInfo)
  let signedInfo := { signedInfo with etreeElement := some element }
  let canonicalised ← signedInfoCanonicalized signedInfo
  let signatureBytes ← localParty.credentials.privateKey.sign canonicalised
  return {
    signedInfo := signedInfo
    signatureValue := { value := some signatureBytes }
    keyInfo :=
      { keyInfoId := some references.keyInfoId
        securityTokenReference :=
          [{ securityTokenReferenceId := some references.signatureSecurityTokenReferenceId
             reference := { uri := some s!"#{references.signatureBstId}", valueType := some x509V3 } }] }
    signatureId := some references.signatureId }

end Signing

section Signals
variable [Libraries]

def receiptMessaging (references : AS4References) (signal : SignalMessage) : Messaging where
  signalMessages := [signal]
  messagingId := some references.messagingId
  mustUnderstand := some true

def getSuccessSignalMessage (referencedMessageId : String) (nonRepudiatedReferences : List DsigReference)
    (references : AS4References) (now : Datetime) : SignalMessage where
  messageInfo :=
    { timestamp := now, messageId := references.messageId, refToMessageId := some referencedMessageId }
  receipt := some
    { nonRepudiationInformation := some ⟨nonRepudiatedReferences.map fun reference => ⟨[reference]⟩⟩ }

/-- An unknown message id is left out. -/
def knownMessageId (messageId : String) : Option String := if messageId = "" then none else some messageId

def errorOf (exception : BaseAS4ReceiptableError) (referencedMessageId : String) : MessagingModel.Error where
  description := some { value := exception.errorClass.description }
  errorDetail := some exception.detail
  category := some exception.errorClass.category
  refToMessageInError := knownMessageId referencedMessageId
  errorCode := exception.errorClass.errorCode
  severity := exception.errorClass.severity
  shortDescription := some exception.errorClass.shortDescription

def getErrorSignalMessage (exception : BaseAS4ReceiptableError) (referencedMessageId : String)
    (references : AS4References) (now : Datetime) : SignalMessage where
  messageInfo :=
    { timestamp := now, messageId := references.messageId, refToMessageId := knownMessageId referencedMessageId }
  errors := [errorOf exception referencedMessageId]

/-- `get_success_soap_envelope` and `get_error_soap_envelope`, which only differ in
the signal. -/
def signalSoapEnvelope (localParty : AS4InternalParty) (references : AS4References) (signal : SignalMessage) :
    Except PyError Envelope := do
  let messaging := receiptMessaging references signal
  let body : Body := { bodyId := some references.bodyId }
  let messagingReference ← getMessagingDigestReference references messaging
  let bodyReference ← getBodyDigestReference references body
  let signature ← getSignature localParty references (signedInfoOver [messagingReference, bodyReference])
  return {
    header :=
      { security :=
          { binarySecurityTokens := [getLocalBinarySecurityToken localParty references]
            signature := some signature }
        messaging := messaging }
    body := body }

def signalFor (message : AS4Message) (references : AS4References) (now : Datetime) : SignalMessage :=
  match message.parseError with
  | some exception => getErrorSignalMessage exception message.messageId references now
  | none => getSuccessSignalMessage message.messageId message.signatureReferences references now

/-- `AS4Receipt.for_message` -/
def forMessage (message : AS4Message) (localParty : AS4InternalParty) (references : AS4References)
    (now : Datetime) : Except PyError AS4Receipt := do
  let envelope ← signalSoapEnvelope localParty references (signalFor message references now)
  return { soapEnvelope := some envelope, references := some references }

/-- A signal is made for every message, where elements have a canonical form and the
local party can sign. -/
theorem forMessage_makes {localParty : AS4InternalParty}
    (forms : ∀ element, ∃ form, Libraries.canonicalForm (.root element) [] = some form)
    (signs : ∀ data, ∃ value, localParty.credentials.privateKey.sign data = .ok value)
    (message : AS4Message) (references : AS4References) (now : Datetime) :
    ∃ receipt, forMessage message localParty references now = .ok receipt := by
  have digested : ∀ uri element, ∃ reference, referenceForElement uri element = .ok reference := by
    intro uri element
    obtain ⟨form, taken⟩ := forms element
    have supported : digestAlgorithmMap xmlencSha256 = some .sha256 := by decide
    simp only [referenceForElement, referenceForBytes, bind_ok, pure_ok, canonicalize_ok, computeDigest_ok]
    exact ⟨_, form, taken, _, ⟨.sha256, supported, rfl⟩, rfl⟩
  obtain ⟨messaging, madeMessaging⟩ := digested s!"#{references.messagingId}"
    (Messaging.codec.element (eb3 "Messaging") (receiptMessaging references (signalFor message references now)))
  obtain ⟨body, madeBody⟩ := digested s!"#{references.bodyId}"
    (Body.codec.element (soap12 "Body") { bodyId := some references.bodyId })
  obtain ⟨form, taken⟩ := forms (SignedInfo.codec.element (ds "SignedInfo") (signedInfoOver [messaging, body]))
  obtain ⟨value, signed⟩ := signs form
  have madeSignature : ∃ signature, getSignature localParty references (signedInfoOver [messaging, body]) =
      .ok signature := by
    simp only [getSignature, bind_ok, pure_ok]
    exact ⟨_, form, canonicalize_ok.mpr taken, value, signed, rfl⟩
  obtain ⟨signature, madeSignature⟩ := madeSignature
  simp only [forMessage, signalSoapEnvelope, bind_ok, pure_ok]
  exact ⟨_, _, ⟨messaging, madeMessaging, body, madeBody, signature, madeSignature, rfl⟩, rfl⟩

def receiptHeaders : Dict String String := [("Content-Type", "application/soap+xml;charset=utf-8")]

/-- `AS4Receipt.get_request_data` -/
def getRequestData (receipt : AS4Receipt) : Except PyError (Dict String String × Bytes) :=
  match receipt.soapEnvelope with
  | none => .error (.valueError "Receipt carries no SOAP envelope")
  | some envelope =>
      .ok (receiptHeaders, Libraries.tostring (Envelope.codec.element (soap12 "Envelope") envelope))

end Signals

end SignalBuilding
