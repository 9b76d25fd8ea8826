import AS4.MessageParsing

/-!
Inbound signals: reading an ebMS signal message, verifying that the expected
signer signed it, and comparing what it acknowledges with what was sent.
-/

namespace ReceiptVerification
open ElementTree ElementCodec FallibleSteps PythonData AS4Libraries AS4Errors SignatureModel MessagingModel
  EnvelopeModel Verification MessageParsing

section References

/-- `AS4References`. The attachment ids map to the ids of their encrypted data. -/
structure AS4References where
  messageId : String
  messagingId : String
  conversationId : String
  encryptedKeyBstId : String
  signatureBstId : String
  encryptedKeyId : String
  signatureId : String
  keyInfoId : String
  signatureSecurityTokenReferenceId : String
  bodyId : String
  attachmentIdEncryptedDataIdMap : Dict String String := []
  deriving DecidableEq, Repr

/-- The uuids `AS4References` draws, in the order of its fields. -/
structure ReferenceUuids where
  message : String
  messaging : String
  conversation : String
  encryptedKeyBst : String
  signatureBst : String
  encryptedKey : String
  signature : String
  keyInfo : String
  tokenReference : String
  body : String

/-- `AS4References()` -/
def AS4References.new (uuids : ReferenceUuids) : AS4References where
  messageId := s!"{uuids.message}@as4"
  messagingId := s!"as4-msg-{uuids.messaging}"
  conversationId := s!"as4@{uuids.conversation}"
  encryptedKeyBstId := uuids.encryptedKeyBst
  signatureBstId := s!"X509-{uuids.signatureBst}"
  encryptedKeyId := s!"EK-{uuids.encryptedKey}"
  signatureId := s!"SIG-{uuids.signature}"
  keyInfoId := s!"KI-{uuids.keyInfo}"
  signatureSecurityTokenReferenceId := s!"STR-{uuids.tokenReference}"
  bodyId := uuids.body

end References

section Receipt
variable [Libraries]

/-- `AS4Receipt`; `PeppolAS4Receipt` adds a field nothing sets. -/
structure AS4Receipt where
  soapEnvelope : Option Envelope := none
  originalMessageId : Option String := none
  references : Option AS4References := none

/-- The signal message of the envelope, which must not bundle several. -/
def AS4Receipt.signalMessage (receipt : AS4Receipt) : Except PyError (Option SignalMessage) :=
  match receipt.soapEnvelope with
  | none => .ok none
  | some envelope => envelope.header.messaging.signalMessage

def AS4Receipt.errors (receipt : AS4Receipt) : Except PyError (List MessagingModel.Error) := do
  let signal ← receipt.signalMessage
  return (signal.map (·.errors)).getD []

def AS4Receipt.error (receipt : AS4Receipt) : Except PyError (Option MessagingModel.Error) := do
  let errors ← receipt.errors
  return errors.head?

def AS4Receipt.receipt (receipt : AS4Receipt) : Except PyError (Option Receipt) := do
  let signal ← receipt.signalMessage
  return signal.bind (·.receipt)

def acknowledgedReferences (information : NonRepudiationInformation) : List DsigReference :=
  information.messagePartNrInformation.flatMap (·.references)

/-- `non_repudiated_references` -/
def AS4Receipt.nonRepudiatedReferences (receipt : AS4Receipt) : Except PyError (List ComparableReferenceFields) := do
  let receipt ← receipt.receipt
  match receipt.bind (·.nonRepudiationInformation) with
  | none => return []
  | some information => return (acknowledgedReferences information).map ComparableReferenceFields.fromReference

end Receipt

section Signature
variable [Libraries]

def refuse {α : Type} (message : String) : Except PyError α := .error (.receiptVerification message)

/-- The certificate of the token the signature names. Only that token is loaded. -/
def embeddedCertificate (security : Security) (signature : Signature) : Except PyError (Option Certificate) :=
  let uri := signatureTokenUri signature
  match security.binarySecurityTokens.find? fun token => uri == some ("#" ++ token.bstId) with
  | none => .ok none
  | some token => (token.x509Certificate).map some

def translateSignatureError : PyError → PyError
  | .invalidSignature => .receiptVerification "Receipt signature does not verify"
  | .unsupportedSignatureAlgorithm message =>
      .receiptVerification s!"Receipt signature is not verifiable: {message}"
  | .unsupportedTransform message => .receiptVerification s!"Receipt signature is not verifiable: {message}"
  | raised => raised

def translateReferenceError (uri : String) : PyError → PyError
  | .unsupportedDigestAlgorithm message => .receiptVerification s!"Receipt reference {uri} is not verifiable: {message}"
  | .unsupportedTransform message => .receiptVerification s!"Receipt reference {uri} is not verifiable: {message}"
  | raised => raised

/-- Every reference of a signal names an element of its document. -/
def verifyReceiptReference (elementsById : Dict String Located) (reference : DsigReference) : Except PyError Unit :=
  let uri := referenceUri reference
  match target elementsById reference with
  | none => refuse s!"Receipt signature references {uri}, which is not in the document"
  | some element => do
      let matched ← (digestMatches reference element).mapError (translateReferenceError uri)
      if matched then return () else refuse s!"Receipt digest for {uri} does not match the signed element"

def requireExpectedSigner (embedded : Option Certificate) (expectedSigner : Certificate) : Except PyError Unit :=
  match embedded with
  | none => refuse "Receipt signature references no security token"
  | some embedded =>
      if embedded ≠ expectedSigner then
        refuse s!"Receipt is signed by {embedded.subject}, not {expectedSigner.subject}"
      else .ok ()

def requireMessagingCoverage (signature : Signature) (elementsById : Dict String Located) : Except PyError Unit :=
  if (signatureCoverage signature elementsById []).contains "messaging" then .ok ()
  else refuse "Receipt signature does not cover eb:Messaging"

/-- `AS4Receipt.verify_signature` -/
def verifyReceiptSignature (envelope : Envelope) (soapEnvelopeElement : Located) (expectedSigner : Certificate) :
    Except PyError Unit :=
  match envelope.header.security.signature with
  | none => refuse "Receipt carries no ds:Signature"
  | some signature => do
      let embedded ← embeddedCertificate envelope.header.security signature
      requireExpectedSigner embedded expectedSigner
      (verify signature expectedSigner).mapError translateSignatureError
      let elementsById ← indexElementsById soapEnvelopeElement
      requireMessagingCoverage signature elementsById
      each (verifyReceiptReference elementsById) signature.signedInfo.references

end Signature

section Parse
variable [Libraries]

/-- What a signal that cannot be read raises. -/
def unreadable (raised : PyError) : PyError :=
  match raised with
  | .receiptable error => .receiptVerification s!"Signal is not a readable ebMS signal message: {error.detail}"
  | .xmlSyntaxError | .validationError _ =>
      .receiptVerification s!"Signal is not a readable ebMS signal message: {Libraries.exceptionText raised}"
  | _ => raised

def readSignal (receiptData : Bytes) : Except PyError (Node × Envelope × Option SignalMessage) := do
  let document ← parseXml receiptData
  let envelope ← Envelope.modelValidateEtree (.root document)
  let signal ← envelope.header.messaging.signalMessage
  return (document, envelope, signal)

/-- A receipt has to name the message it is for; an error signal need not. -/
def requireReference (receipt : AS4Receipt) : Except PyError Unit := do
  let error ← receipt.error
  if error.isNone ∧ (receipt.originalMessageId.getD "") = "" then
    refuse "Receipt names no eb:RefToMessageId, so it proves delivery of nothing"
  else .ok ()

/-- `AS4Receipt.parse` -/
def AS4Receipt.parse (receiptData : Bytes) (expectedSigner : Certificate) : Except PyError AS4Receipt := do
  let (document, envelope, signal) ← (readSignal receiptData).mapError unreadable
  let receipt : AS4Receipt :=
    { soapEnvelope := some envelope, originalMessageId := signal.bind (·.messageInfo.refToMessageId) }
  requireReference receipt
  verifyReceiptSignature envelope (.root document) expectedSigner
  return receipt

/-- `peek_original_message_id` -/
def peekOriginalMessageId (signalData : Bytes) : Option String :=
  (Libraries.parseXml signalData).bind fun document =>
    (Located.root document).findText (messagingPath ++ [eb3 "SignalMessage", eb3 "MessageInfo", eb3 "RefToMessageId"])

end Parse

section NonRepudiation
variable [Libraries]

def requireSent (sent : List ComparableReferenceFields) (reference : ComparableReferenceFields) : Except PyError Unit :=
  if reference ∈ sent then .ok ()
  else refuse s!"Receipt acknowledges {Libraries.repr reference.uri}, which was not sent"

def requireAcknowledged (acknowledged : List ComparableReferenceFields) (reference : ComparableReferenceFields) :
    Except PyError Unit :=
  if reference ∈ acknowledged then .ok ()
  else refuse s!"Receipt does not acknowledge {Libraries.repr reference.uri}"

/-- `verify_non_repudiation` -/
def AS4Receipt.verifyNonRepudiation (receipt : AS4Receipt) (sentReferences : List ComparableReferenceFields)
    (requiredReferences : Option (List ComparableReferenceFields)) : Except PyError Unit := do
  let content ← receipt.receipt
  if content.isNone then refuse "Receipt carries no eb:Receipt to compare against"
  else if requiredReferences = some [] then
    refuse "No references were required, so this receipt would prove nothing"
  else do
    let acknowledged ← receipt.nonRepudiatedReferences
    each (requireSent sentReferences) acknowledged
    each (requireAcknowledged acknowledged) (requiredReferences.getD sentReferences)

end NonRepudiation

end ReceiptVerification
