import AS4.SignalBuilding

/-!
Outbound Peppol user messages: the business document is enveloped, compressed,
signed in its compressed form and encrypted, in that order.
-/

namespace MessageBuilding
open ElementTree ElementCodec FallibleSteps PythonData AS4Libraries AS4Errors SignatureModel EncryptionModel
  MessagingModel EnvelopeModel BusinessDocument Verification MessageParsing ReceiptVerification SignalBuilding

section Arguments

/-- `BusdoxDocidQnsDocumentIdentifier` -/
structure BusdoxDocidQnsDocumentIdentifier where
  scheme : String := "busdox-docid-qns"
  syntaxSpecificId : String
  customizationId : String
  version : String

/-- `s.split("::")`, on characters. -/
def splitColons : List Char → List (List Char)
  | [] => [[]]
  | ':' :: ':' :: rest => [] :: splitColons rest
  | c :: rest =>
      match splitColons rest with
      | [] => [[c]]
      | first :: others => (c :: first) :: others

def BusdoxDocidQnsDocumentIdentifier.split (identifier : BusdoxDocidQnsDocumentIdentifier) : List String :=
  (splitColons identifier.syntaxSpecificId.toList).map String.ofList

def BusdoxDocidQnsDocumentIdentifier.rootElementNamespace (identifier : BusdoxDocidQnsDocumentIdentifier) : String :=
  identifier.split.head?.getD ""

def BusdoxDocidQnsDocumentIdentifier.rootElementName (identifier : BusdoxDocidQnsDocumentIdentifier) :
    Except PyError String :=
  match identifier.split with
  | _ :: name :: _ => .ok name
  | _ => .error (.other "IndexError" "list index out of range")

def BusdoxDocidQnsDocumentIdentifier.identifierValue (identifier : BusdoxDocidQnsDocumentIdentifier) : String :=
  s!"{identifier.syntaxSpecificId}##{identifier.customizationId}::{identifier.version}"

def BusdoxDocidQnsDocumentIdentifier.action (identifier : BusdoxDocidQnsDocumentIdentifier) : String :=
  s!"{identifier.scheme}::{identifier.identifierValue}"

structure PeppolAS4MessageBuilderArgs where
  sender : String
  recipient : String
  documentTypeIdentifier : BusdoxDocidQnsDocumentIdentifier
  documentIdentificationInstanceIdentifier : String
  processIdentifier : String
  c1CountryId : String

/-- What a build draws from the clock and from the random source. -/
structure Draws where
  documentTime : Datetime
  messageTime : Datetime
  sessionKey : Bytes
  nonce : Bytes
  oaepSeed : Bytes
  attachment : String
  encryptedData : String
  boundary : String
  headerMessageId : String
  userAgent : String

def iso6523ActorId : String := "iso6523-actorid-upis"

def cenbiiProcidUbl : String := "cenbii-procid-ubl"

end Arguments

section Document
variable [Libraries]

def getStandardBusinessDocument (args : PeppolAS4MessageBuilderArgs) (draws : Draws) :
    Except PyError StandardBusinessDocument := do
  let identifier := args.documentTypeIdentifier
  let rootElementName ← identifier.rootElementName
  return {
    standardBusinessDocumentHeader :=
      { headerVersion := "1.0"
        sender := ⟨{ value := args.sender, authority := some iso6523ActorId }⟩
        receiver := ⟨{ value := args.recipient, authority := some iso6523ActorId }⟩
        documentIdentification :=
          { standard := identifier.rootElementNamespace
            typeVersion := identifier.version
            instanceIdentifier := args.documentIdentificationInstanceIdentifier
            documentIdentificationType := rootElementName
            creationDateAndTime := draws.documentTime }
        businessScope :=
          ⟨[{ scopeType := "DOCUMENTID", instanceIdentifier := identifier.identifierValue,
              identifier := some identifier.scheme },
            { scopeType := "PROCESSID", instanceIdentifier := args.processIdentifier,
              identifier := some cenbiiProcidUbl },
            { scopeType := "COUNTRY_C1", instanceIdentifier := args.c1CountryId }]⟩ } }

/-- The element with the payload's root appended as its last child. -/
def appendChild (element child : Node) : Node :=
  match element with
  | .element tag attrib content => .element tag attrib (content ++ [child])
  | other => other

/-- The bytes of the enveloped business document. -/
def envelopePayload (args : PeppolAS4MessageBuilderArgs) (draws : Draws) (payload : Bytes) : Except PyError Bytes := do
  let document ← getStandardBusinessDocument args draws
  let element := StandardBusinessDocument.codec.element (sbdh "StandardBusinessDocument") document
  let root ← parseXml payload
  return Libraries.tostring (appendChild element root)

end Document

section UserMessage

def participantProperty (name value : String) : Property :=
  { name := name, propertyType := some iso6523ActorId, value := value }

def partFor (attachmentId : String) : PartInfo where
  partProperties :=
    ⟨[{ name := "MimeType", value := "application/xml" }, { name := "CompressionType", value := "application/gzip" }]⟩
  href := some s!"cid:{attachmentId}"

variable [Libraries]

def getUserMessage (localParty : AS4InternalParty) (remoteParty : AS4ExternalParty)
    (args : PeppolAS4MessageBuilderArgs) (references : AS4References) (draws : Draws) : UserMessage where
  messageInfo := { timestamp := draws.messageTime, messageId := references.messageId }
  partyInfo := ⟨localParty.identity.toPartyFrom, remoteParty.identity.toPartyTo⟩
  collaborationInfo :=
    { agreementRef := some { value := "urn:fdc:peppol.eu:2017:agreements:tia:ap_provider" }
      service := { value := args.processIdentifier, typeValue := some cenbiiProcidUbl }
      action := args.documentTypeIdentifier.action
      conversationId := references.conversationId }
  messageProperties := some
    ⟨[participantProperty "originalSender" args.sender, participantProperty "finalRecipient" args.recipient]⟩
  payloadInfo := some ⟨references.attachmentIdEncryptedDataIdMap.map fun entry => partFor entry.1⟩

def messagingOver (references : AS4References) (userMessage : UserMessage) : Messaging where
  userMessages := [userMessage]
  messagingId := some references.messagingId
  mustUnderstand := some true

end UserMessage

section Security
variable [Libraries]

def getPayloadDigestReferences : Dict String Bytes → Except PyError (List DsigReference)
  | [] => .ok []
  | (attachmentId, compressed) :: rest => do
      let reference ← referenceForBytes s!"cid:{attachmentId}" compressed attachmentContentSignature
      let others ← getPayloadDigestReferences rest
      return reference :: others

def getSignedInfo (references : AS4References) (messaging : Messaging) (body : Body)
    (compressedPayloads : Dict String Bytes) : Except PyError SignedInfo := do
  let messagingReference ← getMessagingDigestReference references messaging
  let bodyReference ← getBodyDigestReference references body
  let payloadReferences ← getPayloadDigestReferences compressedPayloads
  return signedInfoOver (messagingReference :: bodyReference :: payloadReferences)

def getRemoteBinarySecurityToken (remoteParty : AS4ExternalParty) (references : AS4References) :
    BinarySecurityToken where
  encodingType := base64Binary
  valueType := x509V3
  bstId := references.encryptedKeyBstId
  value := Base64.b64encode remoteParty.credentials.certificate.der

def keyInfoFor (token : SecurityTokenReference) : KeyInfo := { securityTokenReference := [token] }

omit [Libraries] in
def getEncryptedKey (references : AS4References) (encryptedSessionKey : Bytes) : EncryptedKey where
  encryptedTypeId := some references.encryptedKeyId
  encryptionMethod :=
    { algorithm := rsaOaep
      mgf := some ⟨"http://www.w3.org/2009/xmlenc11#mgf1sha256"⟩
      digestMethod := some ⟨xmlencSha256⟩ }
  referenceList :=
    { dataReference := references.attachmentIdEncryptedDataIdMap.map fun entry => { uri := some s!"#{entry.2}" } }
  keyInfo := keyInfoFor
    { reference := { uri := some s!"#{references.encryptedKeyBstId}", valueType := some x509V3 } }
  cipherData := { cipherValue := some { value := some (Base64.b64encode encryptedSessionKey) } }
  typeValue := some ""
  mimeType := some ""
  encoding := some ""

omit [Libraries] in
def encryptedDataFor (encryptedKeyId attachmentId encryptedDataId : String) : EncryptedType where
  encryptedTypeId := some encryptedDataId
  encryptionMethod := { algorithm := aes128Gcm }
  mimeType := some "application/gzip"
  typeValue := some "http://docs.oasis-open.org/wss/oasis-wss-SwAProfile-1.1#Attachment-Content-Only"
  keyInfo := keyInfoFor
    { reference := { uri := some s!"#{encryptedKeyId}" }
      tokenType := some "http://docs.oasis-open.org/wss/oasis-wss-soap-message-security-1.1#EncryptedKey" }
  cipherData :=
    { cipherReference := some
        { uri := some s!"cid:{attachmentId}"
          transforms :=
            ⟨[{ algorithm := some
                  "http://docs.oasis-open.org/wss/oasis-wss-SwAProfile-1.1#Attachment-Ciphertext-Transform" }]⟩ } }

omit [Libraries] in
def getEncryptedData (references : AS4References) : List EncryptedType :=
  references.attachmentIdEncryptedDataIdMap.map fun entry =>
    encryptedDataFor references.encryptedKeyId entry.1 entry.2

/-- `get_soap_envelope` -/
def getSoapEnvelope (localParty : AS4InternalParty) (remoteParty : AS4ExternalParty)
    (args : PeppolAS4MessageBuilderArgs) (references : AS4References) (draws : Draws) (encryptedSessionKey : Bytes)
    (compressedPayloads : Dict String Bytes) : Except PyError Envelope := do
  let messaging := messagingOver references (getUserMessage localParty remoteParty args references draws)
  let body : Body := { bodyId := some references.bodyId }
  let signedInfo ← getSignedInfo references messaging body compressedPayloads
  let signature ← getSignature localParty references signedInfo
  return {
    header :=
      { security :=
          { binarySecurityTokens :=
              [getRemoteBinarySecurityToken remoteParty references, getLocalBinarySecurityToken localParty references]
            encryptedKey := some (getEncryptedKey references encryptedSessionKey)
            encryptedData := some (getEncryptedData references)
            signature := some signature }
        messaging := messaging }
    body := body }

end Security

section Build
variable [Libraries]

/-- A build fills in the attachment mapping of the references it was given. -/
abbrev Build (α : Type) := EStateM PyError AS4References α

/-- `encrypted_data_attachment_mapping`: the first attachment, made up when there
is none yet. -/
def encryptedDataAttachmentMapping (draws : Draws) : Build (String × String) := do
  let references ← get
  match references.attachmentIdEncryptedDataIdMap with
  | first :: _ => return first
  | [] =>
      let made := (s!"as4-att-{draws.attachment}@cid", s!"ED-{draws.encryptedData}")
      set { references with attachmentIdEncryptedDataIdMap := [made] }
      return made

/-- `rsa_public_key`, which asserts that the key is one. -/
def rsaPublicKey (credentials : AS4BaseCredentials) : Except PyError RSAPublicKey := do
  let key ← credentials.certificate.publicKey
  match key with
  | .rsa key => return key
  | .other _ => .error (.other "AssertionError" "")

/-- `CipherHandler.encrypt_payload` -/
def encryptPayload (draws : Draws) (payload : Bytes) : Bytes :=
  draws.nonce ++ Libraries.aesgcmEncrypt draws.sessionKey draws.nonce payload

/-- `PeppolAS4Message.build_message` -/
def buildMessage (payload : Bytes) (localParty : AS4InternalParty) (remoteParty : AS4ExternalParty)
    (args : PeppolAS4MessageBuilderArgs) (draws : Draws) : Build AS4Message := do
  let enveloped ← lift (envelopePayload args draws payload)
  let compressed := Libraries.gzipCompress enveloped
  let encryptedPayload := encryptPayload draws compressed
  let remoteKey ← lift (rsaPublicKey remoteParty.credentials)
  let encryptedSessionKey := Libraries.rsaEncrypt remoteKey draws.oaepSeed draws.sessionKey
  let (attachmentId, _) ← encryptedDataAttachmentMapping draws
  let references ← get
  let envelope ← lift (getSoapEnvelope localParty remoteParty args references draws encryptedSessionKey
    [(attachmentId, compressed)])
  return {
    soapEnvelope := some envelope
    messageId := references.messageId
    messagingId := references.messagingId
    mimeAttachments := [(attachmentId, encryptedPayload)]
    decryptedData := [(attachmentId, enveloped)]
    sender := some args.sender
    recipient := some args.recipient
    documentTypeIdentifierValue := some args.documentTypeIdentifier.identifierValue
    documentTypeIdentifierScheme := some args.documentTypeIdentifier.scheme
    processIdentifier := some args.processIdentifier }

/-- `get_request_data` and `get_http_headers` of a built message: the headers and
the body of the request. -/
def requestData (message : AS4Message) (draws : Draws) : Except PyError (Dict String String × Bytes) :=
  match message.soapEnvelope with
  | none => .error (.valueError "Message carries no SOAP envelope")
  | some envelope =>
      let soapXml := Libraries.tostring (Envelope.codec.element (soap12 "Envelope") envelope)
      let soapPart := ([("Content-Type", "application/soap+xml; charset=UTF-8")], soapXml)
      let attachmentParts := message.mimeAttachments.map fun attachment =>
        ([("Content-Type", "application/octet-stream"), ("Content-ID", s!"<{attachment.1}>")], attachment.2)
      .ok ([("Content-Type", s!"multipart/related; type=\"application/soap+xml\"; boundary=\"{draws.boundary}\""),
          ("Message-ID", draws.headerMessageId), ("Mime-Version", "1.0"), ("User-Agent", draws.userAgent)],
        Libraries.encodeMultipart draws.boundary (soapPart :: attachmentParts))

end Build

end MessageBuilding
