import AS4.BusinessDocument
import AS4.Verification

/-!
Inbound user messages. `process` fills in the fields of a message one stage at a
time; the fields set before a stage raises stay, and `parse` turns what it raises
into the parse error of the message, or lets it escape.
-/

namespace MessageParsing
open ElementTree ElementCodec FallibleSteps PythonData AS4Libraries AS4Errors SignatureModel EncryptionModel
  MessagingModel EnvelopeModel BusinessDocument Verification

section Parties
variable [Libraries]

structure AS4PartyIdentity where
  partyId : String
  partyType : Option String := none
  deriving DecidableEq, Repr

def AS4PartyIdentity.fromParty (party : Party) : AS4PartyIdentity := ⟨party.partyId.value, party.partyId.typeValue⟩

def initiator : String := "http://docs.oasis-open.org/ebxml-msg/ebms/v3.0/ns/core/200704/initiator"

def responder : String := "http://docs.oasis-open.org/ebxml-msg/ebms/v3.0/ns/core/200704/responder"

def AS4PartyIdentity.toPartyFrom (identity : AS4PartyIdentity) : Party :=
  ⟨⟨identity.partyId, identity.partyType⟩, initiator⟩

def AS4PartyIdentity.toPartyTo (identity : AS4PartyIdentity) : Party :=
  ⟨⟨identity.partyId, identity.partyType⟩, responder⟩

/-- `AS4PrivateKey`, with the padding and hash every caller uses. -/
structure AS4PrivateKey where
  sign : Bytes → Except PyError Bytes
  decrypt : Bytes → Except PyError Bytes

structure AS4BaseCredentials where
  certificate : Certificate

structure AS4InternalCredentials extends AS4BaseCredentials where
  privateKey : AS4PrivateKey

structure AS4InternalParty where
  identity : AS4PartyIdentity
  credentials : AS4InternalCredentials

structure AS4ExternalParty where
  identity : AS4PartyIdentity
  credentials : AS4BaseCredentials

end Parties

section Context
variable [Libraries]

/-- The resolver of a policy that has none raises `SignerNotConfiguredError`. -/
def signerResolverNotConfigured (_ : Party) (_ : Option Certificate) : Except PyError Certificate :=
  .error (.other "SignerNotConfiguredError"
    "SecurityPolicy.signer_resolver is unset, so no certificate can be trusted to have signed this message")

structure SecurityPolicy where
  signRequired : Bool := true
  encryptRequired : Bool := true
  signerResolver : Party → Option Certificate → Except PyError Certificate := signerResolverNotConfigured
  requiredCoverage : List String := ["messaging", "body", "payloads"]
  verifyDigests : Bool := true
  maximumDecompressedSize : Int := 1024 ^ 3
  verifyParticipants : Bool := true

structure AS4ParseContext where
  localParty : AS4InternalParty
  acceptParticipant : Option (String → Except PyError Unit) := none
  securityPolicy : SecurityPolicy := {}

end Context

section Message
variable [Libraries]

/-- `AS4Message`, with the fields `PeppolAS4Message` adds. -/
structure AS4Message where
  soapEnvelope : Option Envelope := none
  mimeAttachments : Dict String Bytes := []
  decryptedData : Dict String Bytes := []
  messageId : String := ""
  messagingId : String := ""
  addressedTo : Option AS4PartyIdentity := none
  signerCertificate : Option Certificate := none
  parseError : Option BaseAS4ReceiptableError := none
  sender : Option String := none
  recipient : Option String := none
  documentTypeIdentifierValue : Option String := none
  documentTypeIdentifierScheme : Option String := none
  processIdentifier : Option String := none

inductive MessageClass where
  | as4
  | peppol
  deriving DecidableEq, Repr

def raise {α : Type} (error : BaseAS4ReceiptableError) : Except PyError α := .error (.receiptable error)

def messagingPath : List QName := [soap12 "Header", eb3 "Messaging"]

def messageIdPath : List QName := messagingPath ++ [eb3 "UserMessage", eb3 "MessageInfo", eb3 "MessageId"]

def partyToPath : List QName := messagingPath ++ [eb3 "UserMessage", eb3 "PartyInfo", eb3 "To"]

/-- `pre_validate`: the ids a signal needs to refer to the message. -/
def preValidate (soapEnvelopeElement : Located) : Except PyError (String × String) :=
  let messageId := soapEnvelopeElement.findText messageIdPath
  match soapEnvelopeElement.find messagingPath with
  | none => raise (messagingNotFound.new "Missing ebMS Messaging header in SOAP envelope")
  | some messaging =>
      let messageId := messageId.getD ""
      let messagingId := (messaging.node.attribute (wsu "Id")).getD ""
      if messageId = "" ∨ messagingId = "" then
        raise (messageIdNotFound.new "Missing MessageId or Messaging wsu:Id in SOAP envelope")
      else .ok (messageId, messagingId)

def getAddressedTo (partyToElement : Option Located) : Except PyError AS4PartyIdentity :=
  match partyToElement with
  | none => raise (partyToNotFound.new "Missing PartyInfo/To element in UserMessage")
  | some element => do
      let party ← (Party.codec.validate element).mapError .validationError
      return AS4PartyIdentity.fromParty party

def requireUserMessage (envelope : Envelope) : Except PyError UserMessage := do
  let userMessage ← envelope.header.messaging.userMessage
  match userMessage with
  | none => raise userMessageNotFound.new
  | some userMessage => return userMessage

end Message

section Signature
variable [Libraries]

def resolveSigner (policy : SecurityPolicy) (partyFrom : Party) (embedded : Option Certificate) :
    Except PyError Certificate :=
  (policy.signerResolver partyFrom embedded).mapError fun
    | .untrustedSigner => .receiptable untrustedSigner.new
    | raised => raised

/-- The token the signature's key info names: that of its first reference. -/
def signatureTokenUri (signature : Signature) : Option String :=
  signature.keyInfo.securityTokenReference.head?.bind (·.reference.uri)

def findToken (security : Security) (uri : String) : Option BinarySecurityToken :=
  security.binarySecurityTokens.find? fun token => uri == "#" ++ token.bstId

def signatureToken (security : Security) (signature : Signature) : Except PyError BinarySecurityToken :=
  let uri := (signatureTokenUri signature).getD ""
  if uri = "" then raise signatureSecurityTokenReferenceNotFound.new
  else
    match findToken security uri with
    | none => raise signatureSecurityTokenReferenceNotFound.new
    | some token => .ok token

def translateTokenError : PyError → PyError
  | .unsupportedSecurityTokenType message => .receiptable (unsupportedSecurityTokenType message)
  | raised => raised

def translateVerifyError : PyError → PyError
  | .unsupportedSignatureAlgorithm message => .receiptable (unsupportedSignatureAlgorithm message)
  | .unsupportedTransform message => .receiptable (unsupportedTransform message)
  | .invalidSignature => .receiptable signatureVerificationFailed.new
  | raised => raised

/-- The hrefs of the declared payload parts that have one. -/
def payloadHrefs (userMessage : UserMessage) : List String :=
  match userMessage.payloadInfo with
  | none => []
  | some payloadInfo => payloadInfo.partInfo.filterMap fun part => part.href.filter (· ≠ "")

def verifySignedElements (context : AS4ParseContext) (signature : Signature) (elementsById : Dict String Located) :
    Except PyError Unit :=
  if context.securityPolicy.verifyDigests then verifyReferenceDigests signature elementsById else .ok ()

/-- The part of `get_verified_signature` that runs when there is a signature. -/
def verifySignature (context : AS4ParseContext) (security : Security) (soapEnvelope : Envelope)
    (elementsById : Dict String Located) (signature : Signature) : Except PyError Certificate := do
  let token ← signatureToken security signature
  let userMessage ← requireUserMessage soapEnvelope
  let embedded ← token.x509Certificate.mapError translateTokenError
  let signer ← resolveSigner context.securityPolicy userMessage.partyInfo.partyFrom (some embedded)
  (verify signature signer).mapError translateVerifyError
  verifySignatureCoverage signature elementsById (payloadHrefs userMessage) context.securityPolicy.requiredCoverage
  verifySignedElements context signature elementsById
  return signer

/-- `get_verified_signature` -/
def getVerifiedSignature (context : AS4ParseContext) (security : Security) (soapEnvelope : Envelope)
    (elementsById : Dict String Located) : Except PyError (Option Signature × Option Certificate) :=
  match security.signature with
  | none =>
      if context.securityPolicy.signRequired then raise signatureRequired.new else .ok (none, none)
  | some signature => do
      let signer ← verifySignature context security soapEnvelope elementsById signature
      return (some signature, some signer)

end Signature

section Decryption
variable [Libraries]

def decryptSessionKey (context : AS4ParseContext) (cipherValue : String) : Except PyError Bytes :=
  let decrypted := do
    let encrypted ← (Base64.b64decode true cipherValue).mapError PyError.valueError
    context.localParty.credentials.privateKey.decrypt encrypted
  decrypted.mapError fun
    | .valueError _ => .receiptable decryptionFailed.new
    | raised => raised

/-- The attachment an encrypted data element names. -/
def encryptedAttachmentId (data : EncryptedType) : Except PyError String :=
  match data.cipherData.cipherReference.bind (·.uri) with
  | none => raise cipherReferenceNotFound.new
  | some uri =>
      if uri = "" ∨ ¬ startsWith "cid:" uri then raise cipherReferenceNotFound.new
      else .ok (removePrefix "cid:" uri)

def decryptAttachment (sessionKey : Bytes) (data : EncryptedType) (content : Bytes) : Except PyError Bytes :=
  if data.encryptionMethod.algorithm = aes128Gcm then
    match Libraries.aesgcmDecrypt sessionKey (content.take 12) (content.drop 12) with
    | none => raise decryptionFailed.new
    | some decrypted => .ok decrypted
  else raise (unsupportedEncryptionAlgorithm data.encryptionMethod.algorithm)

/-- One turn of the loop over the data references of the encrypted key: the
attachment it names and what decrypting that gives. -/
def decryptReference (sessionKey : Bytes) (security : Security) (mimeAttachments : Dict String Bytes)
    (reference : XencReference) : Except PyError (String × Bytes) :=
  let uri := reference.uri.getD ""
  if uri = "" then raise encryptedDataReferenceNotFound.new
  else
    match security.getEncryptedData (dropFirst uri) with
    | none => raise (encryptedDataNotFound uri)
    | some data => do
        let attachmentId ← encryptedAttachmentId data
        match Dict.get mimeAttachments attachmentId with
        | none => raise (encryptedAttachmentNotFound attachmentId)
        | some content => do
            let decrypted ← decryptAttachment sessionKey data content
            return (attachmentId, decrypted)

def decryptReferences (sessionKey : Bytes) (security : Security) (mimeAttachments : Dict String Bytes) :
    List XencReference → Dict String Bytes → Except PyError (Dict String Bytes)
  | [], decryptedData => .ok decryptedData
  | reference :: rest, decryptedData => do
      let (attachmentId, decrypted) ← decryptReference sessionKey security mimeAttachments reference
      decryptReferences sessionKey security mimeAttachments rest (Dict.set attachmentId decrypted decryptedData)

/-- `get_decrypted_data` -/
def getDecryptedData (context : AS4ParseContext) (security : Security) (mimeAttachments : Dict String Bytes) :
    Except PyError (Dict String Bytes) :=
  match security.encryptedKey with
  | none => if context.securityPolicy.encryptRequired then raise encryptionRequired.new else .ok []
  | some encryptedKey =>
      let cipherValue := (encryptedKey.cipherData.cipherValue.bind (·.value)).getD ""
      if cipherValue = "" then raise cipherValueNotFound.new
      else if encryptedKey.encryptionMethod.algorithm ≠ rsaOaep then
        raise (unsupportedEncryptionAlgorithm encryptedKey.encryptionMethod.algorithm)
      else do
        let sessionKey ← decryptSessionKey context cipherValue
        decryptReferences sessionKey security mimeAttachments encryptedKey.referenceList.dataReference []

end Decryption

section Payloads
variable [Libraries]

def decompress (part : PartProperties) (content : Bytes) (maximumSize : Int) : Except PyError Bytes :=
  if part.compressionType ≠ some "application/gzip" then .ok content
  else
    match Libraries.gzipRead content (maximumSize + 1) with
    | none => raise decompressionFailed.new
    | some decompressed =>
        if maximumSize < decompressed.length then raise decompressedPayloadTooLarge.new else .ok decompressed

/-- What one declared part does to the decrypted data. -/
def decompressPart (context : AS4ParseContext) (mimeAttachments : Dict String Bytes)
    (decryptedData : Dict String Bytes) (part : PartInfo) : Except PyError (Dict String Bytes) :=
  let href := part.href.getD ""
  if href = "" then .ok decryptedData
  else
    let identifier := removePrefix "cid:" href
    if (Dict.get mimeAttachments identifier).isNone then raise (partInfoWithoutMimePart href)
    else
      match Dict.get decryptedData identifier with
      | none => .ok decryptedData
      | some content => do
          let decompressed ← decompress part.partProperties content context.securityPolicy.maximumDecompressedSize
          return Dict.set identifier decompressed decryptedData

abbrev Process (α : Type) := EStateM PyError AS4Message α

/-- The decrypted data of the message is changed as the loop goes. -/
def decompressParts (context : AS4ParseContext) (mimeAttachments : Dict String Bytes) : List PartInfo → Process PUnit
  | [] => pure ()
  | part :: rest => do
      let fields ← get
      let decryptedData ← lift (decompressPart context mimeAttachments fields.decryptedData part)
      modify fun fields => { fields with decryptedData := decryptedData }
      decompressParts context mimeAttachments rest

def requirePayloadInfo (userMessage : UserMessage) : Except PyError PayloadInfo :=
  match userMessage.payloadInfo with
  | none => raise payloadInfoNotFound.new
  | some payloadInfo => .ok payloadInfo

end Payloads

section Process
variable [Libraries]

/-- The digests of signed attachments are those of the compressed bytes. -/
def verifySignedAttachments (context : AS4ParseContext) (signature : Option Signature)
    (decryptedData : Dict String Bytes) : Except PyError Unit :=
  match signature with
  | none => .ok ()
  | some signature =>
      if context.securityPolicy.verifyDigests then verifyAttachmentDigests signature decryptedData else .ok ()

/-- `AS4Message.process` -/
def processAs4 (context : AS4ParseContext) (soapEnvelopeElement : Located) (mimeAttachments : Dict String Bytes) :
    Process PUnit := do
  modify fun fields => { fields with mimeAttachments := mimeAttachments }
  let soapEnvelope ← lift (Envelope.modelValidateEtree soapEnvelopeElement)
  modify fun fields => { fields with soapEnvelope := some soapEnvelope }
  let elementsById ← lift (indexElementsById soapEnvelopeElement)
  let security := soapEnvelope.header.security
  let (signature, signerCertificate) ← lift (getVerifiedSignature context security soapEnvelope elementsById)
  modify fun fields => { fields with signerCertificate := signerCertificate }
  let decryptedData ← lift (getDecryptedData context security mimeAttachments)
  modify fun fields => { fields with decryptedData := decryptedData }
  lift (verifySignedAttachments context signature decryptedData)
  let userMessage ← lift (requireUserMessage soapEnvelope)
  let payloadInfo ← lift (requirePayloadInfo userMessage)
  decompressParts context mimeAttachments payloadInfo.partInfo

end Process

section Peppol
variable [Libraries]

def peppolPartyIdentifierType : String := "urn:fdc:peppol.eu:2017:identifiers:ap"

/-- `repr` of an optional string. -/
def reprOptional (s : Option String) : String := (s.map Libraries.repr).getD "None"

def verifyPartyIdentifier (element : String) (party : Party) : Except PyError Unit :=
  if party.partyId.typeValue ≠ some peppolPartyIdentifierType then
    raise (peppolPartyIdentifier.new
      s!"PartyInfo/{element}/PartyId/@type must be {peppolPartyIdentifierType}, not {reprOptional party.partyId.typeValue}")
  else .ok ()

def verifyPartyIdentifiers (envelope : Envelope) : Except PyError Unit := do
  let userMessage ← requireUserMessage envelope
  verifyPartyIdentifier "From" userMessage.partyInfo.partyFrom
  verifyPartyIdentifier "To" userMessage.partyInfo.partyTo

def verifyParticipantAgrees (name : String) (declared : Option Property) (identifier : Identifier) :
    Except PyError Unit :=
  match declared with
  | none => raise (peppolSBDH.new
      s!"SBDH names {Libraries.repr identifier.value} where the {name} property is absent")
  | some declared =>
      if declared.value ≠ identifier.value ∨ declared.propertyType ≠ identifier.authority then
        raise (peppolSBDH.new
          s!"SBDH names {Libraries.repr identifier.value} under {reprOptional identifier.authority} where the {name} property names {Libraries.repr declared.value} under {reprOptional declared.propertyType}")
      else .ok ()

def verifyParticipantsAgree (properties : Option MessageProperties) (sender recipient : Identifier) :
    Except PyError Unit := do
  verifyParticipantAgrees "originalSender" (properties.bind (·.originalSender)) sender
  verifyParticipantAgrees "finalRecipient" (properties.bind (·.finalRecipient)) recipient

def parseBusinessDocument (payload : Bytes) : Except PyError Node :=
  (parseXml payload).mapError fun _ =>
    .receiptable (peppolSBDH.new "The first MIME attachment is not well-formed XML")

/-- The schema check of the header element. -/
def requireSchemaValidHeader (document : Located) : Except PyError Unit :=
  match document.find [sbdh "StandardBusinessDocumentHeader"] with
  | none => raise (peppolSBDH.new "Decrypted payload carries no StandardBusinessDocumentHeader")
  | some header =>
      match Libraries.sbdhValidationError header.node with
      | none => .ok ()
      | some reported =>
          let reason := if reported = "" then "" else s!": {reported}"
          raise (peppolSBDH.new s!"The SBDH is not schema valid{reason}")

def acceptRecipient (context : AS4ParseContext) (recipient : String) : Except PyError Unit :=
  match context.acceptParticipant with
  | none => .ok ()
  | some accept => (accept recipient).mapError fun
      | .participantNotServiced => .receiptable peppolNotServiced.new
      | raised => raised

def scopeDict (scopes : List Scope) : Dict String Scope :=
  scopes.foldl (fun dict scope => Dict.set scope.scopeType scope dict) []

def requireScopes (scopes : Dict String Scope) : Except PyError (Scope × Scope) :=
  let missing := ["PROCESSID", "DOCUMENTID", "COUNTRY_C1"].filter fun kind => (Dict.get scopes kind).isNone
  match missing, Dict.get scopes "DOCUMENTID", Dict.get scopes "PROCESSID" with
  | [], some document, some process => .ok (document, process)
  | _, _, _ => raise (peppolSBDH.new s!"Missing expected scopes with scope types: {Libraries.reprSet missing}")

/-- The payload of the first MIME attachment. -/
def firstPayload (fields : AS4Message) : Except PyError Bytes :=
  match fields.mimeAttachments.head?.bind fun attachment => Dict.get fields.decryptedData attachment.1 with
  | none => raise (peppolSBDH.new "The first MIME attachment carries no decrypted payload")
  | some payload => .ok payload

def verifyParticipants (context : AS4ParseContext) (envelope : Envelope) (header : StandardBusinessDocumentHeader) :
    Except PyError Unit :=
  if context.securityPolicy.verifyParticipants then do
    let userMessage ← envelope.header.messaging.userMessage
    verifyParticipantsAgree (userMessage.bind (·.messageProperties)) header.sender.identifier
      header.receiver.identifier
  else .ok ()

/-- `process_sbdh`, given the envelope `process` has read. -/
def processSbdh (context : AS4ParseContext) (envelope : Envelope) : Process PUnit := do
  lift (verifyPartyIdentifiers envelope)
  let fields ← get
  let payload ← lift (firstPayload fields)
  let document ← lift (parseBusinessDocument payload)
  lift (requireSchemaValidHeader (.root document))
  let document ← lift ((StandardBusinessDocument.codec.validate (.root document)).mapError .validationError)
  let header := document.standardBusinessDocumentHeader
  modify fun fields =>
    { fields with sender := some header.sender.identifier.value, recipient := some header.receiver.identifier.value }
  lift (verifyParticipants context envelope header)
  lift (acceptRecipient context header.receiver.identifier.value)
  let (documentScope, processScope) ← lift (requireScopes (scopeDict header.businessScope.scopes))
  modify fun fields =>
    { fields with
      documentTypeIdentifierValue := some documentScope.instanceIdentifier
      documentTypeIdentifierScheme := some (documentScope.identifier.getD "busdox-docid-qns")
      processIdentifier := some processScope.instanceIdentifier }

def translateSbdhError : PyError → PyError
  | .validationError details => .receiptable (peppolSBDH.fromPydanticError details)
  | raised => raised

/-- `PeppolAS4Message.process` -/
def processPeppol (context : AS4ParseContext) (soapEnvelopeElement : Located)
    (mimeAttachments : Dict String Bytes) : Process PUnit := do
  processAs4 context soapEnvelopeElement mimeAttachments
  let fields ← get
  match fields.soapEnvelope with
  | some envelope => (processSbdh context envelope).adaptExcept translateSbdhError
  | none => lift (raise userMessageNotFound.new)

end Peppol

section Parse
variable [Libraries]

def process (cls : MessageClass) : AS4ParseContext → Located → Dict String Bytes → Process PUnit :=
  match cls with
  | .as4 => processAs4
  | .peppol => processPeppol

/-- The body of the `try` block of `parse`. -/
def parseSteps (cls : MessageClass) (context : AS4ParseContext) (soapBytes : Bytes)
    (mimeAttachments : Dict String Bytes) : Process PUnit := do
  let document ← lift (parseXml soapBytes)
  let soapEnvelopeElement := Located.root document
  let partyToElement := soapEnvelopeElement.find partyToPath
  let (messageId, messagingId) ← lift (preValidate soapEnvelopeElement)
  modify fun fields => { fields with messageId := messageId, messagingId := messagingId }
  let addressedTo ← lift (getAddressedTo partyToElement)
  modify fun fields => { fields with addressedTo := some addressedTo }
  process cls context soapEnvelopeElement mimeAttachments

/-- The exceptions `parse` answers; any other escapes. -/
def caught : PyError → Option BaseAS4ReceiptableError
  | .xmlSyntaxError => some malformedSoapEnvelope.new
  | .validationError details => some (fromValidationError details)
  | .receiptable error => some error
  | _ => none

/-- `AS4Message.parse` -/
def parse (cls : MessageClass) (context : AS4ParseContext) (soapBytes : Bytes)
    (mimeAttachments : Dict String Bytes) : Except PyError AS4Message :=
  match parseSteps cls context soapBytes mimeAttachments {} with
  | .ok _ fields => .ok fields
  | .error raised fields =>
      match caught raised with
      | some error => .ok { fields with parseError := some error }
      | none => .error raised

end Parse

section Accessors
variable [Libraries]

/-- `get_remote_party` -/
def AS4Message.getRemoteParty (message : AS4Message) : Except PyError AS4ExternalParty :=
  match message.signerCertificate, message.soapEnvelope with
  | some certificate, some envelope => do
      let userMessage ← requireUserMessage envelope
      return ⟨AS4PartyIdentity.fromParty userMessage.partyInfo.partyFrom, ⟨certificate⟩⟩
  | _, _ => .error .remotePartyNotVerified

/-- `signature_references` -/
def AS4Message.signatureReferences (message : AS4Message) : List DsigReference :=
  match message.soapEnvelope.bind (·.header.security.signature) with
  | none => []
  | some signature => signature.signedInfo.references

/-- `signed_references` -/
def AS4Message.signedReferences (message : AS4Message) : List ComparableReferenceFields :=
  message.signatureReferences.map ComparableReferenceFields.fromReference

end Accessors

end MessageParsing
