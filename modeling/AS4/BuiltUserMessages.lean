import AS4.BuiltSignals
import AS4.DeliveredMessage
import AS4.EnvelopedDocuments

/-!
The user message a build makes, as it is signed and encrypted for its receiver: what it
is made of, which identifiers it carries, and why it can be read.
-/

namespace BuiltUserMessages
open ElementTree ElementCodec ElementCodec.Codec FallibleSteps PythonData AS4Libraries SignatureModel EncryptionModel
  MessagingModel EnvelopeModel Verification MessageParsing ReceiptVerification SignalBuilding MessageBuilding RecordLaws
  WrittenIdentifiers WrittenEnvelope SignedReadings MessageReadings DeliveredMessage BuiltSignals EnvelopedDocuments

variable [Libraries]

section Shape

/-- A reference of the local party over an attachment. -/
def referenceToAttachment (attachmentId : String) (content : Bytes) : DsigReference where
  transforms := ⟨[{ algorithm := some attachmentContentSignature }]⟩
  digestMethod := ⟨xmlencSha256⟩
  digestValue := ⟨Base64.b64encode (Libraries.digest .sha256 content)⟩
  uri := some ("cid:" ++ attachmentId)

def userInfo (references : AS4References) (messagingForm bodyForm : Bytes) (attachmentId : String) (content : Bytes) :
    SignedInfo :=
  signedInfoOver [referenceTo references.messagingId messagingForm, referenceTo references.bodyId bodyForm,
    referenceToAttachment attachmentId content]

def userMessaging (localParty : AS4InternalParty) (remoteParty : AS4ExternalParty) (args : PeppolAS4MessageBuilderArgs)
    (references : AS4References) (draws : Draws) : Messaging :=
  messagingOver references (getUserMessage localParty remoteParty args references draws)

/-- The envelope of a user message, from the encrypted session key, what was signed and
the signature. -/
def userEnvelope (localParty : AS4InternalParty) (remoteParty : AS4ExternalParty) (args : PeppolAS4MessageBuilderArgs)
    (references : AS4References) (draws : Draws) (encryptedSessionKey : Bytes) (info : SignedInfo) (value : Bytes) : Envelope where
  header :=
    { security :=
        { binarySecurityTokens :=
            [getRemoteBinarySecurityToken remoteParty references, getLocalBinarySecurityToken localParty references]
          encryptedKey := some (getEncryptedKey references encryptedSessionKey)
          encryptedData := some (getEncryptedData references)
          signature := some (signalSignature references info value) }
      messaging := userMessaging localParty remoteParty args references draws }
  body := { bodyId := some references.bodyId }

variable {localParty : AS4InternalParty} {remoteParty : AS4ExternalParty} {args : PeppolAS4MessageBuilderArgs}
  {references : AS4References} {draws : Draws} {encryptedSessionKey content : Bytes} {attachmentId : String} {envelope : Envelope}

/-- What is signed, in canonical form, and the signature over it. -/
theorem getSoapEnvelope_shape :
    getSoapEnvelope localParty remoteParty args references draws encryptedSessionKey [(attachmentId, content)] = .ok envelope ↔
    ∃ messagingForm bodyForm infoForm value,
      Libraries.canonicalForm (.root (Messaging.codec.element (eb3 "Messaging")
          (userMessaging localParty remoteParty args references draws))) [] = some messagingForm ∧
        Libraries.canonicalForm (.root (Body.codec.element (soap12 "Body") { bodyId := some references.bodyId })) [] =
          some bodyForm ∧
        Libraries.canonicalForm (.root (SignedInfo.codec.element (ds "SignedInfo")
          (userInfo references messagingForm bodyForm attachmentId content))) [] = some infoForm ∧
        localParty.credentials.privateKey.sign infoForm = .ok value ∧
        envelope = userEnvelope localParty remoteParty args references draws encryptedSessionKey
          (userInfo references messagingForm bodyForm attachmentId content) value := by
  have supported : digestAlgorithmMap xmlencSha256 = some .sha256 := by decide
  simp only [getSoapEnvelope, getSignedInfo, getPayloadDigestReferences, getMessagingDigestReference, getBodyDigestReference,
    getSignature, bind_ok, pure_ok, referenceForElement_ok, referenceForBytes, computeDigest_ok, supported, Except.ok.injEq]
  constructor
  · rintro ⟨_, ⟨_, ⟨messagingForm, messagingTaken, rfl⟩, _, ⟨bodyForm, bodyTaken, rfl⟩, _,
      ⟨_, ⟨_, ⟨hash, ⟨⟩, rfl⟩, rfl⟩, _, rfl, rfl⟩, rfl⟩, _, ⟨infoForm, infoTaken, value, signed, rfl⟩, rfl⟩
    exact ⟨messagingForm, bodyForm, infoForm, value, messagingTaken, bodyTaken, canonicalize_ok.mp infoTaken, signed, rfl⟩
  · rintro ⟨messagingForm, bodyForm, infoForm, value, messagingTaken, bodyTaken, infoTaken, signed, rfl⟩
    exact ⟨_, ⟨_, ⟨messagingForm, messagingTaken, rfl⟩, _, ⟨bodyForm, bodyTaken, rfl⟩, _,
      ⟨_, ⟨_, ⟨_, rfl, rfl⟩, rfl⟩, _, rfl, rfl⟩, rfl⟩, _, ⟨infoForm, canonicalize_ok.mpr infoTaken, value, signed, rfl⟩, rfl⟩

end Shape

section Laws

omit [Libraries] in
/-- What a user message says of its arguments and its ids shows when it is read. -/
structure Worded (args : PeppolAS4MessageBuilderArgs) (references : AS4References) : Prop extends Documented args where
  messageId : strip references.messageId ≠ ""
  conversationId : strip references.conversationId ≠ ""

variable {localParty : AS4InternalParty} {remoteParty : AS4ExternalParty} {args : PeppolAS4MessageBuilderArgs}
  {references : AS4References} {draws : Draws} {encryptedSessionKey messagingForm bodyForm content value : Bytes}
  {attachmentId dataId : String}

-- The records a user message is made of, and how each is written.
attribute [local simp] Envelope.codec Header.codec Security.codec Messaging.codec Body.codec UserMessage.codec
  MessageInfo.codec PartyInfo.codec Party.codec PartyId.codec CollaborationInfo.codec Service.codec
  AgreementRef.codec MessageProperties.codec Property.codec PayloadInfo.codec PartInfo.codec PartProperties.codec
  BinarySecurityToken.codec Signature.codec SignedInfo.codec CanonicalizationMethod.codec SignatureMethod.codec
  SignatureValue.codec KeyInfo.codec SecurityTokenReference.codec WsseReference.codec DsigReference.codec
  Transforms.codec Transform.codec DigestMethod.codec DigestValue.codec EncryptedKey.codec EncryptedType.codec
  EncryptionMethod.codec MGF.codec CipherData.codec CipherValue.codec CipherReference.codec XencTransforms.codec
  ReferenceList.codec XencReference.codec stringText userEnvelope userMessaging messagingOver getUserMessage
  participantProperty partFor userInfo signedInfoOver referenceTo referenceToAttachment signalSignature
  getEncryptedKey getEncryptedData encryptedDataFor keyInfoFor getRemoteBinarySecurityToken
  getLocalBinarySecurityToken AS4PartyIdentity.toPartyFrom AS4PartyIdentity.toPartyTo

theorem userEnvelope_admits (mapped : references.attachmentIdEncryptedDataIdMap = [(attachmentId, dataId)]) :
    Envelope.codec.admits (userEnvelope localParty remoteParty args references draws encryptedSessionKey
      (userInfo references messagingForm bodyForm attachmentId content) value) := by
  simp [mapped]

theorem userEnvelope_named (mapped : references.attachmentIdEncryptedDataIdMap = [(attachmentId, dataId)]) :
    Named (Envelope.codec.element (soap12 "Envelope") (userEnvelope localParty remoteParty args references draws encryptedSessionKey
      (userInfo references messagingForm bodyForm attachmentId content) value)) := by
  simp [named_written, mapped]

/-- The ids a user message carries, in document order. -/
def userIds (references : AS4References) (dataId : String) : List String :=
  [references.encryptedKeyBstId, references.signatureBstId, references.encryptedKeyId, dataId, references.signatureId,
    references.keyInfoId, references.signatureSecurityTokenReferenceId, references.messagingId, references.bodyId]

theorem userEnvelope_identifiers (mapped : references.attachmentIdEncryptedDataIdMap = [(attachmentId, dataId)])
    (solid : ∀ id ∈ userIds references dataId, id ≠ "") :
    identifiers (Envelope.codec.element (soap12 "Envelope") (userEnvelope localParty remoteParty args references draws encryptedSessionKey
      (userInfo references messagingForm bodyForm attachmentId content) value)) = userIds references dataId := by
  simp only [userIds, List.mem_cons, List.not_mem_nil, or_false, forall_eq_or_imp, forall_eq] at solid
  have words : base64Binary ≠ "" ∧ x509V3 ≠ "" ∧ exclusiveC14N ≠ "" ∧ dsigRsaSha256 ≠ "" ∧ xmlencSha256 ≠ "" ∧
      attachmentContentSignature ≠ "" ∧ rsaOaep ≠ "" ∧ aes128Gcm ≠ "" ∧ peppolPartyIdentifierType ≠ "" ∧
      iso6523ActorId ≠ "" ∧ cenbiiProcidUbl ≠ "" := by
    decide
  have shown : ∀ name, (QName.plain name).localName = name := fun _ => rfl
  simp [identifiers_written, mapped, userIds, Scalar.string,
    Scalar.optional, solid, boolScalar, words, wsu, wsse11, plain, shown, soap12, attributeIds_other]

theorem userEnvelope_readable (mapped : references.attachmentIdEncryptedDataIdMap = [(attachmentId, dataId)])
    (hashes : ∀ data, Libraries.digest .sha256 data ≠ []) (stamps : Stamps draws.messageTime)
    (certified : localParty.credentials.certificate.der ≠ [] ∧ remoteParty.credentials.certificate.der ≠ [])
    (solid : ∀ id ∈ userIds references dataId, id ≠ "") (worded : Worded args references) :
    Envelope.codec.readable (userEnvelope localParty remoteParty args references draws encryptedSessionKey
      (userInfo references messagingForm bodyForm attachmentId content) value) := by
  simp only [userIds, List.mem_cons, List.not_mem_nil, or_false, forall_eq_or_imp, forall_eq] at solid
  have stamped : (requiredText datetimeScalar "value").readable draws.messageTime := requiredText_readable.mpr stamps
  have words : base64Binary ≠ "" ∧ x509V3 ≠ "" ∧ exclusiveC14N ≠ "" ∧ dsigRsaSha256 ≠ "" ∧ xmlencSha256 ≠ "" ∧
      attachmentContentSignature ≠ "" ∧ rsaOaep ≠ "" ∧ aes128Gcm ≠ "" := by
    decide
  have texts : strip initiator ≠ "" ∧ strip responder ≠ "" ∧ strip "application/xml" ≠ "" ∧ strip "application/gzip" ≠ "" ∧
      strip "urn:fdc:peppol.eu:2017:agreements:tia:ap_provider" ≠ "" := by decide
  have understood : (attributeOr boolScalar true (soap12 "mustUnderstand") "must_understand").readable true :=
    .inr ⟨true, boolScalar_rereads true⟩
  have ciphered : (textOr (Scalar.optional .string) none "value").readable (some (Base64.b64encode encryptedSessionKey)) :=
    .inr ⟨_, rfl⟩
  simp [mapped, solid, words, texts,
    stamped, understood, ciphered, certified, hashes, Base64.strip_b64encode, Base64.b64encode_eq_empty,
    signatureValue_readable, canonicalization_readable, flag_readable, worded.messageId, worded.processIdentifier,
    action_shows, worded.conversationId, worded.sender, worded.recipient]

end Laws

section Delivered
variable {localParty receiver : AS4InternalParty} {remoteParty : AS4ExternalParty} {args : PeppolAS4MessageBuilderArgs}
  {references : AS4References} {draws : Draws} {encryptedSessionKey content : Bytes} {attachmentId dataId : String}
  {envelope : Envelope}

/-- The elements a user message is signed over. -/
def userElements (localParty : AS4InternalParty) (remoteParty : AS4ExternalParty) (args : PeppolAS4MessageBuilderArgs)
    (references : AS4References) (draws : Draws) : List (String × Node) :=
  [(references.messagingId,
      Messaging.codec.element (eb3 "Messaging") (userMessaging localParty remoteParty args references draws)),
   (references.bodyId, Body.codec.element (soap12 "Body") { bodyId := some references.bodyId })]

theorem user_signed (agrees : KeyAgrees localParty) (solid : ∀ id ∈ userIds references dataId, id ≠ "")
    (distinct : (userIds references dataId).Nodup)
    (made : getSoapEnvelope localParty remoteParty args references draws encryptedSessionKey [(attachmentId, content)] =
      .ok envelope) :
    ∃ signature, Signed (Envelope.codec.element (soap12 "Envelope") envelope) envelope.header.security
      localParty.credentials.certificate (getLocalBinarySecurityToken localParty references) signature
      (userElements localParty remoteParty args references draws) [(attachmentId, content)] := by
  obtain ⟨messagingForm, bodyForm, infoForm, value, messagingTaken, bodyTaken, infoTaken, signed, rfl⟩ :=
    getSoapEnvelope_shape.mp made
  simp only [userIds, List.mem_cons, List.not_mem_nil, or_false, forall_eq_or_imp, forall_eq] at solid
  -- Two tokens are in the header, and the signature names the second.
  have apart : references.encryptedKeyBstId ≠ references.signatureBstId := by
    simp only [userIds, List.nodup_cons, List.mem_cons, not_or] at distinct
    exact distinct.1.1
  have supported : digestAlgorithmMap xmlencSha256 = some .sha256 := by decide
  obtain ⟨filled, key, keyed, verifies⟩ := agrees infoForm value signed
  refine ⟨signalSignature references (userInfo references messagingForm bodyForm attachmentId content) value, ?_, rfl, rfl,
    rfl, rfl, rfl, rfl, ⟨[_, _], [_], rfl, ?_, ?_⟩, ?_, key, infoForm, value, keyed, infoTaken, rfl, filled, verifies⟩
  · simp [findToken, userEnvelope, getRemoteBinarySecurityToken, getLocalBinarySecurityToken, apart.symm]
  · exact .cons (referenceForElement_ok.mpr ⟨_, messagingTaken, rfl⟩)
      (.cons (referenceForElement_ok.mpr ⟨_, bodyTaken, rfl⟩) .nil)
  · refine .cons ?_ .nil
    simp only [referenceForBytes, bind_ok, pure_ok, computeDigest_ok, supported]
    exact ⟨_, ⟨_, rfl, rfl⟩, rfl⟩
  · simp only [userElements, List.mem_cons, List.not_mem_nil, or_false, forall_eq_or_imp, forall_eq]
    exact ⟨messaging_carried rfl solid.2.2.2.2.2.2.2.1, body_carried rfl solid.2.2.2.2.2.2.2.2⟩

/-- The key of a party opens what is enciphered for its certificate. -/
def KeyOpens (party : AS4InternalParty) : Prop :=
  ∀ key, Libraries.publicKey party.credentials.certificate.der = some (.rsa key) → ∀ seed data,
    Libraries.rsaEncrypt key seed data ≠ [] ∧
      party.credentials.privateKey.decrypt (Libraries.rsaEncrypt key seed data) = .ok data

/-- The cipher opens what it enciphered, under a nonce of the length the reader expects. -/
structure Enciphers (draws : Draws) : Prop where
  nonce : draws.nonce.length = 12
  opens : ∀ data, Libraries.aesgcmDecrypt draws.sessionKey draws.nonce
    (Libraries.aesgcmEncrypt draws.sessionKey draws.nonce data) = some data

theorem user_encrypted (enciphers : Enciphers draws) (opens : KeyOpens receiver) {remoteKey : RSAPublicKey}
    (keyed : Libraries.publicKey receiver.credentials.certificate.der = some (.rsa remoteKey))
    (mapped : references.attachmentIdEncryptedDataIdMap = [(attachmentId, dataId)]) (solid : dataId ≠ "")
    (made : getSoapEnvelope localParty remoteParty args references draws
      (Libraries.rsaEncrypt remoteKey draws.oaepSeed draws.sessionKey) [(attachmentId, content)] = .ok envelope) :
    ∃ key data, Encrypted envelope.header.security receiver.credentials.privateKey key data dataId attachmentId
      (encryptPayload draws content) content := by
  obtain ⟨_, _, _, value, -, -, -, -, rfl⟩ := getSoapEnvelope_shape.mp made
  obtain ⟨filled, decrypts⟩ := opens remoteKey keyed draws.oaepSeed draws.sessionKey
  -- The nonce is sent in front of what it enciphered.
  have opened : Libraries.aesgcmDecrypt draws.sessionKey ((encryptPayload draws content).take 12)
      ((encryptPayload draws content).drop 12) = some content := by
    rw [encryptPayload, List.take_left' enciphers.nonce, List.drop_left' enciphers.nonce]
    exact enciphers.opens content
  refine ⟨getEncryptedKey references (Libraries.rsaEncrypt remoteKey draws.oaepSeed draws.sessionKey),
    encryptedDataFor references.encryptedKeyId attachmentId dataId, rfl, rfl,
    ⟨_, _, draws.sessionKey, rfl, rfl, filled, decrypts, opened⟩, ?_, ?_, ⟨rfl, solid⟩, ⟨_, rfl, rfl⟩, rfl⟩
  · simp only [getEncryptedKey, mapped, List.map_cons, List.map_nil]
    rfl
  · simp [userEnvelope, getEncryptedData, mapped]

end Delivered

end BuiltUserMessages
