import AS4.AcceptedDelivery
import AS4.ReferenceVerification

/-!
Messages under policies that do not ask for everything: a user message with some
security header, unsigned or unencrypted, is read back as it was written and goes
through the stages its policy leaves on.
-/

namespace LooseMessages
open ElementTree ElementCodec ElementCodec.Codec FallibleSteps PythonData AS4Libraries AS4Errors SignatureModel
  EncryptionModel MessagingModel EnvelopeModel Verification MessageParsing SignalBuilding MessageBuilding AcceptedMessage
  RecordLaws RecordReadings WrittenIdentifiers WrittenEnvelope SignedReadings MessageReadings RecordedExchange
  ReceivingRuns DeliveredMessage AcceptedDelivery ReferenceVerification

section Content

def looseUser (messageId : String) (parts : List PartInfo) : UserMessage :=
  { deliveredUser parts with messageInfo := { timestamp := answerTime, messageId := messageId } }

def looseMessaging (messageId : String) (parts : List PartInfo) : Messaging :=
  { deliveredMessaging parts with userMessages := [looseUser messageId parts] }

/-- The delivered message under another id and another security header. -/
def looseEnvelope (messageId : String) (security : Security) (parts : List PartInfo) : Envelope where
  header := { security := security, messaging := looseMessaging messageId parts }
  body := deliveredBody

/-- A document that is the only one there is what its text parses to. -/
theorem alone_listed (document : Node) :
    [document].find? (fun other => Serialisation.plainText other == Serialisation.plainText document) = some document :=
  List.find?_cons_of_pos (by simp)

/-- And one of two is, when the other has another text. -/
theorem listed_last {document other : Node} (apart : Serialisation.plainText document ≠ Serialisation.plainText other) :
    [document, other].find? (fun listed => Serialisation.plainText listed == Serialisation.plainText other) =
      some other := by
  rw [List.find?_cons_of_neg (by simpa using apart)]
  exact List.find?_cons_of_pos (beq_self_eq_true _)

end Content

section Laws
variable [Libraries] {messageId : String} {security : Security} {parts : List PartInfo}

theorem looseEnvelope_admits (securityAdmits : Security.codec.admits security)
    (partsAdmit : ∀ part ∈ parts, PartInfo.codec.admits part) :
    Envelope.codec.admits (looseEnvelope messageId security parts) := by
  obtain ⟨bodyAdmits, -⟩ := honest_body
  simp [Envelope.codec, Header.codec, Messaging.codec, UserMessage.codec, MessageInfo.codec, PartyInfo.codec, Party.codec,
    PartyId.codec, CollaborationInfo.codec, Service.codec, MessageProperties.codec, Property.codec, PayloadInfo.codec,
    stringText, looseEnvelope, looseMessaging, looseUser, deliveredMessaging, deliveredUser, participantProperty,
    bodyAdmits, securityAdmits]
  exact partsAdmit

theorem looseEnvelope_readable (stamps : Stamps answerTime) (named : strip messageId ≠ "")
    (securityReadable : Security.codec.readable security) (partsReadable : ∀ part ∈ parts, PartInfo.codec.readable part) :
    Envelope.codec.readable (looseEnvelope messageId security parts) := by
  obtain ⟨-, bodyReadable, -⟩ := honest_body
  have stamped : (requiredText datetimeScalar "value").readable answerTime := requiredText_readable.mpr stamps
  have texts : strip initiator ≠ "" ∧ strip responder ≠ "" ∧ strip "service" ≠ "" ∧ strip "action" ≠ "" ∧
      strip "conversation" ≠ "" ∧ strip "9932:9999999999" ≠ "" ∧ strip "9932:1111111111" ≠ "" ∧
      strip "9999999999" ≠ "" ∧ strip "1111111111" ≠ "" := by decide
  simp [Envelope.codec, Header.codec, Messaging.codec, UserMessage.codec, MessageInfo.codec, PartyInfo.codec, Party.codec,
    PartyId.codec, CollaborationInfo.codec, Service.codec, MessageProperties.codec, Property.codec, PayloadInfo.codec,
    stringText, looseEnvelope, looseMessaging, looseUser, deliveredMessaging, deliveredUser, participantProperty,
    bodyReadable, securityReadable, stamped, named, texts, flag_readable]
  exact partsReadable

theorem looseEnvelope_named (securityNamed : Named (Security.codec.element (wsse "Security") security))
    (partsNamed : NamedIn (parts.map (PartInfo.codec.element (eb3 "PartInfo")))) :
    Named (Envelope.codec.element (soap12 "Envelope") (looseEnvelope messageId security parts)) := by
  obtain ⟨-, -, bodyNamed, -⟩ := honest_body
  simp [named_written, Envelope.codec, Header.codec, Messaging.codec, UserMessage.codec, MessageInfo.codec,
    PartyInfo.codec, Party.codec, PartyId.codec, CollaborationInfo.codec, Service.codec, MessageProperties.codec,
    Property.codec, PayloadInfo.codec, stringText, looseEnvelope, looseMessaging, looseUser, deliveredMessaging,
    deliveredUser, participantProperty, partsNamed]
  exact ⟨(named_written _ _ _).mp securityNamed, (named_written _ _ _).mp bodyNamed⟩

theorem looseEnvelope_identifiers :
    identifiers (Envelope.codec.element (soap12 "Envelope") (looseEnvelope messageId security parts)) =
      identifiers (Security.codec.element (wsse "Security") security) ++
        (["M"] ++ (identifiersIn (parts.map (PartInfo.codec.element (eb3 "PartInfo"))) ++ ["B"])) := by
  obtain ⟨-, -, -, bodyIdentified⟩ := honest_body
  have words : peppolPartyIdentifierType ≠ "" ∧ iso6523ActorId ≠ "" ∧ boolScalar.encode true ≠ "" := by decide
  have shown : ∀ name, (QName.plain name).localName = name := fun _ => rfl
  rw [identifiers_written] at bodyIdentified
  simp [identifiers_written, Envelope.codec, Header.codec, Messaging.codec, UserMessage.codec, MessageInfo.codec,
    PartyInfo.codec, Party.codec, PartyId.codec, CollaborationInfo.codec, Service.codec, MessageProperties.codec,
    Property.codec, PayloadInfo.codec, stringText, looseEnvelope, looseMessaging, looseUser, deliveredMessaging,
    deliveredUser, participantProperty, Scalar.string, Scalar.optional, words, wsu, plain, soap12, shown]
  exact bodyIdentified

/-- A security header that can be written and read, with these identifiers. -/
structure Writes (security : Security) (ids : List String) : Prop where
  admits : Security.codec.admits security
  readable : Security.codec.readable security
  named : Named (Security.codec.element (wsse "Security") security)
  identified : identifiers (Security.codec.element (wsse "Security") security) = ids

/-- The part of the delivered message, which names this attachment, or none. -/
theorem looseEnvelope_indexed {ids : List String} {hrefs : List (Option String)} (writes : Writes security ids)
    (distinct : (ids ++ ["M", "B"]).Nodup) :
    ∃ index, indexElementsById (.root (Envelope.codec.element (soap12 "Envelope")
      (looseEnvelope messageId security (hrefs.map deliveredPart)))) = .ok index := by
  refine index_ok_iff.mpr ⟨looseEnvelope_named writes.named (namedIn_of_all ?_), ?_⟩
  · intro node member
    obtain ⟨_, inside, rfl⟩ := List.mem_map.mp member
    obtain ⟨href, -, rfl⟩ := List.mem_map.mp inside
    exact deliveredPart_named href
  · have unnamed : identifiersIn ((hrefs.map deliveredPart).map (PartInfo.codec.element (eb3 "PartInfo"))) = [] := by
      refine identifiersIn_of_all fun node member => ?_
      obtain ⟨_, inside, rfl⟩ := List.mem_map.mp member
      obtain ⟨href, -, rfl⟩ := List.mem_map.mp inside
      exact deliveredPart_unnamed href
    rw [looseEnvelope_identifiers, writes.identified, unnamed]
    exact distinct

end Laws

section Headers
variable [Libraries] {signer : Bytes}

/-- Nothing but a token. -/
def bareSecurity (signer : Bytes) : Security where
  binarySecurityTokens := [deliveredToken signer]

/-- The same with the texts of its token and its session key as given. -/
def encryptedSecurity (token key : String) : Security where
  binarySecurityTokens := [⟨base64Binary, x509V3, "T", token⟩]
  encryptedKey := some { deliveredKey with cipherData := { cipherValue := some { value := some key } } }
  encryptedData := some [deliveredData]

/-- An encrypted key that opens the delivered attachment, and no signature. -/
def unsignedSecurity (signer : Bytes) : Security :=
  { bareSecurity signer with encryptedKey := some deliveredKey, encryptedData := some [deliveredData] }

/-- A signature, and nothing encrypted. -/
def plainSecurity (signer : Bytes) (elements : List (String × Node)) (payloads : Dict String Bytes) : Security :=
  { bareSecurity signer with signature := some (deliveredSignature elements payloads) }

theorem bareSecurity_writes (solid : signer ≠ []) : Writes (bareSecurity signer) ["T"] := by
  have words : base64Binary ≠ "" ∧ x509V3 ≠ "" := by decide
  have shown : ∀ name, (QName.plain name).localName = name := fun _ => rfl
  have understood : (attributeOr boolScalar true (soap12 "mustUnderstand") "must_understand").readable true :=
    .inr ⟨true, boolScalar_rereads true⟩
  refine ⟨?_, ?_, ?_, ?_⟩
  · simp [Security.codec, BinarySecurityToken.codec, stringText, bareSecurity, deliveredToken]
  · simp [Security.codec, BinarySecurityToken.codec, stringText, bareSecurity, deliveredToken, words, understood,
      Base64.strip_b64encode, Base64.b64encode_eq_empty, solid]
  · simp [named_written, Security.codec, BinarySecurityToken.codec, stringText, bareSecurity, deliveredToken]
  · simp [identifiers_written, Security.codec, BinarySecurityToken.codec, stringText, bareSecurity, deliveredToken,
      Scalar.string, boolScalar, words, wsu, plain, soap12, shown]

theorem encryptedSecurity_writes {token key : String} (solid : strip token ≠ "") :
    Writes (encryptedSecurity token key) ["T", "D"] := by
  have words : base64Binary ≠ "" ∧ x509V3 ≠ "" ∧ rsaOaep ≠ "" ∧ aes128Gcm ≠ "" := by decide
  have shown : ∀ name, (QName.plain name).localName = name := fun _ => rfl
  have understood : (attributeOr boolScalar true (soap12 "mustUnderstand") "must_understand").readable true :=
    .inr ⟨true, boolScalar_rereads true⟩
  have ciphered : (textOr (Scalar.optional .string) none "value").readable (some key) := .inr ⟨_, rfl⟩
  refine ⟨?_, ?_, ?_, ?_⟩
  · simp [Security.codec, BinarySecurityToken.codec, KeyInfo.codec, EncryptedKey.codec, EncryptedType.codec,
      EncryptionMethod.codec, CipherData.codec, CipherValue.codec, CipherReference.codec, XencTransforms.codec,
      ReferenceList.codec, XencReference.codec, stringText, encryptedSecurity, deliveredKey, deliveredData]
  · simp [Security.codec, BinarySecurityToken.codec, KeyInfo.codec, EncryptedKey.codec, EncryptedType.codec,
      EncryptionMethod.codec, CipherData.codec, CipherValue.codec, CipherReference.codec, XencTransforms.codec,
      ReferenceList.codec, XencReference.codec, stringText, encryptedSecurity, deliveredKey, deliveredData, words,
      understood, ciphered, solid]
  · simp [named_written, Security.codec, BinarySecurityToken.codec, KeyInfo.codec, EncryptedKey.codec,
      EncryptedType.codec, EncryptionMethod.codec, CipherData.codec, CipherValue.codec, CipherReference.codec,
      XencTransforms.codec, ReferenceList.codec, XencReference.codec, stringText, encryptedSecurity, deliveredKey,
      deliveredData]
  · simp [identifiers_written, Security.codec, BinarySecurityToken.codec, KeyInfo.codec, EncryptedKey.codec,
      EncryptedType.codec, EncryptionMethod.codec, CipherData.codec, CipherValue.codec, CipherReference.codec,
      XencTransforms.codec, ReferenceList.codec, XencReference.codec, stringText, encryptedSecurity, deliveredKey,
      deliveredData, Scalar.string, Scalar.optional, boolScalar, words, wsu, plain, soap12, shown]

theorem unsignedSecurity_writes (solid : signer ≠ []) : Writes (unsignedSecurity signer) ["T", "D"] :=
  encryptedSecurity_writes
    (by rw [Base64.strip_b64encode]; exact fun empty => solid (Base64.b64encode_eq_empty.mp empty))

theorem plainSecurity_writes {elements : List (String × Node)} {payloads : Dict String Bytes} (solid : signer ≠ []) :
    Writes (plainSecurity signer elements payloads) ["T"] := by
  have words : base64Binary ≠ "" ∧ x509V3 ≠ "" ∧ exclusiveC14N ≠ "" ∧ dsigRsaSha256 ≠ "" ∧ xmlencSha256 ≠ "" := by
    decide
  have shown : ∀ name, (QName.plain name).localName = name := fun _ => rfl
  have understood : (attributeOr boolScalar true (soap12 "mustUnderstand") "must_understand").readable true :=
    .inr ⟨true, boolScalar_rereads true⟩
  refine ⟨?_, ?_, ?_, ?_⟩
  · simp [Security.codec, BinarySecurityToken.codec, Signature.codec, SignedInfo.codec, CanonicalizationMethod.codec,
      SignatureMethod.codec, SignatureValue.codec, KeyInfo.codec, SecurityTokenReference.codec, WsseReference.codec,
      DsigReference.codec, Transforms.codec, Transform.codec, DigestMethod.codec, DigestValue.codec, X509Data.codec,
      stringText, plainSecurity, bareSecurity, deliveredToken, deliveredSignature]
    intro reference member
    obtain ⟨transform, uri, content, -, rfl⟩ := deliveredInfo_references member
    simp
  · have references : ∀ reference ∈ (deliveredInfo elements payloads).references, DsigReference.codec.readable reference := by
      intro reference member
      obtain ⟨transform, uri, content, -, rfl⟩ := deliveredInfo_references member
      simp [DsigReference.codec, Transforms.codec, Transform.codec, DigestMethod.codec, DigestValue.codec, stringText,
        words, Base64.strip_b64encode, Base64.b64encode_eq_empty]
    simp [Security.codec, BinarySecurityToken.codec, Signature.codec, SignedInfo.codec, CanonicalizationMethod.codec,
      SignatureMethod.codec, SignatureValue.codec, KeyInfo.codec, SecurityTokenReference.codec, WsseReference.codec,
      X509Data.codec, stringText, plainSecurity, bareSecurity, deliveredToken, deliveredSignature, words, understood,
      Base64.strip_b64encode, Base64.b64encode_eq_empty, solid, signatureValue_readable, canonicalization_readable]
    exact references
  · have references : NamedIn ((deliveredInfo elements payloads).references.map
        (DsigReference.codec.element (ds "Reference"))) := by
      refine namedIn_of_all fun node member => ?_
      obtain ⟨reference, inside, rfl⟩ := List.mem_map.mp member
      obtain ⟨transform, uri, content, -, rfl⟩ := deliveredInfo_references inside
      simp [named_written, DsigReference.codec, Transforms.codec, Transform.codec, DigestMethod.codec, DigestValue.codec,
        stringText]
    simp [named_written, Security.codec, BinarySecurityToken.codec, Signature.codec, SignedInfo.codec,
      CanonicalizationMethod.codec, SignatureMethod.codec, SignatureValue.codec, KeyInfo.codec,
      SecurityTokenReference.codec, WsseReference.codec, X509Data.codec, stringText, plainSecurity, bareSecurity,
      deliveredToken, deliveredSignature, references]
  · have references : identifiersIn ((deliveredInfo elements payloads).references.map
        (DsigReference.codec.element (ds "Reference"))) = [] := by
      refine identifiersIn_of_all fun node member => ?_
      obtain ⟨reference, inside, rfl⟩ := List.mem_map.mp member
      obtain ⟨transform, uri, content, solid, rfl⟩ := deliveredInfo_references inside
      simp [identifiers_written, DsigReference.codec, Transforms.codec, Transform.codec, DigestMethod.codec,
        DigestValue.codec, stringText, Scalar.string, Scalar.optional, plain, attributeIds_other]
    simp [identifiers_written, Security.codec, BinarySecurityToken.codec, Signature.codec, SignedInfo.codec,
      CanonicalizationMethod.codec, SignatureMethod.codec, SignatureValue.codec, KeyInfo.codec,
      SecurityTokenReference.codec, WsseReference.codec, X509Data.codec, stringText, plainSecurity, bareSecurity,
      deliveredToken, deliveredSignature, references, Scalar.string, Scalar.optional, boolScalar, words, wsu, plain, soap12,
      shown]

end Headers

section Acceptance
variable [Libraries] {context : AS4ParseContext} {soapBytes : Bytes} {messageId : String} {security : Security}
  {ids : List String} {hrefs : List (Option String)} {mimeAttachments decrypted result : Dict String Bytes}

/-- What is read from a loose message. -/
theorem looseEnvelope_rereads (stamps : Stamps answerTime) (named : strip messageId ≠ "") (writes : Writes security ids) :
    ∃ envelope user,
      Envelope.codec.validate (.root (Envelope.codec.element (soap12 "Envelope")
        (looseEnvelope messageId security (hrefs.map deliveredPart)))) = .ok envelope ∧
      (∃ child, Security.codec.reread child security envelope.header.security) ∧
      requireUserMessage envelope = .ok user ∧
      ∃ child, UserMessage.codec.reread child (looseUser messageId (hrefs.map deliveredPart)) user := by
  have partsAdmit : ∀ part ∈ hrefs.map deliveredPart, PartInfo.codec.admits part := by
    intro part member
    obtain ⟨href, -, rfl⟩ := List.mem_map.mp member
    exact deliveredPart_admits href
  have partsReadable : ∀ part ∈ hrefs.map deliveredPart, PartInfo.codec.readable part := by
    intro part member
    obtain ⟨href, -, rfl⟩ := List.mem_map.mp member
    exact deliveredPart_readable href
  have admits : Envelope.codec.admits (looseEnvelope messageId security (hrefs.map deliveredPart)) :=
    looseEnvelope_admits writes.admits partsAdmit
  obtain ⟨reads, kept⟩ := rereads_element Envelope.lawful admits
    (n := .root (Envelope.codec.element (soap12 "Envelope") (looseEnvelope messageId security (hrefs.map deliveredPart)))) rfl
  obtain ⟨envelope, read⟩ := reads.mp (looseEnvelope_readable stamps named writes.readable partsReadable)
  obtain ⟨⟨header, -, -, headerRead⟩, -⟩ := Envelope.rereads (kept envelope read)
  obtain ⟨⟨securityAt, -, -, securityRead⟩, messaging, -, -, messagingRead⟩ := Header.rereads headerRead
  obtain ⟨-, -, users⟩ := Messaging.rereads messagingRead
  obtain ⟨user, one, child, userRead⟩ := mem_single users
  exact ⟨envelope, user, read, ⟨securityAt, securityRead⟩, requireUserMessage_ok.mpr one, child, userRead⟩

theorem looseUser_rereads {child : Located} {user : UserMessage}
    (read : UserMessage.codec.reread child (looseUser messageId (hrefs.map deliveredPart)) user) :
    user.messageInfo.messageId = strip messageId ∧ ∃ payloadInfo, user.payloadInfo = some payloadInfo ∧
      List.Forall₂ (fun part part' => ∃ child, PartInfo.codec.reread child part part') (hrefs.map deliveredPart)
        payloadInfo.partInfo := by
  obtain ⟨⟨_, infoRead⟩, -, -, -, payloadRead⟩ := UserMessage.rereads read
  refine ⟨(MessageInfo.rereads infoRead).2.1, ?_⟩
  generalize user.payloadInfo = found at payloadRead
  cases payloadRead with
  | some each => exact ⟨_, rfl, each⟩

/-- An unsigned message goes through where no signature is asked for. -/
theorem unsigned_accepted (stamps : Stamps answerTime) (named : strip messageId ≠ "") (solid : messageId ≠ "")
    (writes : Writes security ids) (distinct : (ids ++ ["M", "B"]).Nodup)
    (parsed : Libraries.parseXml soapBytes = some (Envelope.codec.element (soap12 "Envelope")
      (looseEnvelope messageId security (hrefs.map deliveredPart))))
    (unsigned : security.signature = none) (lax : context.securityPolicy.signRequired = false)
    (decrypts : ∀ child security', Security.codec.reread child security security' →
      getDecryptedData context security' mimeAttachments = .ok decrypted)
    (unpacked : ∀ parts, List.Forall₂ (fun part part' => ∃ child, PartInfo.codec.reread child part part')
        (hrefs.map deliveredPart) parts → ∀ fields : AS4Message, fields.decryptedData = decrypted →
          decompressParts context mimeAttachments parts fields = .ok () { fields with decryptedData := result }) :
    ∃ message envelope user, parse .as4 context soapBytes mimeAttachments = .ok message ∧ message.parseError = none ∧
      message.messageId = messageId ∧ message.decryptedData = result ∧ message.soapEnvelope = some envelope ∧
      (∃ child, Security.codec.reread child security envelope.header.security) ∧
      requireUserMessage envelope = .ok user ∧ user.messageInfo.messageId = strip messageId ∧
      ∃ payloadInfo, user.payloadInfo = some payloadInfo ∧
        List.Forall₂ (fun part part' => ∃ child, PartInfo.codec.reread child part part') (hrefs.map deliveredPart)
          payloadInfo.partInfo := by
  obtain ⟨envelope, user, read, ⟨securityAt, securityRead⟩, carries, _, userRead⟩ :=
    @looseEnvelope_rereads _ messageId security ids hrefs stamps named writes
  obtain ⟨same, payloadInfo, declares, parts⟩ := looseUser_rereads userRead
  obtain ⟨index, indexed⟩ := @looseEnvelope_indexed _ messageId security ids hrefs writes distinct
  have silent : envelope.header.security.signature = none := by
    have signed := (Security.rereads securityRead).2.2.2
    rw [unsigned] at signed
    generalize envelope.header.security.signature = found at signed
    cases signed
    rfl
  have verified : getVerifiedSignature context envelope.header.security envelope index = .ok (none, none) := by
    simp [getVerifiedSignature, silent, lax]
  have core : ∀ before, processAs4 context _ mimeAttachments before = .ok () _ := fun before =>
    processAs4_runs read indexed verified (decrypts _ _ securityRead) rfl carries declares (unpacked _ parts _ rfl)
  refine ⟨_, envelope, user, parse_runs parsed (preValidate_written rfl rfl rfl solid (by decide))
    (getAddressedTo_written rfl rfl (show strip responder ≠ "" by decide)) (core _), rfl, rfl, rfl, rfl, ⟨securityAt, securityRead⟩, carries, same,
    payloadInfo, declares, parts⟩

/-- Without an encrypted key there is nothing to decrypt, where nothing has to be. -/
theorem nothing_decrypted {child : Located} {security' : Security} (plain : security.encryptedKey = none)
    (lax : context.securityPolicy.encryptRequired = false) (read : Security.codec.reread child security security') :
    getDecryptedData context security' mimeAttachments = .ok [] := by
  have keyless : security'.encryptedKey = none := by
    have keyed := (Security.rereads read).2.1
    rw [plain] at keyed
    generalize security'.encryptedKey = found at keyed
    cases keyed
    rfl
  simp [getDecryptedData, keyless, lax]

omit [Libraries] in
/-- Parts that name nothing are read as such. -/
theorem unnamed_parts {parts : List PartInfo} (unnamed : ∀ href ∈ hrefs, href = none)
    (read : List.Forall₂ (fun part part' => ∃ child, PartInfo.codec.reread child part part') (hrefs.map deliveredPart)
      parts) : ∀ part ∈ parts, part.href = none := by
  intro part member
  obtain ⟨before, inside, _, same⟩ := forall₂_source read member
  obtain ⟨href, listed, rfl⟩ := List.mem_map.mp inside
  rw [(PartInfo.rereads same).2, deliveredPart, unnamed href listed]
  rfl

omit [Libraries] in
/-- A policy that asks for neither a signature nor encryption. -/
def looseContext (documents : List Node) : @AS4ParseContext (signing documents) :=
  letI := signing documents
  { localParty := answeringParty documents
    securityPolicy :=
      { signerResolver := trustEmbedded documents, signRequired := false, encryptRequired := false } }

end Acceptance

end LooseMessages
