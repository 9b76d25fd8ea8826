import AS4.MessageReadings
import AS4.RestoredSenders

/-!
A delivered message: a user message about the recorded business document, encrypted for
its receiver and signed by the holder of some certificate over elements and payloads
that are left open. The key info of its signature has an X509Data with nothing in it.
-/

namespace DeliveredMessage
open ElementTree ElementCodec ElementCodec.Codec FallibleSteps PythonData AS4Libraries AS4Errors SignatureModel
  EncryptionModel MessagingModel EnvelopeModel BusinessDocument Verification MessageParsing SignalBuilding
  MessageBuilding RecordLaws RecordReadings Serialisation RecordedExchange WrittenEnvelope WrittenIdentifiers
  SignedReadings MessageReadings AcceptedMessage ReceivingRuns RestoredSenders

section Content

/-- A reference of the sender over an attachment. -/
def payloadReferenceOver (uri : String) (content : Bytes) : DsigReference where
  transforms := ⟨[{ algorithm := some attachmentContentSignature }]⟩
  digestMethod := ⟨xmlencSha256⟩
  digestValue := ⟨Base64.b64encode (0 :: content)⟩
  uri := some uri

def deliveredUser (parts : List PartInfo) : UserMessage where
  messageInfo := { timestamp := answerTime, messageId := "message" }
  partyInfo :=
    ⟨⟨⟨"9932:9999999999", some peppolPartyIdentifierType⟩, initiator⟩,
     ⟨⟨"9932:1111111111", some peppolPartyIdentifierType⟩, responder⟩⟩
  collaborationInfo := { service := ⟨"service", none⟩, action := "action", conversationId := "conversation" }
  messageProperties := some
    ⟨[participantProperty "originalSender" "9999999999", participantProperty "finalRecipient" "1111111111"]⟩
  payloadInfo := some ⟨parts⟩

def deliveredMessaging (parts : List PartInfo) : Messaging where
  userMessages := [deliveredUser parts]
  messagingId := some "M"
  mustUnderstand := some true

def deliveredInfo (elements : List (String × Node)) (payloads : Dict String Bytes) : SignedInfo :=
  signedInfoOver (elements.map (fun entry => referenceOver ("#" ++ entry.1) entry.2) ++
    payloads.map fun entry => payloadReferenceOver ("cid:" ++ entry.1) entry.2)

def deliveredSignature (elements : List (String × Node)) (payloads : Dict String Bytes) : Signature :=
  letI := signing []
  { signedInfo := deliveredInfo elements payloads
    signatureValue :=
      { value := some (0 :: canonicalText (SignedInfo.codec.element (ds "SignedInfo") (deliveredInfo elements payloads))) }
    keyInfo := { x509Data := [{}], securityTokenReference := [{ reference := { uri := some "#T" } }] } }

def deliveredKey : EncryptedKey where
  encryptionMethod := { algorithm := rsaOaep }
  keyInfo := {}
  cipherData := { cipherValue := some { value := some (Base64.b64encode sessionKey) } }
  referenceList := { dataReference := [{ uri := some "#D" }] }

def deliveredData : EncryptedType where
  encryptionMethod := { algorithm := aes128Gcm }
  keyInfo := {}
  cipherData := { cipherReference := some { transforms := {}, uri := some ("cid:" ++ attachmentId) } }
  encryptedTypeId := some "D"

def deliveredToken (signer : Bytes) : BinarySecurityToken := ⟨base64Binary, x509V3, "T", Base64.b64encode signer⟩

def deliveredSecurity (signer : Bytes) (elements : List (String × Node)) (payloads : Dict String Bytes) : Security where
  binarySecurityTokens := [deliveredToken signer]
  encryptedKey := some deliveredKey
  encryptedData := some [deliveredData]
  signature := some (deliveredSignature elements payloads)

def deliveredEnvelope (signer : Bytes) (elements : List (String × Node)) (payloads : Dict String Bytes)
    (parts : List PartInfo) (body : Body) : Envelope where
  header := { security := deliveredSecurity signer elements payloads, messaging := deliveredMessaging parts }
  body := body

end Content

section Lists
variable [Libraries]

theorem namedIn_of_all {content : List Node} (each : ∀ node ∈ content, Named node) : NamedIn content := by
  induction content with
  | nil => simp
  | cons node rest ih =>
      rw [namedIn_cons]
      exact ⟨each node List.mem_cons_self, ih fun other member => each other (List.mem_cons_of_mem _ member)⟩

omit [Libraries] in
theorem identifiersIn_of_all {content : List Node} (each : ∀ node ∈ content, identifiers node = []) :
    identifiersIn content = [] := by
  induction content with
  | nil => rfl
  | cons node rest ih =>
      rw [identifiersIn_cons, each node List.mem_cons_self, ih fun other member => each other (List.mem_cons_of_mem _ member)]
      rfl

omit [Libraries] in
theorem attributeIds_other {name value : String} {empty : Prop} [Decidable empty] (other : name ≠ "Id") :
    attributeIds (if empty then [] else [(QName.plain name, value)]) = [] := by
  have unnamed : (QName.plain name).localName ≠ "Id" := other
  split <;> simp [unnamed]

end Lists

section Written
variable [Libraries] {signer : Bytes} {elements : List (String × Node)} {payloads : Dict String Bytes}
  {parts : List PartInfo} {body : Body}

omit [Libraries] in
@[simp] theorem deliveredInfo_canonicalization :
    (deliveredInfo elements payloads).canonicalizationMethod = { algorithm := some exclusiveC14N } := rfl

omit [Libraries] in
@[simp] theorem deliveredInfo_method :
    (deliveredInfo elements payloads).signatureMethod = { algorithm := dsigRsaSha256 } := rfl

omit [Libraries] in
@[simp] theorem deliveredInfo_id : (deliveredInfo elements payloads).id = none := rfl

omit [Libraries] in
/-- Every reference of the signed info, whatever it is over. -/
theorem deliveredInfo_references {reference : DsigReference} (member : reference ∈ (deliveredInfo elements payloads).references) :
    ∃ transform uri content, transform ≠ "" ∧ reference =
      { transforms := ⟨[{ algorithm := some transform }]⟩, digestMethod := ⟨xmlencSha256⟩,
        digestValue := ⟨Base64.b64encode (0 :: content)⟩, uri := some uri } := by
  rcases List.mem_append.mp member with inElements | inPayloads
  · obtain ⟨entry, -, rfl⟩ := List.mem_map.mp inElements
    exact ⟨exclusiveC14N, _, _, by decide, rfl⟩
  · obtain ⟨entry, -, rfl⟩ := List.mem_map.mp inPayloads
    exact ⟨attachmentContentSignature, _, _, by decide, rfl⟩

theorem deliveredEnvelope_admits (bodyAdmits : Body.codec.admits body) (partsAdmit : ∀ part ∈ parts, PartInfo.codec.admits part) :
    Envelope.codec.admits (deliveredEnvelope signer elements payloads parts body) := by
  simp [Envelope.codec, Header.codec, Security.codec, Messaging.codec, UserMessage.codec, MessageInfo.codec,
    PartyInfo.codec, Party.codec, PartyId.codec, CollaborationInfo.codec, Service.codec, MessageProperties.codec,
    Property.codec, PayloadInfo.codec, BinarySecurityToken.codec, Signature.codec, SignedInfo.codec,
    CanonicalizationMethod.codec, SignatureMethod.codec, SignatureValue.codec, KeyInfo.codec, SecurityTokenReference.codec,
    WsseReference.codec, DsigReference.codec, Transforms.codec, Transform.codec, DigestMethod.codec, DigestValue.codec,
    X509Data.codec, EncryptedKey.codec, EncryptedType.codec, EncryptionMethod.codec, CipherData.codec, CipherValue.codec,
    CipherReference.codec, XencTransforms.codec, ReferenceList.codec, XencReference.codec, stringText, deliveredEnvelope,
    deliveredSecurity, deliveredMessaging, deliveredUser, deliveredToken, deliveredKey, deliveredData, deliveredSignature,
    participantProperty, bodyAdmits]
  refine ⟨fun reference member => ?_, partsAdmit⟩
  obtain ⟨transform, uri, content, -, rfl⟩ := deliveredInfo_references member
  simp

theorem deliveredEnvelope_named (bodyNamed : Named (Body.codec.element (soap12 "Body") body))
    (partsNamed : NamedIn (parts.map (PartInfo.codec.element (eb3 "PartInfo")))) :
    Named (Envelope.codec.element (soap12 "Envelope") (deliveredEnvelope signer elements payloads parts body)) := by
  have references : NamedIn ((deliveredInfo elements payloads).references.map
      (DsigReference.codec.element (ds "Reference"))) := by
    refine namedIn_of_all fun node member => ?_
    obtain ⟨reference, inside, rfl⟩ := List.mem_map.mp member
    obtain ⟨transform, uri, content, -, rfl⟩ := deliveredInfo_references inside
    simp [named_written, DsigReference.codec, Transforms.codec, Transform.codec, DigestMethod.codec, DigestValue.codec,
      stringText]
  simp [named_written, Envelope.codec, Header.codec, Security.codec, Messaging.codec, UserMessage.codec, MessageInfo.codec,
    PartyInfo.codec, Party.codec, PartyId.codec, CollaborationInfo.codec, Service.codec, MessageProperties.codec,
    Property.codec, PayloadInfo.codec, BinarySecurityToken.codec, Signature.codec, SignedInfo.codec,
    CanonicalizationMethod.codec, SignatureMethod.codec, SignatureValue.codec, KeyInfo.codec, SecurityTokenReference.codec,
    WsseReference.codec, X509Data.codec, EncryptedKey.codec, EncryptedType.codec, EncryptionMethod.codec, CipherData.codec,
    CipherValue.codec, CipherReference.codec, XencTransforms.codec, ReferenceList.codec, XencReference.codec, stringText,
    deliveredEnvelope, deliveredSecurity, deliveredMessaging, deliveredUser, deliveredToken, deliveredKey, deliveredData,
    deliveredSignature, participantProperty, bodyNamed, partsNamed, references]

/-- The identifiers of a delivered message are those of its token, its encrypted data
and its messaging header, and those of its parts and its body. -/
theorem deliveredEnvelope_identifiers :
    identifiers (Envelope.codec.element (soap12 "Envelope") (deliveredEnvelope signer elements payloads parts body)) =
      ["T", "D", "M"] ++ (identifiersIn (parts.map (PartInfo.codec.element (eb3 "PartInfo"))) ++
        identifiers (Body.codec.element (soap12 "Body") body)) := by
  have references : identifiersIn ((deliveredInfo elements payloads).references.map
      (DsigReference.codec.element (ds "Reference"))) = [] := by
    refine identifiersIn_of_all fun node member => ?_
    obtain ⟨reference, inside, rfl⟩ := List.mem_map.mp member
    obtain ⟨transform, uri, content, solid, rfl⟩ := deliveredInfo_references inside
    simp [identifiers_written, DsigReference.codec, Transforms.codec, Transform.codec, DigestMethod.codec,
      DigestValue.codec, stringText, Scalar.string, Scalar.optional, plain, attributeIds_other]
  have words : base64Binary ≠ "" ∧ x509V3 ≠ "" ∧ exclusiveC14N ≠ "" ∧ dsigRsaSha256 ≠ "" ∧ rsaOaep ≠ "" ∧
      aes128Gcm ≠ "" ∧ peppolPartyIdentifierType ≠ "" ∧ iso6523ActorId ≠ "" ∧ boolScalar.encode true ≠ "" := by
    decide
  have shown : ∀ name, (QName.plain name).localName = name := fun _ => rfl
  simp [identifiers_written, Envelope.codec, Header.codec, Security.codec, Messaging.codec, UserMessage.codec, MessageInfo.codec,
    PartyInfo.codec, Party.codec, PartyId.codec, CollaborationInfo.codec, Service.codec, MessageProperties.codec,
    Property.codec, PayloadInfo.codec, BinarySecurityToken.codec, Signature.codec, SignedInfo.codec,
    CanonicalizationMethod.codec, SignatureMethod.codec, SignatureValue.codec, KeyInfo.codec, SecurityTokenReference.codec,
    WsseReference.codec, X509Data.codec, EncryptedKey.codec, EncryptedType.codec, EncryptionMethod.codec, CipherData.codec,
    CipherValue.codec, CipherReference.codec, XencTransforms.codec, ReferenceList.codec, XencReference.codec, stringText,
    deliveredEnvelope, deliveredSecurity, deliveredMessaging, deliveredUser, deliveredToken, deliveredKey, deliveredData,
    deliveredSignature, participantProperty, references, Scalar.string, Scalar.optional, words, wsu, plain, soap12, shown]

theorem deliveredEnvelope_readable (solid : signer ≠ []) (stamps : Stamps answerTime)
    (bodyReadable : Body.codec.readable body) (partsReadable : ∀ part ∈ parts, PartInfo.codec.readable part) :
    Envelope.codec.readable (deliveredEnvelope signer elements payloads parts body) := by
  have stamped : (requiredText datetimeScalar "value").readable answerTime := requiredText_readable.mpr stamps
  have words : base64Binary ≠ "" ∧ x509V3 ≠ "" ∧ exclusiveC14N ≠ "" ∧ dsigRsaSha256 ≠ "" ∧ xmlencSha256 ≠ "" ∧
      rsaOaep ≠ "" ∧ aes128Gcm ≠ "" ∧ attachmentContentSignature ≠ "" ∧ peppolPartyIdentifierType ≠ "" ∧
      iso6523ActorId ≠ "" := by
    decide
  have texts : strip "message" ≠ "" ∧ strip initiator ≠ "" ∧ strip responder ≠ "" ∧ strip "service" ≠ "" ∧
      strip "action" ≠ "" ∧ strip "conversation" ≠ "" ∧ strip "9932:9999999999" ≠ "" ∧ strip "9932:1111111111" ≠ "" ∧
      strip "9999999999" ≠ "" ∧ strip "1111111111" ≠ "" := by decide
  have understood : (attributeOr boolScalar true (soap12 "mustUnderstand") "must_understand").readable true :=
    .inr ⟨true, boolScalar_rereads true⟩
  have ciphered : (textOr (Scalar.optional .string) none "value").readable (some (Base64.b64encode sessionKey)) :=
    .inr ⟨_, rfl⟩
  have references : ∀ reference ∈ (deliveredInfo elements payloads).references, DsigReference.codec.readable reference := by
    intro reference member
    obtain ⟨transform, uri, content, -, rfl⟩ := deliveredInfo_references member
    simp [DsigReference.codec, Transforms.codec, Transform.codec, DigestMethod.codec, DigestValue.codec, stringText,
      words, Base64.strip_b64encode, Base64.b64encode_eq_empty]
  simp [Envelope.codec, Header.codec, Security.codec, Messaging.codec, UserMessage.codec, MessageInfo.codec,
    PartyInfo.codec, Party.codec, PartyId.codec, CollaborationInfo.codec, Service.codec, MessageProperties.codec,
    Property.codec, PayloadInfo.codec, BinarySecurityToken.codec, Signature.codec, SignedInfo.codec,
    CanonicalizationMethod.codec, SignatureMethod.codec, SignatureValue.codec, KeyInfo.codec, SecurityTokenReference.codec,
    WsseReference.codec, X509Data.codec, EncryptedKey.codec, EncryptedType.codec, EncryptionMethod.codec, CipherData.codec,
    CipherValue.codec, CipherReference.codec, XencTransforms.codec, ReferenceList.codec, XencReference.codec, stringText,
    deliveredEnvelope, deliveredSecurity, deliveredMessaging, deliveredUser, deliveredToken, deliveredKey, deliveredData,
    deliveredSignature, participantProperty, bodyReadable, words, texts, stamped, understood, ciphered,
    Base64.strip_b64encode, Base64.b64encode_eq_empty, solid, signatureValue_readable, canonicalization_readable, flag_readable]
  exact ⟨references, partsReadable⟩

end Written

section Delivery
variable {signer : Bytes} {elements : List (String × Node)} {payloads : Dict String Bytes} {parts : List PartInfo}
  {body : Body}

/-- The delivered attachment, under the recorded session key. -/
def deliveredAttachments : Dict String Bytes := [(attachmentId, encryptedPayload)]

def trustEmbedded (documents : List Node) (_ : Party) (embedded : Option (@Certificate (signing documents))) :
    Except PyError (@Certificate (signing documents)) :=
  letI := signing documents
  match embedded with
  | some certificate => .ok certificate
  | none => .error .untrustedSigner

/-- The signing toolkit, when the delivered payload unpacks to some other bytes. -/
@[reducible] def unpacking (payload : Bytes) (documents : List Node) : Libraries :=
  { signing documents with
    gzipRead := fun content size =>
      if content == compressedPayload then some (if size < 0 then payload else payload.take size.toNat) else none }

def unpackingParty (payload : Bytes) (documents : List Node) : @AS4InternalParty (unpacking payload documents) :=
  letI := unpacking payload documents
  { identity := peppolIdentity "9932:1111111111"
    credentials :=
      { certificate := ⟨[48, 1], rfl⟩
        privateKey := ⟨fun data => .ok (0 :: data), .ok⟩ } }

theorem unpacking_signed (payload : Bytes) (documents : List Node)
    (placed : letI := unpacking payload documents
      ∀ entry ∈ elements, Carries (Envelope.codec.element (soap12 "Envelope")
        (deliveredEnvelope signer elements payloads parts body)) entry) :
    letI := unpacking payload documents
    Signed (Envelope.codec.element (soap12 "Envelope") (deliveredEnvelope signer elements payloads parts body))
      (deliveredSecurity signer elements payloads) ⟨signer, rfl⟩ (deliveredToken signer)
      (deliveredSignature elements payloads) elements payloads := by
  let _ := unpacking payload documents
  refine ⟨by simp [findToken, deliveredSecurity], rfl, rfl, rfl, rfl, rfl, rfl, ⟨_, _, rfl, ?_, ?_⟩, placed, ⟨signer⟩, _, _,
    rfl, rfl, rfl, by simp, beq_self_eq_true _⟩
  · rw [List.forall₂_map_right_iff, List.forall₂_same]
    exact fun entry _ => referenceForElement_ok.mpr ⟨_, rfl, rfl⟩
  · rw [List.forall₂_map_right_iff, List.forall₂_same]
    exact fun entry _ => rfl

theorem delivered_signed (documents : List Node)
    (placed : letI := signing documents
      ∀ entry ∈ elements, Carries (Envelope.codec.element (soap12 "Envelope")
        (deliveredEnvelope signer elements payloads parts body)) entry) :
    letI := signing documents
    Signed (Envelope.codec.element (soap12 "Envelope") (deliveredEnvelope signer elements payloads parts body))
      (deliveredSecurity signer elements payloads) ⟨signer, rfl⟩ (deliveredToken signer)
      (deliveredSignature elements payloads) elements payloads :=
  unpacking_signed envelopedPayload documents placed

theorem unpacking_encrypted (payload : Bytes) (documents : List Node) :
    letI := unpacking payload documents
    Encrypted (deliveredSecurity signer elements payloads) (unpackingParty payload documents).credentials.privateKey deliveredKey
      deliveredData "D" attachmentId encryptedPayload compressedPayload := by
  let _ := unpacking payload documents
  have solid : sessionKey ≠ [] := by decide +kernel
  have opens : Libraries.aesgcmDecrypt sessionKey (encryptedPayload.take 12) (encryptedPayload.drop 12) =
      some compressedPayload := by
    change (if (sessionKey == sessionKey && encryptedPayload.take 12 == encryptedPayload.take 12 &&
      encryptedPayload.drop 12 == encryptedPayload.drop 12) = true then _ else _) = _
    simp only [beq_self_eq_true, Bool.and_self, ↓reduceIte]
  exact ⟨rfl, rfl, ⟨_, sessionKey, sessionKey, rfl, rfl, solid, rfl, opens⟩, rfl, rfl, ⟨rfl, by decide⟩, ⟨_, rfl, rfl⟩, rfl⟩

theorem delivered_encrypted (documents : List Node) :
    letI := signing documents
    Encrypted (deliveredSecurity signer elements payloads) (answeringParty documents).credentials.privateKey deliveredKey
      deliveredData "D" attachmentId encryptedPayload compressedPayload :=
  unpacking_encrypted envelopedPayload documents

/-- The recorded business document reads as the one its builder wrote. -/
def deliveredBusiness : StandardBusinessDocument where
  standardBusinessDocumentHeader :=
    { headerVersion := "1.0"
      sender := ⟨{ value := "9999999999", authority := some iso6523ActorId }⟩
      receiver := ⟨{ value := "1111111111", authority := some iso6523ActorId }⟩
      documentIdentification :=
        { standard := "urn:oasis:names:specification:ubl:schema:xsd:Invoice-2"
          typeVersion := "2.1"
          instanceIdentifier := "00000000-0000-4000-8000-00000000000c"
          documentIdentificationType := "Invoice"
          creationDateAndTime := ⟨1788726620821000⟩ }
      businessScope :=
        ⟨[{ scopeType := "DOCUMENTID", instanceIdentifier := documentIdentifier, identifier := some "busdox-docid-qns" },
          { scopeType := "PROCESSID", instanceIdentifier := processIdentifier, identifier := some cenbiiProcidUbl },
          { scopeType := "COUNTRY_C1", instanceIdentifier := "BE" }]⟩ }
  wildcardContent := [invoice]

theorem deliveredBusiness_written (documents : List Node) :
    letI := signing documents
    StandardBusinessDocument.codec.element (sbdh "StandardBusinessDocument") deliveredBusiness =
      businessDocument invoice := by
  let _ := signing documents
  rfl

theorem invoice_apart : ∀ tag ∈ [sbdh "StandardBusinessDocumentHeader", .plain "standard_business_document_header"],
    ¬ invoice.Tagged tag := by
  decide

theorem deliveredBusiness_admits [Libraries] : StandardBusinessDocument.codec.admits deliveredBusiness := by
  rw [StandardBusinessDocument.codec, record_admits, withWildcard_admits]
  refine ⟨?_, rfl, ?_⟩
  · simp [StandardBusinessDocumentHeader.codec, Participant.codec, Identifier.codec, DocumentIdentification.codec,
      BusinessScope.codec, Scope.codec, stringText, deliveredBusiness]
  · intro node member tag seen
    obtain rfl := List.mem_singleton.mp member
    exact invoice_apart tag seen

theorem deliveredBusiness_readable [Libraries] (stamps : Stamps ⟨1788726620821000⟩) :
    StandardBusinessDocument.codec.readable deliveredBusiness := by
  have stamped : (requiredText datetimeScalar "value").readable ⟨1788726620821000⟩ := requiredText_readable.mpr stamps
  rw [StandardBusinessDocument.codec, record_readable, withWildcard_readable]
  refine ⟨?_, ?_⟩
  · simp [StandardBusinessDocumentHeader.codec, Participant.codec, Identifier.codec, DocumentIdentification.codec,
      BusinessScope.codec, Scope.codec, stringText, deliveredBusiness, stamped]
    decide +kernel
  · exact fun _ _ _ wanted => absurd wanted List.not_mem_nil

/-- A part that names the delivered attachment is unpacked to the payload, when that is
not too large. -/
theorem unpacking_unpacked (payload : Bytes) (documents : List Node) (context : @AS4ParseContext (unpacking payload documents))
    (roomy : letI := unpacking payload documents; context.securityPolicy.maximumDecompressedSize = 1024 ^ 3)
    (short : payload.length ≤ 1024 ^ 3) :
    letI := unpacking payload documents
    ∀ parts', List.Forall₂ (fun part part' => ∃ child, PartInfo.codec.reread child part part') [partFor attachmentId] parts' →
      ∀ fields : AS4Message, fields.decryptedData = [(attachmentId, compressedPayload)] →
        decompressParts context deliveredAttachments parts' fields =
          .ok () { fields with decryptedData := [(attachmentId, payload)] } := by
  let _ := unpacking payload documents
  intro parts' read fields decrypted
  obtain ⟨part, rfl, _, partRead⟩ := mem_single read
  obtain ⟨properties, href⟩ := PartInfo.rereads partRead
  have gzip : strip "application/gzip" = "application/gzip" := by decide
  have compressed : part.partProperties.compressionType = some "application/gzip" := by
    simp [PartProperties.compressionType, properties, partFor, gzip]
  have whole : ∀ size, payload.length ≤ size → payload.take size = payload := fun size => List.take_of_length_le
  have read : Libraries.gzipRead compressedPayload (1024 ^ 3 + 1) = some payload := by
    change (if (compressedPayload == compressedPayload) = true then _ else _) = _
    rw [if_pos (beq_self_eq_true _)]
    exact congrArg some (whole _ (by omega))
  have named : part.href = some ("cid:" ++ attachmentId) := by
    rw [href]
    decide
  have attached : Dict.get deliveredAttachments attachmentId = some encryptedPayload := by
    simp [deliveredAttachments, Dict.get]
  refine decompressParts_one named attached decrypted (decompress_read compressed (by rw [roomy]; exact read) ?_)
  rw [roomy]
  omega

theorem envelopedPayload_short : envelopedPayload.length ≤ 2000 := by decide +kernel

theorem delivered_unpacked (documents : List Node) (policy : @SecurityPolicy (signing documents))
    (roomy : letI := signing documents; policy.maximumDecompressedSize = 1024 ^ 3) :
    letI := signing documents
    ∀ parts', List.Forall₂ (fun part part' => ∃ child, PartInfo.codec.reread child part part') [partFor attachmentId] parts' →
      ∀ fields : AS4Message, fields.decryptedData = [(attachmentId, compressedPayload)] →
        decompressParts { localParty := answeringParty documents, securityPolicy := policy } deliveredAttachments parts'
          fields = .ok () { fields with decryptedData := [(attachmentId, envelopedPayload)] } := by
  have short := envelopedPayload_short
  exact unpacking_unpacked envelopedPayload documents _ roomy (by omega)

end Delivery

end DeliveredMessage
