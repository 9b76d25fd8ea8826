import AS4.DeliveredMessage

/-!
Delivered messages that are accepted: with any choice of signed elements and payloads
that covers what the policy asks for, and in particular with the messaging header, the
body and the payload all signed.
-/

namespace AcceptedDelivery
open ElementTree ElementCodec ElementCodec.Codec FallibleSteps PythonData AS4Libraries AS4Errors SignatureModel
  EncryptionModel MessagingModel EnvelopeModel BusinessDocument Verification MessageParsing SignalBuilding
  MessageBuilding RecordLaws RecordReadings Serialisation RecordedExchange WrittenEnvelope WrittenIdentifiers
  SignedReadings MessageReadings AcceptedMessage ReceivingRuns RestoredSenders DeliveredMessage

section Acceptance

def deliveredBody : Body := { bodyId := some "B" }

def deliveredPayloads : Dict String Bytes := [(attachmentId, compressedPayload)]

/-- The messaging header and the body, under their identifiers. -/
def deliveredElements (parts : List PartInfo) (body : Body) : List (String × Node) :=
  letI := signing []
  [("M", Messaging.codec.element (eb3 "Messaging") (deliveredMessaging parts)), ("B", Body.codec.element (soap12 "Body") body)]

/-- A delivered message whose signature covers all that a policy can ask for. -/
def honestEnvelope : Envelope :=
  deliveredEnvelope [48, 2] (deliveredElements [partFor attachmentId] deliveredBody) deliveredPayloads
    [partFor attachmentId] deliveredBody

/-- The delivered part, with or without the attachment it names. -/
def deliveredPart (href : Option String) : PartInfo := { partFor attachmentId with href := href }

theorem deliveredPart_admits (href : Option String) : PartInfo.codec.admits (deliveredPart href) := by
  simp [PartInfo.codec, PartProperties.codec, Property.codec, stringText, partFor, deliveredPart]

theorem deliveredPart_readable (href : Option String) : PartInfo.codec.readable (deliveredPart href) := by
  have texts : strip "application/xml" ≠ "" ∧ strip "application/gzip" ≠ "" := by decide
  simp [PartInfo.codec, PartProperties.codec, Property.codec, stringText, partFor, deliveredPart, texts]

theorem deliveredPart_named [Libraries] (href : Option String) :
    Named (PartInfo.codec.element (eb3 "PartInfo") (deliveredPart href)) := by
  simp [named_written, PartInfo.codec, PartProperties.codec, Property.codec, stringText, partFor, deliveredPart]

theorem deliveredPart_unnamed (href : Option String) :
    identifiers (PartInfo.codec.element (eb3 "PartInfo") (deliveredPart href)) = [] := by
  have shown : ∀ name, (QName.plain name).localName = name := fun _ => rfl
  simp [identifiers_written, PartInfo.codec, PartProperties.codec, Property.codec, stringText, partFor, deliveredPart,
    Scalar.string, Scalar.optional, plain, attributeIds_other, shown]

theorem honest_body [Libraries] : Body.codec.admits deliveredBody ∧ Body.codec.readable deliveredBody ∧
    Named (Body.codec.element (soap12 "Body") deliveredBody) ∧
      identifiers (Body.codec.element (soap12 "Body") deliveredBody) = ["B"] := by
  refine ⟨?_, ?_, ?_, ?_⟩
  · simp [Body.codec, deliveredBody]
  · simp [Body.codec, deliveredBody]
  · simp [named_written, Body.codec, deliveredBody]
  · simp [identifiers_written, Body.codec, deliveredBody, Scalar.string, Scalar.optional]
    rfl

/-- A delivered message with one part is indexed when its body is and brings no
identifier of its own that the header has. -/
theorem delivered_indexed [Libraries] {signer : Bytes} {elements : List (String × Node)} {payloads : Dict String Bytes}
    {body : Body} (href : Option String) (named : Named (Body.codec.element (soap12 "Body") body))
    (distinct : (["T", "D", "M"] ++ identifiers (Body.codec.element (soap12 "Body") body)).Nodup) :
    ∃ index, indexElementsById (.root (Envelope.codec.element (soap12 "Envelope")
      (deliveredEnvelope signer elements payloads [deliveredPart href] body))) = .ok index := by
  refine index_ok_iff.mpr ⟨deliveredEnvelope_named named (by simpa using deliveredPart_named href), ?_⟩
  rw [deliveredEnvelope_identifiers]
  simpa [deliveredPart_unnamed] using distinct

theorem honest_indexed [Libraries] {signer : Bytes} {elements : List (String × Node)} {payloads : Dict String Bytes}
    (href : Option String) : ∃ index, indexElementsById (.root (Envelope.codec.element (soap12 "Envelope")
      (deliveredEnvelope signer elements payloads [deliveredPart href] deliveredBody))) = .ok index := by
  obtain ⟨-, -, named, identified⟩ := honest_body
  exact delivered_indexed href named (by rw [identified]; decide)

theorem deliveredElements_cover [Libraries] {parts : List PartInfo} {body : Body} {payloads : Dict String Bytes}
    {user : UserMessage} {kind : String} (asked : kind ∈ ["messaging", "body"]) :
    Covers (deliveredElements parts body) payloads user kind := by
  simp only [List.mem_cons, List.not_mem_nil, or_false] at asked
  rcases asked with rfl | rfl
  · exact .inl ⟨by decide, _, List.mem_cons_self, coverageByTag_messaging.mpr rfl⟩
  · exact .inl ⟨by decide, _, List.mem_cons_of_mem _ List.mem_cons_self, coverageByTag_body.mpr rfl⟩

/-- The hrefs read from a delivered message with one part are those of the part. -/
theorem delivered_hrefs [Libraries] {href : Option String} {child : Located} {user : UserMessage}
    (read : UserMessage.codec.reread child (deliveredUser [deliveredPart href]) user) :
    payloadHrefs user = ((written href).filter (· ≠ "")).toList := by
  obtain ⟨-, -, -, -, payloadRead⟩ := UserMessage.rereads read
  simp only [payloadHrefs]
  generalize user.payloadInfo = found at payloadRead
  cases payloadRead with
  | @some _ payloadInfo each =>
      obtain ⟨part, one, _, partRead⟩ := mem_single each
      have named : part.href = written href := (PartInfo.rereads partRead).2
      simp only [one, named, List.filterMap_cons, List.filterMap_nil]
      cases (written href).filter (· ≠ "") <;> rfl

theorem honest_covers [Libraries] {child : Located} {user : UserMessage}
    (read : UserMessage.codec.reread child (deliveredUser [partFor attachmentId]) user) {kind : String}
    (asked : kind ∈ ["messaging", "body", "payloads"]) :
    Covers (deliveredElements [partFor attachmentId] deliveredBody) deliveredPayloads user kind := by
  by_cases payload : kind = "payloads"
  · subst payload
    have hrefs : payloadHrefs user = ["cid:" ++ attachmentId] := delivered_hrefs read
    refine .inr ⟨rfl, fun href declared => ⟨(attachmentId, compressedPayload), List.mem_cons_self, ?_⟩⟩
    simpa [hrefs] using declared
  · exact deliveredElements_cover (by simpa [payload] using asked)

variable {signer : Bytes} {elements : List (String × Node)} {payloads : Dict String Bytes} {parts : List PartInfo}
  {body : Body}

theorem stamps_any (documents : List Node) (time : Datetime) (stamps : @Stamps (signing []) time) :
    @Stamps (signing documents) time := stamps

theorem recorded_stamps (documents : List Node) :
    letI := signing documents
    Stamps answerTime ∧ Stamps ⟨1788726620821000⟩ :=
  ⟨stamps_any documents _ ⟨by decide, answerTime, by decide⟩,
    stamps_any documents _ ⟨by decide, ⟨1788726620821000⟩, by decide⟩⟩

theorem valid_header (documents : List Node) :
    letI := signing documents
    requireSchemaValidHeader (.root (businessDocument invoice)) = .ok () := by
  let _ := signing documents
  have found : (Located.root (businessDocument invoice)).find [sbdh "StandardBusinessDocumentHeader"] ≠ none := by decide
  unfold requireSchemaValidHeader
  split
  · contradiction
  · rfl


section Library
variable [Libraries] {context : AS4ParseContext} {certificate : Certificate} {soapBytes : Bytes}

/-- A delivered message that the core parser lets through is accepted, when its payload
is the recorded business document. -/
theorem delivered_accepted (stamps : Stamps ⟨1788726620821000⟩)
    (serviced : acceptRecipient context (strip "1111111111") = .ok ())
    (parsed : Libraries.parseXml soapBytes = some (Envelope.codec.element (soap12 "Envelope")
      (deliveredEnvelope signer elements payloads parts body)))
    (payload : Libraries.parseXml envelopedPayload =
      some (StandardBusinessDocument.codec.element (sbdh "StandardBusinessDocument") deliveredBusiness))
    (valid : requireSchemaValidHeader
      (.root (StandardBusinessDocument.codec.element (sbdh "StandardBusinessDocument") deliveredBusiness)) = .ok ())
    {envelope : Envelope} (reread : Envelope.codec.reread (.root (Envelope.codec.element (soap12 "Envelope")
      (deliveredEnvelope signer elements payloads parts body))) (deliveredEnvelope signer elements payloads parts body) envelope)
    (core : ∀ before, processAs4 context (.root (Envelope.codec.element (soap12 "Envelope")
        (deliveredEnvelope signer elements payloads parts body))) deliveredAttachments before =
      .ok () { before with
        mimeAttachments := deliveredAttachments, soapEnvelope := some envelope, signerCertificate := some certificate,
        decryptedData := [(attachmentId, envelopedPayload)] }) :
    ∃ message, parse .peppol context soapBytes deliveredAttachments = .ok message ∧ message.parseError = none ∧
      message.soapEnvelope = some envelope := by
  have sends : deliveredBusiness.standardBusinessDocumentHeader.sender.identifier = ⟨some iso6523ActorId, "9999999999"⟩ :=
    rfl
  have receives :
      deliveredBusiness.standardBusinessDocumentHeader.receiver.identifier = ⟨some iso6523ActorId, "1111111111"⟩ := rfl
  have scopes : deliveredBusiness.standardBusinessDocumentHeader.businessScope.scopes =
      [⟨"DOCUMENTID", documentIdentifier, some "busdox-docid-qns"⟩, ⟨"PROCESSID", processIdentifier, some cenbiiProcidUbl⟩,
       ⟨"COUNTRY_C1", "BE", none⟩] := rfl
  have named : (deliveredUser parts).messageInfo.messageId ≠ "" ∧
      strip (deliveredUser parts).partyInfo.partyTo.role ≠ "" := ⟨(by decide : "message" ≠ ""), (by decide : strip responder ≠ "")⟩
  obtain ⟨reads, kept⟩ := rereads_element StandardBusinessDocument.lawful deliveredBusiness_admits
    (n := .root (StandardBusinessDocument.codec.element (sbdh "StandardBusinessDocument") deliveredBusiness)) rfl
  obtain ⟨business, businessRead⟩ := reads.mp (deliveredBusiness_readable stamps)
  have accepted := written_accepted parsed rfl rfl rfl named.1 (by decide) named.2 rfl rfl rfl sends receives scopes reread
    core payload ⟨business, businessRead, kept business businessRead⟩ valid serviced
  exact ⟨_, accepted, rfl, rfl⟩

/-- The core parser lets a delivered message through when its attachment decrypts to the
recorded payload and its signature covers what the policy asks for. -/
theorem delivered_processed (context : AS4ParseContext) (placeFree : PlaceFree) (solid : signer ≠ [])
    (stamps : Stamps answerTime) (bodyAdmits : Body.codec.admits body)
    (bodyReadable : Body.codec.readable body)
    (partsAdmit : ∀ part ∈ parts, PartInfo.codec.admits part) (partsReadable : ∀ part ∈ parts, PartInfo.codec.readable part)
    (indexed : ∃ index, indexElementsById (.root (Envelope.codec.element (soap12 "Envelope")
      (deliveredEnvelope signer elements payloads parts body))) = .ok index)
    (signed : Signed (Envelope.codec.element (soap12 "Envelope") (deliveredEnvelope signer elements payloads parts body))
      (deliveredSecurity signer elements payloads) certificate (deliveredToken signer)
      (deliveredSignature elements payloads) elements payloads)
    (encrypted : Encrypted (deliveredSecurity signer elements payloads) context.localParty.credentials.privateKey deliveredKey
      deliveredData "D" attachmentId encryptedPayload compressedPayload)
    (trusted : ∀ party, context.securityPolicy.signerResolver party (some certificate) = .ok certificate)
    (opened : ∀ entry ∈ payloads, entry = (attachmentId, compressedPayload))
    (covered : ∀ kind ∈ context.securityPolicy.requiredCoverage, ∀ child user,
      UserMessage.codec.reread child (deliveredUser parts) user → Covers elements payloads user kind) {result : Bytes}
    (unpacked : ∀ parts', List.Forall₂ (fun part part' => ∃ child, PartInfo.codec.reread child part part') parts parts' →
      ∀ fields : AS4Message, fields.decryptedData = [(attachmentId, compressedPayload)] →
        decompressParts context deliveredAttachments parts' fields =
          .ok () { fields with decryptedData := [(attachmentId, result)] }) :
    ∃ envelope', Envelope.codec.reread (.root (Envelope.codec.element (soap12 "Envelope")
        (deliveredEnvelope signer elements payloads parts body))) (deliveredEnvelope signer elements payloads parts body)
        envelope' ∧
      ∀ before, processAs4 context (.root (Envelope.codec.element (soap12 "Envelope")
          (deliveredEnvelope signer elements payloads parts body))) deliveredAttachments before =
        .ok () { before with
          mimeAttachments := deliveredAttachments, soapEnvelope := some envelope',
          signerCertificate := some certificate, decryptedData := [(attachmentId, result)] } := by
  have attached : Dict.get deliveredAttachments attachmentId = some encryptedPayload := by
    simp [deliveredAttachments, Dict.get]
  exact written_processed context placeFree (deliveredEnvelope_admits bodyAdmits partsAdmit)
    (deliveredEnvelope_readable solid stamps bodyReadable partsReadable) indexed rfl rfl signed encrypted attached
    (fun _ party _ => trusted party) opened covered unpacked

end Library


/-- A delivered message about the recorded business document is accepted, under every
policy that trusts its signer, leaves room for the payload and asks for no more than its
signature covers. -/
theorem signing_accepted (documents : List Node) (policy : @SecurityPolicy (signing documents)) {soapBytes : Bytes}
    (trusted : letI := signing documents; policy.signerResolver = trustEmbedded documents)
    (roomy : letI := signing documents; policy.maximumDecompressedSize = 1024 ^ 3) (solid : signer ≠ [])
    (bodyAdmits : letI := signing documents; Body.codec.admits body)
    (bodyReadable : letI := signing documents; Body.codec.readable body)
    (indexed : letI := signing documents; ∃ index, indexElementsById (.root (Envelope.codec.element (soap12 "Envelope")
      (deliveredEnvelope signer elements payloads [partFor attachmentId] body))) = .ok index)
    (placed : letI := signing documents; ∀ entry ∈ elements, Carries (Envelope.codec.element (soap12 "Envelope")
      (deliveredEnvelope signer elements payloads [partFor attachmentId] body)) entry)
    (opened : ∀ entry ∈ payloads, entry = (attachmentId, compressedPayload))
    (covered : letI := signing documents
      ∀ kind ∈ policy.requiredCoverage, ∀ child user,
        UserMessage.codec.reread child (deliveredUser [partFor attachmentId]) user → Covers elements payloads user kind)
    (parsed : letI := signing documents
      Libraries.parseXml soapBytes = some (Envelope.codec.element (soap12 "Envelope")
        (deliveredEnvelope signer elements payloads [partFor attachmentId] body)))
    (payload : letI := signing documents; Libraries.parseXml envelopedPayload = some (businessDocument invoice)) :
    letI := signing documents
    ∃ message envelope, parse .peppol { localParty := answeringParty documents, securityPolicy := policy } soapBytes
        deliveredAttachments = .ok message ∧ message.parseError = none ∧ message.soapEnvelope = some envelope ∧
          Envelope.codec.reread (.root (Envelope.codec.element (soap12 "Envelope")
            (deliveredEnvelope signer elements payloads [partFor attachmentId] body)))
            (deliveredEnvelope signer elements payloads [partFor attachmentId] body) envelope := by
  have stamps := recorded_stamps documents
  have partsAdmit : ∀ part ∈ [partFor attachmentId], PartInfo.codec.admits part :=
    List.forall_mem_singleton.mpr (deliveredPart_admits _)
  have partsReadable : ∀ part ∈ [partFor attachmentId], PartInfo.codec.readable part :=
    List.forall_mem_singleton.mpr (deliveredPart_readable _)
  have valid := valid_header documents
  rw [← deliveredBusiness_written documents] at payload valid
  obtain ⟨envelope, reread, core⟩ := @delivered_processed signer elements payloads [partFor attachmentId] body
    (signing documents) _
    (@AS4ParseContext.mk (signing documents) (answeringParty documents) none policy) (fun _ => rfl) solid stamps.1 bodyAdmits
    bodyReadable partsAdmit partsReadable indexed (delivered_signed documents placed)
    (delivered_encrypted documents) (by rw [trusted]; exact fun _ => rfl) opened covered _
    (delivered_unpacked documents policy roomy)
  obtain ⟨message, accepted, sound, carried⟩ := @delivered_accepted _ _ _ _ _ (signing documents) _ _ _ stamps.2 rfl parsed
    payload valid _ reread core
  exact ⟨message, envelope, accepted, sound, carried, reread⟩

/-- The default policy, with a resolver that trusts the embedded certificate. -/
def trustingPolicy (documents : List Node) : @SecurityPolicy (signing documents) :=
  letI := signing documents
  { signerResolver := trustEmbedded documents }

theorem documents_parse {document : Node} (apart : envelopedPayload ≠ plainText document) :
    letI := signing [businessDocument invoice, document]
    Libraries.parseXml (plainText document) = some document ∧
      Libraries.parseXml envelopedPayload = some (businessDocument invoice) := by
  constructor
  · change [businessDocument invoice, document].find? _ = _
    rw [List.find?_cons_of_neg (by simpa [envelopedPayload] using Ne.symm (Ne.symm apart)), List.find?_cons_of_pos (by simp)]
  · change [businessDocument invoice, document].find? _ = _
    rw [List.find?_cons_of_pos (by simp [envelopedPayload])]

/-- The delivered message, as a document. -/
def honestDocument : Node := (@Envelope.codec (signing [])).element (soap12 "Envelope") honestEnvelope

def honestDocuments : List Node := [businessDocument invoice, honestDocument]

theorem honest_apart : envelopedPayload ≠ plainText honestDocument := by
  have starts : envelopedPayload.take 30 ≠ (plainText honestDocument).take 30 := by decide +kernel
  exact fun same => starts (congrArg _ same)

theorem honest_placed :
    letI := signing honestDocuments
    ∀ entry ∈ deliveredElements [partFor attachmentId] deliveredBody, Carries honestDocument entry := by
  intro entry member
  simp only [deliveredElements, List.mem_cons, List.not_mem_nil, or_false] at member
  rcases member with rfl | rfl
  · exact @messaging_carried (signing []) honestEnvelope "M" rfl (by decide)
  · exact @body_carried (signing []) honestEnvelope "B" rfl (by decide)

/-- The delivered message is accepted, under every policy that trusts its signer and
leaves room for the payload. -/
theorem honest_accepted (policy : @SecurityPolicy (signing honestDocuments))
    (trusted : letI := signing honestDocuments; policy.signerResolver = trustEmbedded honestDocuments)
    (roomy : letI := signing honestDocuments; policy.maximumDecompressedSize = 1024 ^ 3)
    (asks : letI := signing honestDocuments; ∀ kind ∈ policy.requiredCoverage, kind ∈ ["messaging", "body", "payloads"]) :
    letI := signing honestDocuments
    ∃ message envelope, parse .peppol { localParty := answeringParty honestDocuments, securityPolicy := policy }
        (plainText honestDocument) deliveredAttachments = .ok message ∧ message.parseError = none ∧
      message.soapEnvelope = some envelope ∧ Envelope.codec.reread (.root honestDocument) honestEnvelope envelope := by
  obtain ⟨bodyAdmits, bodyReadable, -⟩ := @honest_body (signing honestDocuments)
  obtain ⟨parsed, payload⟩ := documents_parse honest_apart
  exact signing_accepted honestDocuments policy trusted roomy (by simp) bodyAdmits bodyReadable
    (@honest_indexed (signing honestDocuments) _ _ _ _) honest_placed (by simp [deliveredPayloads])
    (fun kind required child user read => @honest_covers (signing honestDocuments) child user read _ (asks kind required))
    parsed payload

end Acceptance

end AcceptedDelivery
