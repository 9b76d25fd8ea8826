import AS4.ReferenceVerification

/-!
Which decrypted attachments are signed. Four lists the sender controls meet here:
the declared parts, the data references of the encrypted key, the references of
the signed info and the MIME attachments. Coverage looks at declared parts with an
href only, so an attachment no part names is decrypted whether signed or not.
-/

namespace PayloadCoverage
open ElementTree ElementCodec FallibleSteps PythonData AS4Libraries AS4Errors SignatureModel EncryptionModel
  RecordLaws RecordReadings MessagingModel EnvelopeModel Verification MessageParsing AcceptedMessage ReferenceVerification
  Serialisation RecordedExchange WrittenEnvelope SignedReadings MessageReadings ReceivingRuns DeliveredMessage
  AcceptedDelivery

variable [Libraries]

/-- The attachment one data reference of the encrypted key leads to. -/
def encryptedAttachment (security : Security) (reference : XencReference) : Option String :=
  (security.getEncryptedData (dropFirst (reference.uri.getD ""))).bind fun data =>
    (data.cipherData.cipherReference.bind (·.uri)).map (removePrefix "cid:")

/-- The attachments the encrypted key has the receiver decrypt. -/
def encryptedAttachments (security : Security) : List String :=
  match security.encryptedKey with
  | none => []
  | some key => key.referenceList.dataReference.filterMap (encryptedAttachment security)

/-- The signed info has a reference to this attachment, with the attachment
transform and the digest of this content. -/
def SignedAttachment (signature : Signature) (identifier : String) (content : Bytes) : Prop :=
  ∃ reference ∈ signature.signedInfo.references, referenceUri reference = "cid:" ++ identifier ∧
    OnlyTransform reference attachmentContentSignature ∧ DigestOf reference content

section Decryption

theorem decryptReference_ok {sessionKey : Bytes} {security : Security} {mimeAttachments : Dict String Bytes}
    {reference : XencReference} {identifier : String} {content : Bytes}
    (succeeded : decryptReference sessionKey security mimeAttachments reference = .ok (identifier, content)) :
    encryptedAttachment security reference = some identifier := by
  simp only [decryptReference] at succeeded
  split at succeeded
  · simp [raise] at succeeded
  · split at succeeded
    · simp [raise] at succeeded
    · rename_i data found
      simp only [bind_ok] at succeeded
      obtain ⟨attachmentId, named, remaining⟩ := succeeded
      have same : attachmentId = identifier := by
        split at remaining
        · simp [raise] at remaining
        · simp only [bind_ok, pure_ok, Prod.mk.injEq] at remaining
          obtain ⟨_, -, same, -⟩ := remaining
          exact same
      subst same
      unfold encryptedAttachmentId at named
      split at named
      · simp [raise] at named
      · rename_i uri cipherUri
        split at named
        · simp [raise] at named
        · obtain rfl := Except.ok.inj named
          rw [encryptedAttachment, found, Option.bind_some, cipherUri]
          rfl

/-- The loop decrypts the attachments its references lead to and no others. -/
theorem decryptReferences_keys {sessionKey : Bytes} {security : Security} {mimeAttachments : Dict String Bytes}
    {references : List XencReference} {before after : Dict String Bytes}
    (succeeded : decryptReferences sessionKey security mimeAttachments references before = .ok after)
    (identifier : String) :
    (Dict.get after identifier).isSome = true ↔
      (Dict.get before identifier).isSome = true ∨
        identifier ∈ references.filterMap (encryptedAttachment security) := by
  induction references generalizing before with
  | nil =>
      obtain rfl := Except.ok.inj succeeded
      simp
  | cons reference rest ih =>
      simp only [decryptReferences, bind_ok] at succeeded
      obtain ⟨⟨attachmentId, content⟩, one, remaining⟩ := succeeded
      have named := decryptReference_ok one
      rw [ih remaining, List.filterMap_cons_some named, List.mem_cons, get_set]
      by_cases same : identifier = attachmentId
      · simp [same]
      · simp [same]

theorem decrypted_keys {context : AS4ParseContext} {security : Security} {mimeAttachments decrypted : Dict String Bytes}
    (succeeded : getDecryptedData context security mimeAttachments = .ok decrypted) (identifier : String) :
    (Dict.get decrypted identifier).isSome = true ↔ identifier ∈ encryptedAttachments security := by
  unfold getDecryptedData at succeeded
  unfold encryptedAttachments
  split at succeeded
  · rename_i absent
    split at succeeded
    · simp [raise] at succeeded
    · obtain rfl := Except.ok.inj succeeded
      simp [Dict.get, absent]
  · rename_i key present
    simp only at succeeded
    split at succeeded
    · simp [raise] at succeeded
    · split at succeeded
      · simp [raise] at succeeded
      · simp only [bind_ok] at succeeded
        obtain ⟨sessionKey, -, remaining⟩ := succeeded
        rw [decryptReferences_keys remaining]
        simp [Dict.get, present]

end Decryption

section Coverage

theorem named_attachment_signed {signature : Signature} {decrypted : Dict String Bytes} {identifier : String}
    (checked : verifyAttachmentDigests signature decrypted = .ok ()) {reference : DsigReference}
    (member : reference ∈ signature.signedInfo.references) (named : referenceUri reference = "cid:" ++ identifier) :
    ∃ content, Dict.get decrypted identifier = some content ∧ SignedAttachment signature identifier content := by
  have toAttachment : isAttachmentReference reference = true := by
    rw [isAttachmentReference, named]
    exact startsWith_append _ _
  obtain ⟨content, found, matched⟩ := verifyAttachmentDigest_ok.mp (each_ok.mp checked reference member) toAttachment
  rw [named, removePrefix_append] at found
  obtain ⟨required, digest⟩ := digestMatchesBytes_true.mp matched
  exact ⟨content, found, reference, member, named, requireTransforms_ok.mp required, digest⟩

/-- The business document of a Peppol message is one of its decrypted attachments. -/
theorem peppol_payload_decrypted {context : AS4ParseContext} {soapBytes : Bytes}
    {mimeAttachments : Dict String Bytes} {message : AS4Message}
    (parsed : parse .peppol context soapBytes mimeAttachments = .ok message) (accepted : message.parseError = none) :
    ∃ identifier content rest, mimeAttachments = (identifier, content) :: rest ∧
      (Dict.get message.decryptedData identifier).isSome = true := by
  obtain ⟨reading, accepts⟩ := parse_accepts parsed accepted
  obtain ⟨payload, read⟩ := peppol_firstPayload parsed accepted
  unfold firstPayload at read
  rw [accepts.attached] at read
  cases mimeAttachments with
  | nil => simp [raise] at read
  | cons attachment rest =>
      refine ⟨attachment.1, attachment.2, rest, rfl, ?_⟩
      simp only [List.head?_cons, Option.bind_some] at read
      cases found : Dict.get message.decryptedData attachment.1 with
      | none => simp [found, raise] at read
      | some content => rfl

/-- Under the default policy every decrypted attachment is signed, in the form it
was decrypted in, exactly when those that no declared part names by href are
named by the signed info. -/
theorem decrypted_attachments_signed_iff {cls : MessageClass} {context : AS4ParseContext} {soapBytes : Bytes}
    {mimeAttachments : Dict String Bytes} {message : AS4Message}
    (parsed : parse cls context soapBytes mimeAttachments = .ok message) (accepted : message.parseError = none)
    (signed : context.securityPolicy.signRequired = true)
    (digests : context.securityPolicy.verifyDigests = true)
    (coverage : context.securityPolicy.requiredCoverage = ["messaging", "body", "payloads"]) :
    ∃ document envelope signature userMessage decrypted, Libraries.parseXml soapBytes = some document ∧
      message.soapEnvelope = some envelope ∧ envelope.header.security.signature = some signature ∧
      envelope.header.messaging.userMessages = [userMessage] ∧
      getDecryptedData context envelope.header.security mimeAttachments = .ok decrypted ∧
      (cls = .peppol → ∃ identifier content rest, mimeAttachments = (identifier, content) :: rest ∧
        (Dict.get message.decryptedData identifier).isSome = true) ∧
      ((∀ identifier, (Dict.get message.decryptedData identifier).isSome = true →
          ∃ content, Dict.get decrypted identifier = some content ∧ SignedAttachment signature identifier content) ↔
        ∀ identifier ∈ encryptedAttachments envelope.header.security,
          "cid:" ++ identifier ∉ payloadHrefs userMessage →
            ∃ reference ∈ signature.signedInfo.references, referenceUri reference = "cid:" ++ identifier) := by
  obtain ⟨reading, accepts⟩ := parse_accepts parsed accepted
  obtain ⟨signature, carried⟩ := accepts.carries_signature signed
  obtain ⟨sameSignature, _, -, verified⟩ := accepts.verified_signature carried
  obtain ⟨_, userMessage, _, -, read, -, -, -, covered, -⟩ := verifySignature_ok.mp verified
  refine ⟨reading.document, reading.envelope, signature, userMessage, reading.decrypted, accepts.parsed,
    accepts.stored, carried, requireUserMessage_ok.mp read, accepts.decrypts, ?_, ?_⟩
  · rintro rfl
    exact peppol_payload_decrypted parsed accepted
  · have keys : ∀ identifier, (Dict.get message.decryptedData identifier).isSome = true ↔
        identifier ∈ encryptedAttachments reading.envelope.header.security := by
      intro identifier
      rw [accepts.sameAttachments, decrypted_keys accepts.decrypts]
    constructor
    · intro allSigned identifier member _
      obtain ⟨_, -, reference, inList, named, -⟩ := allSigned identifier ((keys identifier).mpr member)
      exact ⟨reference, inList, named⟩
    · intro condition identifier present
      have checked := accepts.attachmentsMatch digests signature (by simp [sameSignature])
      have member := (keys identifier).mp present
      by_cases declared : "cid:" ++ identifier ∈ payloadHrefs userMessage
      · have all := verifySignatureCoverage_ok.mp covered "payloads" (by simp [coverage])
        obtain ⟨reference, inList, -, named⟩ := covers_payloads.mp all _ declared
        exact named_attachment_signed checked inList named
      · obtain ⟨reference, inList, named⟩ := condition identifier member declared
        exact named_attachment_signed checked inList named

end Coverage

section Examples

/-- The default policy, with a resolver that trusts the embedded certificate. -/
def defaultContext (documents : List Node) : @AS4ParseContext (signing documents) :=
  letI := signing documents
  { localParty := answeringParty documents, securityPolicy := { signerResolver := trustEmbedded documents } }

omit [Libraries] in
/-- The condition holds of the delivered message. -/
theorem delivered_attachment_signed :
    letI := signing honestDocuments
    ∃ message envelope signature userMessage decrypted, parse .peppol (defaultContext honestDocuments)
        (plainText honestDocument) deliveredAttachments = .ok message ∧ message.soapEnvelope = some envelope ∧
      envelope.header.security.signature = some signature ∧ envelope.header.messaging.userMessages = [userMessage] ∧
      ((∀ identifier, (Dict.get message.decryptedData identifier).isSome = true →
          ∃ content, Dict.get decrypted identifier = some content ∧ SignedAttachment signature identifier content) ↔
        ∀ identifier ∈ encryptedAttachments envelope.header.security,
          "cid:" ++ identifier ∉ payloadHrefs userMessage →
            ∃ reference ∈ signature.signedInfo.references, referenceUri reference = "cid:" ++ identifier) := by
  let _ := signing honestDocuments
  obtain ⟨message, _, parsed, sound, -⟩ := honest_accepted { signerResolver := trustEmbedded honestDocuments } rfl rfl
    (by simp)
  obtain ⟨_, envelope, signature, userMessage, decrypted, -, stored, carried, one, -, -, signed⟩ :=
    decrypted_attachments_signed_iff parsed sound rfl rfl rfl
  exact ⟨message, envelope, signature, userMessage, decrypted, parsed, stored, carried, one, signed⟩

/-- A delivered message whose only part names no attachment, and whose signature has no
reference over one. -/
def unnamedEnvelope : Envelope :=
  deliveredEnvelope [48, 2] (deliveredElements [deliveredPart none] deliveredBody) [] [deliveredPart none] deliveredBody

def unnamedDocument : Node :=
  letI := signing []
  Envelope.codec.element (soap12 "Envelope") unnamedEnvelope

omit [Libraries] in
theorem unnamed_placed : ∀ entry ∈ deliveredElements [deliveredPart none] deliveredBody, Carries unnamedDocument entry := by
  intro entry member
  simp only [deliveredElements, List.mem_cons, List.not_mem_nil, or_false] at member
  rcases member with rfl | rfl
  · exact @messaging_carried (signing []) unnamedEnvelope "M" rfl (by decide)
  · exact @body_carried (signing []) unnamedEnvelope "B" rfl (by decide)

omit [Libraries] in
/-- The core parser lets this message through. -/
theorem unnamed_processed : letI := signing [unnamedDocument]
    ∃ envelope, Envelope.codec.reread (.root unnamedDocument) unnamedEnvelope envelope ∧
      ∀ before, processAs4 (defaultContext [unnamedDocument]) (.root unnamedDocument) deliveredAttachments before =
        .ok () { before with
          mimeAttachments := deliveredAttachments, soapEnvelope := some envelope,
          signerCertificate := some ⟨[48, 2], rfl⟩, decryptedData := [(attachmentId, compressedPayload)] } := by
  have stamps := recorded_stamps [unnamedDocument]
  obtain ⟨bodyAdmits, bodyReadable, -⟩ := @honest_body (signing [unnamedDocument])
  refine @delivered_processed _ _ _ _ _ (signing [unnamedDocument]) _ (defaultContext [unnamedDocument]) (fun _ => rfl) (by simp)
    stamps.1 bodyAdmits bodyReadable (List.forall_mem_singleton.mpr (deliveredPart_admits _))
    (List.forall_mem_singleton.mpr (deliveredPart_readable _)) (@honest_indexed (signing [unnamedDocument]) _ _ _ _)
    (delivered_signed [unnamedDocument] unnamed_placed) (delivered_encrypted [unnamedDocument]) (fun _ => rfl) (by simp) ?_ _ ?_
  · intro kind asked child user read
    by_cases payload : kind = "payloads"
    · subst payload
      have hrefs : payloadHrefs user = [] := @delivered_hrefs (signing [unnamedDocument]) none child user read
      exact .inr ⟨rfl, by simp [hrefs]⟩
    · have asks : kind ∈ ["messaging", "body", "payloads"] := asked
      exact @deliveredElements_cover (signing [unnamedDocument]) _ _ _ _ _ (by simpa [payload] using asks)
  · intro parts read fields decrypted
    have unnamed : ∀ part ∈ parts, part.href = none := by
      obtain ⟨part, rfl, _, partRead⟩ := mem_single read
      exact List.forall_mem_singleton.mpr (PartInfo.rereads partRead).2
    rw [@decompressParts_unnamed (signing [unnamedDocument]) _ _ _ unnamed, ← decrypted]

omit [Libraries] in
/-- The default policy lets through an attachment that no reference of the verified
signature is over. -/
theorem unsigned_attachment_handed_on :
    letI := signing [unnamedDocument]
    ∃ message envelope signature, parse .as4 (defaultContext [unnamedDocument]) (plainText unnamedDocument)
        deliveredAttachments = .ok message ∧ message.parseError = none ∧ message.soapEnvelope = some envelope ∧
      envelope.header.security.signature = some signature ∧
        (Dict.get message.decryptedData attachmentId).isSome = true ∧
          ∀ content, ¬ SignedAttachment signature attachmentId content := by
  let _ := signing [unnamedDocument]
  obtain ⟨envelope, reread, core⟩ := unnamed_processed
  obtain ⟨index, indexed⟩ := @honest_indexed (signing [unnamedDocument]) [48, 2]
    (deliveredElements [deliveredPart none] deliveredBody) [] none
  obtain ⟨⟨header, -, -, headerRead⟩, -⟩ := Envelope.rereads reread
  obtain ⟨⟨security, -, -, securityRead⟩, -⟩ := Header.rereads headerRead
  obtain ⟨signature, proves⟩ := (delivered_signed [unnamedDocument] unnamed_placed).proves (fun _ => rfl) securityRead indexed
  obtain ⟨overElements, overPayloads, references, elements, payloads⟩ := proves.references
  cases payloads
  have found : Libraries.parseXml (plainText unnamedDocument) = some unnamedDocument := by
    change [unnamedDocument].find? _ = _
    rw [List.find?_cons_of_pos (by simp)]
  have parsed : parse .as4 (defaultContext [unnamedDocument]) (plainText unnamedDocument) deliveredAttachments = .ok _ :=
    parse_runs found (preValidate_written rfl rfl rfl (by decide) (by decide))
      (getAddressedTo_written rfl rfl (by decide)) (core _)
  refine ⟨_, envelope, signature, parsed, rfl, rfl, proves.signed, by simp [Dict.get], ?_⟩
  rintro content ⟨reference, member, named, -⟩
  rw [references, List.append_nil] at member
  obtain ⟨entry, -, _, other, -⟩ := forall₂_source elements member
  simp [isAttachmentReference, named, startsWith_append] at other

end Examples

end PayloadCoverage
