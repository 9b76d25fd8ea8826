import AS4.AcceptedMessage
import AS4.MessageBuilding
import AS4.SignedReadings

/-!
A user message that was written, signed and encrypted for its receiver is accepted by
whoever trusts its signer. Each stage of the parser has its own lemma, about the part of
the message that stage looks at.
-/

namespace MessageReadings
open ElementTree ElementCodec ElementCodec.Codec FallibleSteps PythonData AS4Libraries AS4Errors SignatureModel
  EncryptionModel MessagingModel EnvelopeModel BusinessDocument Verification MessageParsing SignalBuilding
  MessageBuilding RecordLaws RecordReadings WrittenEnvelope SignedReadings AcceptedMessage

variable [Libraries]

section Signatures
variable {context : AS4ParseContext} {envelope : Envelope} {index : Dict String Located} {certificate : Certificate}
  {signature : Signature} {elements : List (String × Node)} {payloads decrypted : Dict String Bytes} {user : UserMessage}

/-- The kinds of content a signature over these elements and payloads covers. -/
def Covers (elements : List (String × Node)) (payloads : Dict String Bytes) (user : UserMessage) (kind : String) : Prop :=
  (kind ≠ "payloads" ∧ ∃ entry ∈ elements, coverageByTag (.root entry.2) = some kind) ∨
    kind = "payloads" ∧ ∀ href ∈ payloadHrefs user, ∃ entry ∈ payloads, href = "cid:" ++ entry.1

theorem isAttachmentReference_payload {entry : String × Bytes} {reference : DsigReference}
    (matched : MatchesPayload entry reference) : isAttachmentReference reference = true := by
  rw [isAttachmentReference, matched.1, startsWith_append]

/-- What a proved signature covers. -/
theorem coverage_proved {kind : String}
    (proves : Proves envelope.header.security certificate index signature elements payloads)
    (covered : Covers elements payloads user kind) : kind ∈ signatureCoverage signature index (payloadHrefs user) := by
  obtain ⟨overElements, overPayloads, listed, first, second⟩ := proves.references
  rcases covered with ⟨element, entry, member, tagged⟩ | ⟨rfl, hrefs⟩
  · obtain ⟨reference, inside, n, placed, targeted, here, -⟩ := forall₂_source first.flip member
    refine (covers_element element).mpr ⟨reference, by simp [listed, inside], placed, n, targeted, ?_⟩
    rw [← tagged, ← here]
    rfl
  · refine covers_payloads.mpr fun href declared => ?_
    obtain ⟨entry, member, rfl⟩ := hrefs href declared
    obtain ⟨reference, inside, matched⟩ := forall₂_source second.flip member
    exact ⟨reference, by simp [listed, inside], isAttachmentReference_payload matched, matched.1⟩

/-- A proved signature passes every check made before decryption. -/
theorem verifySignature_proved (proves : Proves envelope.header.security certificate index signature elements payloads)
    (read : requireUserMessage envelope = .ok user)
    (trusted : context.securityPolicy.signerResolver user.partyInfo.partyFrom (some certificate) = .ok certificate)
    (covered : ∀ kind ∈ context.securityPolicy.requiredCoverage, Covers elements payloads user kind) :
    verifySignature context envelope.header.security envelope index signature = .ok certificate := by
  obtain ⟨token, names, found, loads⟩ := proves.token
  refine verifySignature_ok.mpr ⟨token, user, certificate, ?_, read, loads, ?_, proves.verifies, ?_, ?_⟩
  · have solid : "#" ++ token.bstId ≠ "" := by simp
    simp [signatureToken, names, solid, found]
  · simp [resolveSigner, trusted, Except.mapError]
  · exact verifySignatureCoverage_ok.mpr fun kind required => coverage_proved proves (covered kind required)
  · unfold verifySignedElements
    split
    · rw [verifyReferenceDigests, each_ok]
      intro reference member
      obtain ⟨overElements, overPayloads, listed, first, second⟩ := proves.references
      rw [verifyReferenceDigest_ok]
      intro element
      rcases List.mem_append.mp (listed ▸ member) with inElements | inPayloads
      · obtain ⟨entry, -, n, -, targeted, -, matched⟩ := forall₂_source first inElements
        exact ⟨n, targeted, matched⟩
      · obtain ⟨entry, -, matched⟩ := forall₂_source second inPayloads
        simp [isAttachmentReference_payload matched] at element
    · rfl

/-- A proved signature passes the check of the decrypted attachments. -/
theorem verifySignedAttachments_proved
    (proves : Proves envelope.header.security certificate index signature elements payloads)
    (opened : ∀ entry ∈ payloads, Dict.get decrypted entry.1 = some entry.2) :
    verifySignedAttachments context (some signature) decrypted = .ok () := by
  simp only [verifySignedAttachments]
  split
  · rw [verifyAttachmentDigests, each_ok]
    intro reference member
    obtain ⟨overElements, overPayloads, listed, first, second⟩ := proves.references
    rw [verifyAttachmentDigest_ok]
    intro attachment
    rcases List.mem_append.mp (listed ▸ member) with inElements | inPayloads
    · obtain ⟨entry, -, n, placed, -⟩ := forall₂_source first inElements
      simp [attachment] at placed
    · obtain ⟨entry, inside, named, matched⟩ := forall₂_source second inPayloads
      exact ⟨entry.2, by rw [named, removePrefix_append, opened entry inside], matched⟩
  · rfl

end Signatures

section Decryption

/-- A security header whose one encrypted key opens one attachment. -/
structure Encrypted (security : Security) (privateKey : AS4PrivateKey) (key : EncryptedKey) (data : EncryptedType)
    (dataId attachmentId : String) (content decrypted : Bytes) : Prop where
  carried : security.encryptedKey = some key
  transport : key.encryptionMethod.algorithm = rsaOaep
  opens : ∃ value encrypted sessionKey, key.cipherData.cipherValue = some value ∧
    value.value = some (Base64.b64encode encrypted) ∧ encrypted ≠ [] ∧ privateKey.decrypt encrypted = .ok sessionKey ∧
      Libraries.aesgcmDecrypt sessionKey (content.take 12) (content.drop 12) = some decrypted
  references : key.referenceList.dataReference.map (·.uri) = [some ("#" ++ dataId)]
  only : security.encryptedData = some [data]
  identified : data.encryptedTypeId = some dataId ∧ dataId ≠ ""
  names : ∃ reference, data.cipherData.cipherReference = some reference ∧ reference.uri = some ("cid:" ++ attachmentId)
  cipher : data.encryptionMethod.algorithm = aes128Gcm

variable {context : AS4ParseContext} {security security' : Security} {key : EncryptedKey} {data : EncryptedType}
  {dataId attachmentId : String} {content decrypted : Bytes} {mimeAttachments : Dict String Bytes}

omit [Libraries] in
theorem dropFirst_hash (s : String) : dropFirst ("#" ++ s) = s := by
  apply String.toList_injective
  simp [dropFirst]

omit [Libraries] in
theorem mem_single {α β : Type} {good : α → β → Prop} {item : α} {values : List β}
    (each : List.Forall₂ good [item] values) : ∃ value, values = [value] ∧ good item value := by
  obtain ⟨value, rest, same, none, rfl⟩ := List.forall₂_cons_left_iff.mp each
  obtain rfl := List.forall₂_nil_left_iff.mp none
  exact ⟨value, rfl, same⟩

/-- The holder of the key gets the attachment back. -/
theorem Encrypted.decrypts {n : Located}
    (whole : Encrypted security context.localParty.credentials.privateKey key data dataId attachmentId content decrypted)
    (read : Security.codec.reread n security security') (attached : Dict.get mimeAttachments attachmentId = some content) :
    getDecryptedData context security' mimeAttachments = .ok [(attachmentId, decrypted)] := by
  obtain ⟨-, keyRead, dataRead, -⟩ := Security.rereads read
  rw [whole.carried] at keyRead
  obtain ⟨key', carried, _, keyRead⟩ : ∃ key', security'.encryptedKey = some key' ∧
      ∃ child, EncryptedKey.codec.reread child key key' := by
    generalize security'.encryptedKey = found at keyRead
    cases keyRead with
    | some same => exact ⟨_, rfl, same⟩
  obtain ⟨typeRead, uris⟩ := EncryptedKey.rereads keyRead
  obtain ⟨algorithm, ⟨_, cipherRead⟩, -⟩ := EncryptedType.rereads typeRead
  obtain ⟨value, encrypted, sessionKey, ciphered, text, solid, decrypts, opened⟩ := whole.opens
  obtain ⟨value', ciphered', _, valueRead⟩ := CipherData.rereads_value ciphered cipherRead
  have nonempty : Base64.b64encode encrypted ≠ "" := fun empty => solid (Base64.b64encode_eq_empty.mp empty)
  have valued := CipherValue.rereads text (by rwa [Base64.strip_b64encode]) valueRead
  rw [Base64.strip_b64encode] at valued
  obtain ⟨reference, listed, placed⟩ : ∃ reference, key'.referenceList.dataReference = [reference] ∧
      reference.uri = some ("#" ++ dataId) := by
    have uris : key'.referenceList.dataReference.map (·.uri) = [some ("#" ++ dataId)] := by
      rw [uris]
      obtain ⟨reference, rest, same, head, tail⟩ := List.map_eq_cons_iff.mp whole.references
      obtain rfl := List.map_eq_nil_iff.mp tail
      simp [same, head, written_some]
    obtain ⟨reference, rest, same, head, tail⟩ := List.map_eq_cons_iff.mp uris
    obtain rfl := List.map_eq_nil_iff.mp tail
    exact ⟨reference, same, head⟩
  rw [whole.only] at dataRead
  obtain ⟨data', collected, _, dataRead⟩ := mem_single dataRead
  obtain ⟨cipher, ⟨_, referenceRead⟩, identified⟩ := EncryptedType.rereads dataRead
  obtain ⟨named, ciphers, names⟩ := whole.names
  obtain ⟨named', referenced, target⟩ := CipherData.rereads_reference ciphers referenceRead
  rw [names, written_some (by simp)] at target
  rw [whole.identified.1, written_some whole.identified.2] at identified
  have found : security'.getEncryptedData (dropFirst ("#" ++ dataId)) = some data' := by
    simp [Security.getEncryptedData, dropFirst_hash, collected, identified]
  have attachment : encryptedAttachmentId data' = .ok attachmentId := by
    simp [encryptedAttachmentId, referenced, target]
  have supported : data'.encryptionMethod.algorithm = aes128Gcm := cipher.trans whole.cipher
  have transport : key'.encryptionMethod.algorithm = rsaOaep := algorithm.trans whole.transport
  have session : decryptSessionKey context (Base64.b64encode encrypted) = .ok sessionKey := by
    simp [decryptSessionKey, decrypts, Except.mapError, bind, Except.bind]
  have one : decryptReference sessionKey security' mimeAttachments reference = .ok (attachmentId, decrypted) := by
    have uri : "#" ++ dataId ≠ "" := by simp
    simp [decryptReference, placed, uri, found, attachment, attached, decryptAttachment, supported, opened, bind,
      Except.bind, pure, Except.pure]
  have transported : (key'.cipherData.cipherValue.bind (·.value)).getD "" = Base64.b64encode encrypted := by
    rw [ciphered', Option.bind_some, valued]
    rfl
  simp [getDecryptedData, carried, transported, nonempty, transport, session, listed, decryptReferences, one, bind,
    Except.bind, Dict.set]

end Decryption

section Payloads
variable {context : AS4ParseContext} {mimeAttachments : Dict String Bytes} {attachmentId : String}

/-- A part that was not compressed is handed on as it was decrypted. -/
theorem decompress_plain {part : PartProperties} {content : Bytes} {maximumSize : Int}
    (plain : part.compressionType ≠ some "application/gzip") : decompress part content maximumSize = .ok content := by
  simp [decompress, plain]

theorem decompress_read {part : PartProperties} {content decompressed : Bytes} {maximumSize : Int}
    (compressed : part.compressionType = some "application/gzip")
    (read : Libraries.gzipRead content (maximumSize + 1) = some decompressed)
    (fits : (decompressed.length : Int) ≤ maximumSize) : decompress part content maximumSize = .ok decompressed := by
  simp [decompress, compressed, read, not_lt.mpr fits]

omit [Libraries] in
theorem set_single {content decompressed : Bytes} :
    Dict.set attachmentId decompressed [(attachmentId, content)] = [(attachmentId, decompressed)] := by
  simp [Dict.set]

/-- A declared part whose attachment was decrypted is decompressed before the others are
looked at. -/
theorem decompressParts_step {part : PartInfo} {rest : List PartInfo} {content decompressed attached : Bytes}
    {fields : AS4Message} (names : part.href = some ("cid:" ++ attachmentId))
    (carried : Dict.get mimeAttachments attachmentId = some attached)
    (decrypted : fields.decryptedData = [(attachmentId, content)])
    (read : decompress part.partProperties content context.securityPolicy.maximumDecompressedSize = .ok decompressed) :
    decompressParts context mimeAttachments (part :: rest) fields =
      decompressParts context mimeAttachments rest { fields with decryptedData := [(attachmentId, decompressed)] } := by
  have one : decompressPart context mimeAttachments [(attachmentId, content)] part =
      .ok [(attachmentId, decompressed)] := by
    have href : part.href.getD "" = "cid:" ++ attachmentId := by rw [names, Option.getD_some]
    have here : Dict.get [(attachmentId, content)] attachmentId = some content := by simp [Dict.get]
    simp [decompressPart, href, carried, here, read, set_single, bind, Except.bind, pure, Except.pure]
  simp only [decompressParts, decrypted, one, bind, EStateM.bind, get, getThe, MonadStateOf.get, EStateM.get, lift,
    modify, modifyGet, MonadStateOf.modifyGet, EStateM.modifyGet]

/-- The one declared part, whose attachment was decrypted. -/
theorem decompressParts_one {part : PartInfo} {content decompressed attached : Bytes} {fields : AS4Message}
    (names : part.href = some ("cid:" ++ attachmentId)) (carried : Dict.get mimeAttachments attachmentId = some attached)
    (decrypted : fields.decryptedData = [(attachmentId, content)])
    (read : decompress part.partProperties content context.securityPolicy.maximumDecompressedSize = .ok decompressed) :
    decompressParts context mimeAttachments [part] fields =
      .ok () { fields with decryptedData := [(attachmentId, decompressed)] } :=
  decompressParts_step names carried decrypted read

/-- Parts that name no attachment are passed over. -/
theorem decompressParts_unnamed {parts : List PartInfo} (unnamed : ∀ part ∈ parts, part.href = none)
    (fields : AS4Message) : decompressParts context mimeAttachments parts fields = .ok () fields := by
  induction parts with
  | nil => rfl
  | cons part rest ih =>
      have passed : decompressPart context mimeAttachments fields.decryptedData part = .ok fields.decryptedData := by
        simp [decompressPart, unnamed part List.mem_cons_self]
      simp only [decompressParts, passed, bind, EStateM.bind, get, getThe, MonadStateOf.get, EStateM.get, lift, modify,
        modifyGet, MonadStateOf.modifyGet, EStateM.modifyGet]
      exact ih fun other member => unnamed other (List.mem_cons_of_mem _ member)

end Payloads

section Stages
variable {cls : MessageClass} {context : AS4ParseContext} {soapBytes : Bytes} {document : Node}
  {mimeAttachments decrypted : Dict String Bytes} {envelope : Envelope} {index : Dict String Located}
  {signature : Option Signature} {signer : Option Certificate} {user : UserMessage} {payloadInfo : PayloadInfo}
  {before after : AS4Message}

/-- The core parser goes through when each of its stages does. -/
theorem processAs4_runs (read : Envelope.codec.validate (.root document) = .ok envelope)
    (indexed : indexElementsById (.root document) = .ok index)
    (verified : getVerifiedSignature context envelope.header.security envelope index = .ok (signature, signer))
    (decrypts : getDecryptedData context envelope.header.security mimeAttachments = .ok decrypted)
    (attached : verifySignedAttachments context signature decrypted = .ok ())
    (carries : requireUserMessage envelope = .ok user) (declares : user.payloadInfo = some payloadInfo)
    (unpacked : decompressParts context mimeAttachments payloadInfo.partInfo
      { before with
        mimeAttachments := mimeAttachments, soapEnvelope := some envelope, signerCertificate := signer,
        decryptedData := decrypted } = .ok () after) :
    processAs4 context (.root document) mimeAttachments before = .ok () after := by
  refine Eq.trans ?_ unpacked
  simp only [processAs4, Envelope.modelValidateEtree, read, Except.mapError, indexed, verified, decrypts, attached,
    carries, requirePayloadInfo, declares, bind, EStateM.bind, lift, modify, modifyGet, MonadStateOf.modifyGet,
    EStateM.modifyGet]

/-- The parser accepts what its `process` lets through. -/
theorem parse_runs {messageId messagingId : String} {identity : AS4PartyIdentity}
    (parsed : Libraries.parseXml soapBytes = some document)
    (identified : preValidate (.root document) = .ok (messageId, messagingId))
    (addressed : getAddressedTo ((Located.root document).find partyToPath) = .ok identity)
    (processed : process cls context (.root document) mimeAttachments
      { messageId := messageId, messagingId := messagingId, addressedTo := some identity } = .ok () after) :
    parse cls context soapBytes mimeAttachments = .ok after := by
  have steps : parseSteps cls context soapBytes mimeAttachments {} = .ok () after := by
    refine Eq.trans ?_ processed
    simp only [parseSteps, parseXml_ok.mpr parsed, identified, addressed, bind, EStateM.bind, lift, modify, modifyGet,
      MonadStateOf.modifyGet, EStateM.modifyGet]
  simp only [parse, steps]

/-- And answers what its `process` is stopped by, with the fields set by then. -/
theorem parse_answers {messageId messagingId : String} {identity : AS4PartyIdentity} {raised : PyError}
    {error : BaseAS4ReceiptableError} (parsed : Libraries.parseXml soapBytes = some document)
    (identified : preValidate (.root document) = .ok (messageId, messagingId))
    (addressed : getAddressedTo ((Located.root document).find partyToPath) = .ok identity)
    (stopped : process cls context (.root document) mimeAttachments
      { messageId := messageId, messagingId := messagingId, addressedTo := some identity } = .error raised after)
    (answered : caught raised = some error) :
    parse cls context soapBytes mimeAttachments = .ok { after with parseError := some error } := by
  have steps : parseSteps cls context soapBytes mimeAttachments {} = .error raised after := by
    refine Eq.trans ?_ stopped
    simp only [parseSteps, parseXml_ok.mpr parsed, identified, addressed, bind, EStateM.bind, lift, modify, modifyGet,
      MonadStateOf.modifyGet, EStateM.modifyGet]
  simp only [parse, steps, answered]

/-- The business document of a message is accepted when each check of it is. -/
theorem processSbdh_runs {payload : Bytes} {root : Node} {business : StandardBusinessDocument}
    {documentScope processScope : Scope} (parties : verifyPartyIdentifiers envelope = .ok ())
    (carried : firstPayload before = .ok payload) (parsed : Libraries.parseXml payload = some root)
    (valid : requireSchemaValidHeader (.root root) = .ok ())
    (read : StandardBusinessDocument.codec.validate (.root root) = .ok business)
    (agree : verifyParticipants context envelope business.standardBusinessDocumentHeader = .ok ())
    (serviced : acceptRecipient context business.standardBusinessDocumentHeader.receiver.identifier.value = .ok ())
    (scopes : requireScopes (scopeDict business.standardBusinessDocumentHeader.businessScope.scopes) =
      .ok (documentScope, processScope)) :
    processSbdh context envelope before =
      .ok () { before with
        sender := some business.standardBusinessDocumentHeader.sender.identifier.value
        recipient := some business.standardBusinessDocumentHeader.receiver.identifier.value
        documentTypeIdentifierValue := some documentScope.instanceIdentifier
        documentTypeIdentifierScheme := some (documentScope.identifier.getD "busdox-docid-qns")
        processIdentifier := some processScope.instanceIdentifier } := by
  simp only [processSbdh, parties, carried, parseBusinessDocument, parseXml_ok.mpr parsed, valid, read, Except.mapError,
    agree, serviced, scopes, bind, EStateM.bind, get, getThe, MonadStateOf.get, EStateM.get, lift, modify, modifyGet,
    MonadStateOf.modifyGet, EStateM.modifyGet]

/-- A recipient that is refused is the last thing looked at. -/
theorem processSbdh_refuses {payload : Bytes} {root : Node} {business : StandardBusinessDocument} {raised : PyError}
    (parties : verifyPartyIdentifiers envelope = .ok ()) (carried : firstPayload before = .ok payload)
    (parsed : Libraries.parseXml payload = some root) (valid : requireSchemaValidHeader (.root root) = .ok ())
    (read : StandardBusinessDocument.codec.validate (.root root) = .ok business)
    (agree : verifyParticipants context envelope business.standardBusinessDocumentHeader = .ok ())
    (refused : acceptRecipient context business.standardBusinessDocumentHeader.receiver.identifier.value = .error raised) :
    processSbdh context envelope before =
      .error raised { before with
        sender := some business.standardBusinessDocumentHeader.sender.identifier.value
        recipient := some business.standardBusinessDocumentHeader.receiver.identifier.value } := by
  simp only [processSbdh, parties, carried, parseBusinessDocument, parseXml_ok.mpr parsed, valid, read, Except.mapError,
    agree, refused, bind, EStateM.bind, get, getThe, MonadStateOf.get, EStateM.get, lift, modify, modifyGet,
    MonadStateOf.modifyGet, EStateM.modifyGet]

theorem processPeppol_runs {between : AS4Message}
    (core : processAs4 context (.root document) mimeAttachments before = .ok () between)
    (stored : between.soapEnvelope = some envelope) (business : processSbdh context envelope between = .ok () after) :
    processPeppol context (.root document) mimeAttachments before = .ok () after := by
  simp only [processPeppol, core, stored, bind, EStateM.bind, get, getThe, MonadStateOf.get, EStateM.get,
    EStateM.adaptExcept, business]

theorem processPeppol_refuses {between : AS4Message} {raised : PyError}
    (core : processAs4 context (.root document) mimeAttachments before = .ok () between)
    (stored : between.soapEnvelope = some envelope)
    (business : processSbdh context envelope between = .error raised after) :
    processPeppol context (.root document) mimeAttachments before = .error (translateSbdhError raised) after := by
  simp only [processPeppol, core, stored, bind, EStateM.bind, get, getThe, MonadStateOf.get, EStateM.get,
    EStateM.adaptExcept, business]

end Stages

section Written
variable {context : AS4ParseContext} {envelope : Envelope} {user : UserMessage} {payloadInfo : PayloadInfo}
  {certificate : Certificate} {token : BinarySecurityToken} {signature : Signature} {key : EncryptedKey}
  {data : EncryptedType} {elements : List (String × Node)} {payloads mimeAttachments : Dict String Bytes}
  {dataId attachmentId : String} {content decrypted result : Bytes}

/-- The core parser lets a written message through under a policy that trusts its signer
and asks for nothing its signature does not cover. -/
theorem written_processed (context : AS4ParseContext) (placeFree : PlaceFree) (admitted : Envelope.codec.admits envelope)
    (readable : Envelope.codec.readable envelope)
    (indexes : ∃ index, indexElementsById (.root (Envelope.codec.element (soap12 "Envelope") envelope)) = .ok index)
    (only : envelope.header.messaging.userMessages = [user]) (declared : user.payloadInfo = some payloadInfo)
    (signed : Signed (Envelope.codec.element (soap12 "Envelope") envelope) envelope.header.security certificate token
      signature elements payloads)
    (encrypted : Encrypted envelope.header.security context.localParty.credentials.privateKey key data dataId attachmentId
      content decrypted)
    (attached : Dict.get mimeAttachments attachmentId = some content)
    (trusted : ∀ child party, Party.codec.reread child user.partyInfo.partyFrom party →
      context.securityPolicy.signerResolver party (some certificate) = .ok certificate)
    (opened : ∀ entry ∈ payloads, entry = (attachmentId, decrypted))
    (covered : ∀ kind ∈ context.securityPolicy.requiredCoverage, ∀ child user', UserMessage.codec.reread child user user' →
      Covers elements payloads user' kind)
    (unpacked : ∀ parts, List.Forall₂ (fun part part' => ∃ child, PartInfo.codec.reread child part part')
        payloadInfo.partInfo parts → ∀ fields : AS4Message, fields.decryptedData = [(attachmentId, decrypted)] →
          decompressParts context mimeAttachments parts fields =
            .ok () { fields with decryptedData := [(attachmentId, result)] }) :
    ∃ envelope', Envelope.codec.reread (.root (Envelope.codec.element (soap12 "Envelope") envelope)) envelope envelope' ∧
      ∀ before, processAs4 context (.root (Envelope.codec.element (soap12 "Envelope") envelope)) mimeAttachments before =
        .ok () { before with
          mimeAttachments := mimeAttachments, soapEnvelope := some envelope', signerCertificate := some certificate,
          decryptedData := [(attachmentId, result)] } := by
  obtain ⟨reads, kept⟩ := rereads_element Envelope.lawful admitted
    (n := .root (Envelope.codec.element (soap12 "Envelope") envelope)) rfl
  obtain ⟨envelope', read⟩ := reads.mp readable
  refine ⟨envelope', kept envelope' read, fun before => ?_⟩
  obtain ⟨⟨header, -, -, headerRead⟩, -⟩ := Envelope.rereads (kept envelope' read)
  obtain ⟨⟨security, -, -, securityRead⟩, messaging, -, -, messagingRead⟩ := Header.rereads headerRead
  obtain ⟨-, -, users⟩ := Messaging.rereads messagingRead
  obtain ⟨user', one, _, userRead⟩ := mem_single (only ▸ users)
  obtain ⟨-, ⟨_, fromRead⟩, -, -, payloadRead⟩ := UserMessage.rereads userRead
  rw [declared] at payloadRead
  obtain ⟨payloadInfo', declared', partsRead⟩ : ∃ payloadInfo', user'.payloadInfo = some payloadInfo' ∧
      List.Forall₂ (fun part part' => ∃ child, PartInfo.codec.reread child part part') payloadInfo.partInfo
        payloadInfo'.partInfo := by
    generalize user'.payloadInfo = found at payloadRead
    cases payloadRead with
    | some each => exact ⟨_, rfl, each⟩
  obtain ⟨index, indexed⟩ := indexes
  obtain ⟨signature', proves⟩ := signed.proves placeFree securityRead indexed
  have carries : requireUserMessage envelope' = .ok user' := by
    simp [requireUserMessage, Messaging.userMessage, one, Messaging.onlyOne, bind, Except.bind, pure, Except.pure]
  have verified := verifySignature_proved proves carries (trusted _ _ fromRead) fun kind required =>
    covered kind required _ _ userRead
  have checked : verifySignedAttachments context (some signature') [(attachmentId, decrypted)] = .ok () := by
    refine verifySignedAttachments_proved proves fun entry member => ?_
    rw [opened entry member]
    simp [Dict.get]
  have decrypts := encrypted.decrypts securityRead attached
  have signs := getVerifiedSignature_some.mpr ⟨proves.signed, certificate, rfl, verified⟩
  exact processAs4_runs read indexed signs decrypts checked carries declared' (unpacked _ partsRead _ rfl)

/-- A property of a participant, as it is read back. -/
theorem participant_agrees {name value : String} {identifier : Identifier} {declared : Property}
    (property : declared = ⟨some iso6523ActorId, strip value, name⟩)
    (named : identifier = ⟨some iso6523ActorId, strip value⟩) : verifyParticipantAgrees name (some declared) identifier = .ok () := by
  simp [verifyParticipantAgrees, property, named]

/-- The participants of the business document of a written message are read as those its
properties name. -/
theorem written_participants_checked (context : AS4ParseContext) {envelope' : Envelope} {user' : UserMessage}
    {child : Located} {business business' : StandardBusinessDocument} {sender recipient : String} {root : Located}
    (one : envelope'.header.messaging.userMessages = [user']) (read : UserMessage.codec.reread child user user')
    (fromPeppol : user.partyInfo.partyFrom.partyId.typeValue = some peppolPartyIdentifierType)
    (toPeppol : user.partyInfo.partyTo.partyId.typeValue = some peppolPartyIdentifierType)
    (properties : user.messageProperties = some
      ⟨[participantProperty "originalSender" sender, participantProperty "finalRecipient" recipient]⟩)
    (sends : business.standardBusinessDocumentHeader.sender.identifier = ⟨some iso6523ActorId, sender⟩)
    (receives : business.standardBusinessDocumentHeader.receiver.identifier = ⟨some iso6523ActorId, recipient⟩)
    (kept : StandardBusinessDocument.codec.reread root business business') :
    verifyPartyIdentifiers envelope' = .ok () ∧
      verifyParticipants context envelope' business'.standardBusinessDocumentHeader = .ok () ∧
      business'.standardBusinessDocumentHeader.sender.identifier = ⟨some iso6523ActorId, strip sender⟩ ∧
      business'.standardBusinessDocumentHeader.receiver.identifier = ⟨some iso6523ActorId, strip recipient⟩ := by
  have peppol : written (some peppolPartyIdentifierType) = some peppolPartyIdentifierType := by decide
  have actor : written (some iso6523ActorId) = some iso6523ActorId := by decide
  obtain ⟨-, ⟨_, fromRead⟩, ⟨_, toRead⟩, propertiesRead, -⟩ := UserMessage.rereads read
  obtain ⟨senderRead, receiverRead, -⟩ := StandardBusinessDocument.rereads kept
  rw [sends, actor] at senderRead
  rw [receives, actor] at receiverRead
  have parties : verifyPartyIdentifiers envelope' = .ok () := by
    have fromType : user'.partyInfo.partyFrom.partyId.typeValue = some peppolPartyIdentifierType := by
      rw [Party.rereads fromRead, fromPeppol, peppol]
    have toType : user'.partyInfo.partyTo.partyId.typeValue = some peppolPartyIdentifierType := by
      rw [Party.rereads toRead, toPeppol, peppol]
    have carries : requireUserMessage envelope' = .ok user' := by
      simp [requireUserMessage, Messaging.userMessage, one, Messaging.onlyOne, bind, Except.bind, pure, Except.pure]
    simp [verifyPartyIdentifiers, carries, verifyPartyIdentifier, fromType, toType, bind, Except.bind]
  have agree : verifyParticipants context envelope' business'.standardBusinessDocumentHeader = .ok () := by
    unfold verifyParticipants
    split
    · have user : envelope'.header.messaging.userMessage = .ok (some user') := by
        simp [Messaging.userMessage, one, Messaging.onlyOne]
      obtain ⟨properties', given, listed⟩ : ∃ properties', user'.messageProperties = some properties' ∧
          properties'.properties = [⟨some iso6523ActorId, strip sender, "originalSender"⟩,
            ⟨some iso6523ActorId, strip recipient, "finalRecipient"⟩] := by
        rw [properties] at propertiesRead
        simp only [Option.map_some, List.map_cons, List.map_nil, participantProperty, actor] at propertiesRead
        exact Option.map_eq_some_iff.mp propertiesRead
      have original : properties'.originalSender = some ⟨some iso6523ActorId, strip sender, "originalSender"⟩ := by
        simp [MessageProperties.originalSender, MessageProperties.getProperty, listed]
      have final : properties'.finalRecipient = some ⟨some iso6523ActorId, strip recipient, "finalRecipient"⟩ := by
        simp [MessageProperties.finalRecipient, MessageProperties.getProperty, listed]
      simp [user, given, verifyParticipantsAgree, original, final, participant_agrees rfl senderRead,
        participant_agrees rfl receiverRead, bind, Except.bind]
    · rfl
  exact ⟨parties, agree, senderRead, receiverRead⟩

/-- The business document of a written message is read as the one its properties name, and
passes every check up to that of its recipient. -/
theorem written_business_checked (context : AS4ParseContext) {envelope' : Envelope} {user' : UserMessage} {child : Located}
    {business : StandardBusinessDocument}
    {sender recipient document scheme process processScheme country : String}
    (one : envelope'.header.messaging.userMessages = [user']) (read : UserMessage.codec.reread child user user')
    (fromPeppol : user.partyInfo.partyFrom.partyId.typeValue = some peppolPartyIdentifierType)
    (toPeppol : user.partyInfo.partyTo.partyId.typeValue = some peppolPartyIdentifierType)
    (properties : user.messageProperties = some
      ⟨[participantProperty "originalSender" sender, participantProperty "finalRecipient" recipient]⟩)
    (sends : business.standardBusinessDocumentHeader.sender.identifier = ⟨some iso6523ActorId, sender⟩)
    (receives : business.standardBusinessDocumentHeader.receiver.identifier = ⟨some iso6523ActorId, recipient⟩)
    (scopes : business.standardBusinessDocumentHeader.businessScope.scopes =
      [⟨"DOCUMENTID", document, some scheme⟩, ⟨"PROCESSID", process, some processScheme⟩, ⟨"COUNTRY_C1", country, none⟩])
    (reads : ∃ business', StandardBusinessDocument.codec.validate
        (.root (StandardBusinessDocument.codec.element (sbdh "StandardBusinessDocument") business)) = .ok business' ∧
      StandardBusinessDocument.codec.reread
        (.root (StandardBusinessDocument.codec.element (sbdh "StandardBusinessDocument") business)) business business') :
    ∃ business', StandardBusinessDocument.codec.validate
        (.root (StandardBusinessDocument.codec.element (sbdh "StandardBusinessDocument") business)) = .ok business' ∧
      verifyPartyIdentifiers envelope' = .ok () ∧
      verifyParticipants context envelope' business'.standardBusinessDocumentHeader = .ok () ∧
      business'.standardBusinessDocumentHeader.sender.identifier = ⟨some iso6523ActorId, strip sender⟩ ∧
      business'.standardBusinessDocumentHeader.receiver.identifier = ⟨some iso6523ActorId, strip recipient⟩ ∧
      requireScopes (scopeDict business'.standardBusinessDocumentHeader.businessScope.scopes) =
        .ok (⟨"DOCUMENTID", strip document, some (strip scheme)⟩,
          ⟨"PROCESSID", strip process, some (strip processScheme)⟩) := by
  obtain ⟨business', businessRead, kept⟩ := reads
  obtain ⟨parties, agree, senderRead, receiverRead⟩ :=
    written_participants_checked context one read fromPeppol toPeppol properties sends receives kept
  obtain ⟨-, -, scopesRead⟩ := StandardBusinessDocument.rereads kept
  have found : requireScopes (scopeDict business'.standardBusinessDocumentHeader.businessScope.scopes) =
      .ok (⟨"DOCUMENTID", strip document, some (strip scheme)⟩, ⟨"PROCESSID", strip process, some (strip processScheme)⟩) := by
    have kinds : strip "DOCUMENTID" = "DOCUMENTID" ∧ strip "PROCESSID" = "PROCESSID" ∧ strip "COUNTRY_C1" = "COUNTRY_C1" := by
      decide
    rw [scopesRead, scopes]
    simp [scopeDict, Dict.set, requireScopes, Dict.get, kinds]
    rfl
  exact ⟨business', businessRead, parties, agree, senderRead, receiverRead, found⟩

/-- The business document of a written message is the one its properties name. -/
theorem written_business {envelope' : Envelope} {user' : UserMessage} {child : Located} {business : StandardBusinessDocument}
    {sender recipient document scheme process processScheme country : String} {payload : Bytes} {before : AS4Message}
    (one : envelope'.header.messaging.userMessages = [user']) (read : UserMessage.codec.reread child user user')
    (fromPeppol : user.partyInfo.partyFrom.partyId.typeValue = some peppolPartyIdentifierType)
    (toPeppol : user.partyInfo.partyTo.partyId.typeValue = some peppolPartyIdentifierType)
    (properties : user.messageProperties = some
      ⟨[participantProperty "originalSender" sender, participantProperty "finalRecipient" recipient]⟩)
    (sends : business.standardBusinessDocumentHeader.sender.identifier = ⟨some iso6523ActorId, sender⟩)
    (receives : business.standardBusinessDocumentHeader.receiver.identifier = ⟨some iso6523ActorId, recipient⟩)
    (scopes : business.standardBusinessDocumentHeader.businessScope.scopes =
      [⟨"DOCUMENTID", document, some scheme⟩, ⟨"PROCESSID", process, some processScheme⟩, ⟨"COUNTRY_C1", country, none⟩])
    (first : firstPayload before = .ok payload)
    (parsed : Libraries.parseXml payload =
      some (StandardBusinessDocument.codec.element (sbdh "StandardBusinessDocument") business))
    (reads : ∃ business', StandardBusinessDocument.codec.validate
        (.root (StandardBusinessDocument.codec.element (sbdh "StandardBusinessDocument") business)) = .ok business' ∧
      StandardBusinessDocument.codec.reread
        (.root (StandardBusinessDocument.codec.element (sbdh "StandardBusinessDocument") business)) business business')
    (valid : requireSchemaValidHeader
      (.root (StandardBusinessDocument.codec.element (sbdh "StandardBusinessDocument") business)) = .ok ())
    (serviced : acceptRecipient context (strip recipient) = .ok ()) :
    processSbdh context envelope' before =
      .ok () { before with
        sender := some (strip sender), recipient := some (strip recipient)
        documentTypeIdentifierValue := some (strip document), documentTypeIdentifierScheme := some (strip scheme)
        processIdentifier := some (strip process) } := by
  obtain ⟨business', businessRead, parties, agree, senderRead, receiverRead, found⟩ :=
    written_business_checked context one read fromPeppol toPeppol properties sends receives scopes reads
  have runs : processSbdh context envelope' before = _ :=
    processSbdh_runs parties first parsed valid businessRead agree (by rw [receiverRead]; exact serviced) found
  rw [senderRead, receiverRead] at runs
  simpa using runs

/-- A written message that the core parser lets through, and whose business document is
the one it names, is accepted. -/
theorem written_accepted {envelope' : Envelope} {business : StandardBusinessDocument} {messagingId : String}
    {sender recipient document scheme process processScheme country : String} {soapBytes : Bytes}
    (parsed : Libraries.parseXml soapBytes = some (Envelope.codec.element (soap12 "Envelope") envelope))
    (plain : envelope.header.messaging.wildcardContent = []) (only : envelope.header.messaging.userMessages = [user])
    (identified : envelope.header.messaging.messagingId = some messagingId) (named : user.messageInfo.messageId ≠ "")
    (placed : messagingId ≠ "") (roled : strip user.partyInfo.partyTo.role ≠ "")
    (fromPeppol : user.partyInfo.partyFrom.partyId.typeValue = some peppolPartyIdentifierType)
    (toPeppol : user.partyInfo.partyTo.partyId.typeValue = some peppolPartyIdentifierType)
    (properties : user.messageProperties = some
      ⟨[participantProperty "originalSender" sender, participantProperty "finalRecipient" recipient]⟩)
    (sends : business.standardBusinessDocumentHeader.sender.identifier = ⟨some iso6523ActorId, sender⟩)
    (receives : business.standardBusinessDocumentHeader.receiver.identifier = ⟨some iso6523ActorId, recipient⟩)
    (scopes : business.standardBusinessDocumentHeader.businessScope.scopes =
      [⟨"DOCUMENTID", document, some scheme⟩, ⟨"PROCESSID", process, some processScheme⟩, ⟨"COUNTRY_C1", country, none⟩])
    (reread : Envelope.codec.reread (.root (Envelope.codec.element (soap12 "Envelope") envelope)) envelope envelope')
    (core : ∀ before, processAs4 context (.root (Envelope.codec.element (soap12 "Envelope") envelope))
      [(attachmentId, content)] before =
        .ok () { before with
          mimeAttachments := [(attachmentId, content)], soapEnvelope := some envelope',
          signerCertificate := some certificate, decryptedData := [(attachmentId, result)] })
    (payload : Libraries.parseXml result =
      some (StandardBusinessDocument.codec.element (sbdh "StandardBusinessDocument") business))
    (reads : ∃ business', StandardBusinessDocument.codec.validate
        (.root (StandardBusinessDocument.codec.element (sbdh "StandardBusinessDocument") business)) = .ok business' ∧
      StandardBusinessDocument.codec.reread
        (.root (StandardBusinessDocument.codec.element (sbdh "StandardBusinessDocument") business)) business business')
    (valid : requireSchemaValidHeader
      (.root (StandardBusinessDocument.codec.element (sbdh "StandardBusinessDocument") business)) = .ok ())
    (serviced : acceptRecipient context (strip recipient) = .ok ()) :
    parse .peppol context soapBytes [(attachmentId, content)] = .ok
      { soapEnvelope := some envelope'
        mimeAttachments := [(attachmentId, content)]
        decryptedData := [(attachmentId, result)]
        messageId := user.messageInfo.messageId
        messagingId := messagingId
        addressedTo := some ⟨strip user.partyInfo.partyTo.partyId.value,
          written user.partyInfo.partyTo.partyId.typeValue⟩
        signerCertificate := some certificate
        sender := some (strip sender)
        recipient := some (strip recipient)
        documentTypeIdentifierValue := some (strip document)
        documentTypeIdentifierScheme := some (strip scheme)
        processIdentifier := some (strip process) } := by
  obtain ⟨⟨header, -, -, headerRead⟩, -⟩ := Envelope.rereads reread
  obtain ⟨-, messaging, -, -, messagingRead⟩ := Header.rereads headerRead
  obtain ⟨-, -, users⟩ := Messaging.rereads messagingRead
  obtain ⟨user', one, _, userRead⟩ := mem_single (only ▸ users)
  refine parse_runs parsed (preValidate_written plain only identified named placed)
    (getAddressedTo_written plain only roled) (processPeppol_runs (core _) rfl ?_)
  exact written_business one userRead fromPeppol toPeppol properties sends receives scopes
    (by simp [firstPayload, Dict.get]) payload reads valid serviced

/-- A written message whose recipient is refused is answered as not serviced. -/
theorem written_refused {envelope' : Envelope} {business : StandardBusinessDocument} {messagingId : String}
    {sender recipient document scheme process processScheme country : String} {soapBytes : Bytes}
    (parsed : Libraries.parseXml soapBytes = some (Envelope.codec.element (soap12 "Envelope") envelope))
    (plain : envelope.header.messaging.wildcardContent = []) (only : envelope.header.messaging.userMessages = [user])
    (identified : envelope.header.messaging.messagingId = some messagingId) (named : user.messageInfo.messageId ≠ "")
    (placed : messagingId ≠ "") (roled : strip user.partyInfo.partyTo.role ≠ "")
    (fromPeppol : user.partyInfo.partyFrom.partyId.typeValue = some peppolPartyIdentifierType)
    (toPeppol : user.partyInfo.partyTo.partyId.typeValue = some peppolPartyIdentifierType)
    (properties : user.messageProperties = some
      ⟨[participantProperty "originalSender" sender, participantProperty "finalRecipient" recipient]⟩)
    (sends : business.standardBusinessDocumentHeader.sender.identifier = ⟨some iso6523ActorId, sender⟩)
    (receives : business.standardBusinessDocumentHeader.receiver.identifier = ⟨some iso6523ActorId, recipient⟩)
    (scopes : business.standardBusinessDocumentHeader.businessScope.scopes =
      [⟨"DOCUMENTID", document, some scheme⟩, ⟨"PROCESSID", process, some processScheme⟩, ⟨"COUNTRY_C1", country, none⟩])
    (reread : Envelope.codec.reread (.root (Envelope.codec.element (soap12 "Envelope") envelope)) envelope envelope')
    (core : ∀ before, processAs4 context (.root (Envelope.codec.element (soap12 "Envelope") envelope))
      [(attachmentId, content)] before =
        .ok () { before with
          mimeAttachments := [(attachmentId, content)], soapEnvelope := some envelope',
          signerCertificate := some certificate, decryptedData := [(attachmentId, result)] })
    (payload : Libraries.parseXml result =
      some (StandardBusinessDocument.codec.element (sbdh "StandardBusinessDocument") business))
    (reads : ∃ business', StandardBusinessDocument.codec.validate
        (.root (StandardBusinessDocument.codec.element (sbdh "StandardBusinessDocument") business)) = .ok business' ∧
      StandardBusinessDocument.codec.reread
        (.root (StandardBusinessDocument.codec.element (sbdh "StandardBusinessDocument") business)) business business')
    (valid : requireSchemaValidHeader
      (.root (StandardBusinessDocument.codec.element (sbdh "StandardBusinessDocument") business)) = .ok ())
    (refused : acceptRecipient context (strip recipient) = .error (.receiptable peppolNotServiced.new)) :
    ∃ message, parse .peppol context soapBytes [(attachmentId, content)] = .ok message ∧
      message.parseError = some peppolNotServiced.new ∧ message.messageId = user.messageInfo.messageId := by
  obtain ⟨⟨header, -, -, headerRead⟩, -⟩ := Envelope.rereads reread
  obtain ⟨-, messaging, -, -, messagingRead⟩ := Header.rereads headerRead
  obtain ⟨-, -, users⟩ := Messaging.rereads messagingRead
  obtain ⟨user', one, _, userRead⟩ := mem_single (only ▸ users)
  obtain ⟨business', businessRead, parties, agree, -, receiverRead, -⟩ :=
    written_business_checked context one userRead fromPeppol toPeppol properties sends receives scopes reads
  refine ⟨_, parse_answers parsed (preValidate_written plain only identified named placed)
    (getAddressedTo_written plain only roled) (processPeppol_refuses (core _) rfl
      (processSbdh_refuses parties (by simp [firstPayload, Dict.get]) payload valid businessRead agree
        (by rw [receiverRead]; exact refused))) rfl, rfl, rfl⟩

end Written

end MessageReadings
