import AS4.PayloadCoverage
import AS4.LooseMessages

/-!
What asking for encryption gates, and what not asking for it opens. A policy that requires
encryption asks for an encrypted key; which declared parts that key is over is up to its
reference list. A policy that does not require it hands the decrypted attachments, of
which there are then none, to the digest check of the signed ones.
-/

namespace DecryptionGates
open ElementTree ElementCodec ElementCodec.Codec FallibleSteps PythonData AS4Libraries AS4Errors SignatureModel
  EncryptionModel RecordLaws RecordReadings MessagingModel EnvelopeModel Verification MessageParsing MessageBuilding
  AcceptedMessage ReferenceVerification Serialisation RecordedExchange WrittenEnvelope SignedReadings MessageReadings ReceivingRuns DeliveredMessage
  AcceptedDelivery PayloadCoverage LooseMessages

variable [Libraries]

section RequiredEncryption

/-- Every attachment a declared part names was decrypted and is handed on. -/
def PartsDecrypted (payloadInfo : PayloadInfo) (decrypted delivered : Dict String Bytes) : Prop :=
  ∀ part ∈ payloadInfo.partInfo, ∀ href ∈ part.href,
    (Dict.get decrypted (removePrefix "cid:" href)).isSome = true ∧
      (Dict.get delivered (removePrefix "cid:" href)).isSome = true

/-- Every attachment a declared part names is one the encrypted key leads to. -/
def PartsListed (payloadInfo : PayloadInfo) (security : Security) : Prop :=
  ∀ part ∈ payloadInfo.partInfo, ∀ href ∈ part.href, removePrefix "cid:" href ∈ encryptedAttachments security

variable {cls : MessageClass} {context : AS4ParseContext} {soapBytes : Bytes} {mimeAttachments : Dict String Bytes}
  {message : AS4Message} {reading : Reading}

theorem required_key {security : Security} {decrypted : Dict String Bytes}
    (decrypts : getDecryptedData context security mimeAttachments = .ok decrypted)
    (required : context.securityPolicy.encryptRequired = true) : ∃ key, security.encryptedKey = some key := by
  cases carried : security.encryptedKey with
  | some key => exact ⟨key, rfl⟩
  | none => simp [getDecryptedData, carried, required, raise] at decrypts

theorem partsDecrypted_iff (accepts : Accepts context soapBytes mimeAttachments message reading) :
    PartsDecrypted reading.payloadInfo reading.decrypted message.decryptedData ↔
      PartsListed reading.payloadInfo reading.envelope.header.security := by
  have keys := decrypted_keys accepts.decrypts
  constructor
  · intro decrypted part member href named
    exact (keys _).mp (decrypted part member href named).1
  · intro listed part member href named
    have present := (keys _).mpr (listed part member href named)
    exact ⟨present, (accepts.sameAttachments _).trans present⟩

/-- Where encryption is required, the parts of an accepted message were all decrypted
exactly when the reference list of its encrypted key leads to all of them. -/
theorem required_encryption_gates_iff (parsed : parse cls context soapBytes mimeAttachments = .ok message)
    (accepted : message.parseError = none) (required : context.securityPolicy.encryptRequired = true) :
    ∃ envelope user payloadInfo key decrypted, message.soapEnvelope = some envelope ∧
      requireUserMessage envelope = .ok user ∧ user.payloadInfo = some payloadInfo ∧
      envelope.header.security.encryptedKey = some key ∧
      getDecryptedData context envelope.header.security mimeAttachments = .ok decrypted ∧
      (PartsDecrypted payloadInfo decrypted message.decryptedData ↔
        PartsListed payloadInfo envelope.header.security) := by
  obtain ⟨reading, accepts⟩ := parse_accepts parsed accepted
  obtain ⟨key, carried⟩ := required_key accepts.decrypts required
  exact ⟨reading.envelope, reading.userMessage, reading.payloadInfo, key, reading.decrypted, accepts.stored,
    accepts.hasUserMessage, accepts.hasPayloadInfo, carried, accepts.decrypts, partsDecrypted_iff accepts⟩

omit [Libraries] in
/-- The condition holds of the delivered message, under the default policy. -/
theorem delivered_parts_gated :
    letI := signing honestDocuments
    ∃ message envelope user payloadInfo key decrypted, parse .peppol (defaultContext honestDocuments)
        (plainText honestDocument) deliveredAttachments = .ok message ∧ message.soapEnvelope = some envelope ∧
      requireUserMessage envelope = .ok user ∧ user.payloadInfo = some payloadInfo ∧
      envelope.header.security.encryptedKey = some key ∧
      getDecryptedData (defaultContext honestDocuments) envelope.header.security deliveredAttachments = .ok decrypted ∧
      (PartsDecrypted payloadInfo decrypted message.decryptedData ↔
        PartsListed payloadInfo envelope.header.security) := by
  let _ := signing honestDocuments
  obtain ⟨message, _, parsed, sound, -⟩ := honest_accepted { signerResolver := trustEmbedded honestDocuments } rfl rfl
    (by simp)
  obtain ⟨envelope, user, payloadInfo, key, decrypted, stored, carries, declares, carried, decrypts, gated⟩ :=
    required_encryption_gates_iff parsed sound rfl
  exact ⟨message, envelope, user, payloadInfo, key, decrypted, parsed, stored, carries, declares, carried, decrypts, gated⟩

/-- A signature that has to cover the payloads stands in for the gate: the digest of every
signed attachment is taken of the decrypted one. -/
theorem covered_parts_decrypted (accepts : Accepts context soapBytes mimeAttachments message reading) {signature : Signature}
    (carried : reading.envelope.header.security.signature = some signature)
    (digests : context.securityPolicy.verifyDigests = true)
    (covered : "payloads" ∈ context.securityPolicy.requiredCoverage) {href : String}
    (declared : href ∈ payloadHrefs reading.userMessage) :
    (Dict.get message.decryptedData (removePrefix "cid:" href)).isSome = true := by
  obtain ⟨sameSignature, _, -, verified⟩ := accepts.verified_signature carried
  obtain ⟨_, userMessage, _, -, read, -, -, -, coverage, -⟩ := verifySignature_ok.mp verified
  obtain rfl : reading.userMessage = userMessage := Except.ok.inj (accepts.hasUserMessage.symm.trans read)
  have all := verifySignatureCoverage_ok.mp coverage "payloads" covered
  obtain ⟨reference, inList, attachment, named⟩ := covers_payloads.mp all href declared
  have checked := accepts.attachmentsMatch digests signature (by simp [sameSignature])
  obtain ⟨content, found, -⟩ := verifyAttachmentDigest_ok.mp (each_ok.mp checked reference inList) attachment
  rw [accepts.sameAttachments, ← named, found]
  rfl

end RequiredEncryption

section UnlistedPart

/-- An attachment that is not encrypted beside the one the encrypted key leads to. -/
def mixedAttachments : Dict String Bytes := ("plain", [1]) :: deliveredAttachments

/-- An unsigned message whose only part names the attachment its key does not lead to. -/
def mixedDocument : Node :=
  letI := signing []
  Envelope.codec.element (soap12 "Envelope")
    (looseEnvelope "message" (unsignedSecurity [48, 2]) [deliveredPart (some "cid:plain")])

/-- A policy that requires encryption and no signature. -/
def unsignedContext (documents : List Node) : @AS4ParseContext (signing documents) :=
  letI := signing documents
  { localParty := answeringParty documents
    securityPolicy := { signerResolver := trustEmbedded documents, signRequired := false } }

omit [Libraries] in
theorem unsigned_encrypted (documents : List Node) :
    letI := signing documents
    Encrypted (unsignedSecurity [48, 2]) (answeringParty documents).credentials.privateKey deliveredKey deliveredData "D"
      attachmentId encryptedPayload compressedPayload := by
  let _ := signing documents
  obtain ⟨-, transport, opens, references, -, identified, names, cipher⟩ :=
    @delivered_encrypted [48, 2] [] [] documents
  exact ⟨rfl, transport, opens, references, rfl, identified, names, cipher⟩

/-- A part whose attachment is there and was not decrypted is passed over. -/
theorem decompressParts_undecrypted {context : AS4ParseContext} {mimeAttachments : Dict String Bytes}
    {parts : List PartInfo} {fields : AS4Message}
    (undecrypted : ∀ part ∈ parts, ∃ identifier, part.href = some ("cid:" ++ identifier) ∧
      (Dict.get mimeAttachments identifier).isSome = true ∧ Dict.get fields.decryptedData identifier = none) :
    decompressParts context mimeAttachments parts fields = .ok () fields := by
  induction parts with
  | nil => rfl
  | cons part rest ih =>
      obtain ⟨identifier, named, attached, absent⟩ := undecrypted part List.mem_cons_self
      have passed : decompressPart context mimeAttachments fields.decryptedData part = .ok fields.decryptedData := by
        obtain ⟨content, found⟩ := Option.isSome_iff_exists.mp attached
        simp [decompressPart, named, removePrefix_append, found, absent]
      simp only [decompressParts, passed, bind, EStateM.bind, get, getThe, MonadStateOf.get, EStateM.get, lift, modify,
        modifyGet, MonadStateOf.modifyGet, EStateM.modifyGet]
      exact ih fun other member => undecrypted other (List.mem_cons_of_mem _ member)

omit [Libraries] in
/-- An accepted message declares a part that was never encrypted, where encryption is
required. -/
theorem unlisted_part_let_through :
    letI := signing [mixedDocument]
    (unsignedContext [mixedDocument]).securityPolicy.encryptRequired = true ∧
      ∃ message envelope user payloadInfo, parse .as4 (unsignedContext [mixedDocument]) (plainText mixedDocument)
          mixedAttachments = .ok message ∧ message.parseError = none ∧ message.soapEnvelope = some envelope ∧
        requireUserMessage envelope = .ok user ∧ user.payloadInfo = some payloadInfo ∧
        ∃ part ∈ payloadInfo.partInfo, part.href = some "cid:plain" ∧
          (Dict.get mixedAttachments "plain").isSome = true ∧ Dict.get message.decryptedData "plain" = none := by
  let _ := signing [mixedDocument]
  have apart : (attachmentId == "plain") = false ∧ ("plain" == attachmentId) = false := by decide
  have attached : Dict.get mixedAttachments attachmentId = some encryptedPayload := by
    simp [mixedAttachments, deliveredAttachments, Dict.get, List.lookup, apart]
  have declared : written (some "cid:plain") = some ("cid:" ++ "plain") := by decide
  have hrefs : ∀ parts, List.Forall₂ (fun part part' => ∃ child, PartInfo.codec.reread child part part')
      ([some "cid:plain"].map deliveredPart) parts → ∀ part ∈ parts, part.href = some ("cid:" ++ "plain") := by
    intro parts read part member
    obtain ⟨_, inside, _, same⟩ := forall₂_source read member
    obtain rfl := List.mem_singleton.mp inside
    rw [← declared]
    exact (PartInfo.rereads same).2
  have unpacked : ∀ parts, List.Forall₂ (fun part part' => ∃ child, PartInfo.codec.reread child part part')
      ([some "cid:plain"].map deliveredPart) parts → ∀ fields : AS4Message,
        fields.decryptedData = [(attachmentId, compressedPayload)] →
          decompressParts (unsignedContext [mixedDocument]) mixedAttachments parts fields =
            .ok () { fields with decryptedData := [(attachmentId, compressedPayload)] } := by
    intro parts read fields decrypted
    rw [← decrypted]
    refine decompressParts_undecrypted fun part member =>
      ⟨"plain", hrefs parts read part member, by simp [mixedAttachments, Dict.get], ?_⟩
    simp [decrypted, Dict.get, List.lookup, apart]
  obtain ⟨message, envelope, user, parsed, sound, -, delivered, stored, -, carries, -, payloadInfo, declares, parts⟩ :=
    @unsigned_accepted (signing [mixedDocument]) (unsignedContext [mixedDocument]) (plainText mixedDocument) "message"
      (unsignedSecurity [48, 2]) ["T", "D"] [some "cid:plain"] mixedAttachments _ _ (recorded_stamps [mixedDocument]).1
      (by decide) (by decide) (@unsignedSecurity_writes (signing [mixedDocument]) [48, 2] (by simp)) (by decide)
      (alone_listed mixedDocument) rfl rfl
      (fun _ _ read => @Encrypted.decrypts (signing [mixedDocument]) (unsignedContext [mixedDocument]) _ _ _ _ _ _ _ _
        mixedAttachments _ (unsigned_encrypted [mixedDocument]) read attached)
      unpacked
  obtain ⟨part, one, -⟩ := mem_single parts
  refine ⟨rfl, message, envelope, user, payloadInfo, parsed, sound, stored, carries, declares, part, by simp [one],
    hrefs _ parts part (by simp [one]), by simp [mixedAttachments, Dict.get], ?_⟩
  simp [delivered, Dict.get, List.lookup, apart]

end UnlistedPart

section Stages
variable {cls : MessageClass} {context : AS4ParseContext} {soapBytes : Bytes} {document : Node}
  {mimeAttachments : Dict String Bytes} {envelope : Envelope} {index : Dict String Located} {signature : Signature}
  {signer : Certificate} {before : AS4Message}

/-- `process` up to the check of the signed attachments. -/
def verificationStages (context : AS4ParseContext) (soapEnvelopeElement : Located) (mimeAttachments : Dict String Bytes) :
    Process Envelope := do
  modify fun fields => { fields with mimeAttachments := mimeAttachments }
  let soapEnvelope ← lift (Envelope.modelValidateEtree soapEnvelopeElement)
  modify fun fields => { fields with soapEnvelope := some soapEnvelope }
  let elementsById ← lift (indexElementsById soapEnvelopeElement)
  let security := soapEnvelope.header.security
  let (signature, signerCertificate) ← lift (getVerifiedSignature context security soapEnvelope elementsById)
  modify fun fields => { fields with signerCertificate := signerCertificate }
  let decryptedData ← lift (getDecryptedData context security mimeAttachments)
  modify fun fields => { fields with decryptedData := decryptedData }
  lift (verifySignedAttachments context signature decryptedData)
  return soapEnvelope

/-- `process` from there on. -/
def partStages (context : AS4ParseContext) (mimeAttachments : Dict String Bytes) (soapEnvelope : Envelope) :
    Process PUnit := do
  let userMessage ← lift (requireUserMessage soapEnvelope)
  let payloadInfo ← lift (requirePayloadInfo userMessage)
  decompressParts context mimeAttachments payloadInfo.partInfo

theorem processAs4_stages (element : Located) : processAs4 context element mimeAttachments =
    verificationStages context element mimeAttachments >>= partStages context mimeAttachments := by
  simp only [processAs4, verificationStages, partStages, bind_assoc, pure_bind]

/-- What stops a message in those stages is what the parser answers it with, whichever
the class of the message. -/
theorem parse_stops {messageId messagingId : String} {identity : AS4PartyIdentity} {raised : PyError} {fields : AS4Message}
    {error : BaseAS4ReceiptableError} (parsed : Libraries.parseXml soapBytes = some document)
    (identified : preValidate (.root document) = .ok (messageId, messagingId))
    (addressed : getAddressedTo ((Located.root document).find partyToPath) = .ok identity)
    (stopped : verificationStages context (.root document) mimeAttachments
      { messageId := messageId, messagingId := messagingId, addressedTo := some identity } = .error raised fields)
    (answered : caught raised = some error) :
    parse cls context soapBytes mimeAttachments = .ok { fields with parseError := some error } := by
  have core : processAs4 context (.root document) mimeAttachments
      { messageId := messageId, messagingId := messagingId, addressedTo := some identity } = .error raised fields := by
    rw [processAs4_stages]
    simp only [bind, EStateM.bind, stopped]
  have processed : process cls context (.root document) mimeAttachments
      { messageId := messageId, messagingId := messagingId, addressedTo := some identity } = .error raised fields := by
    cases cls with
    | as4 => exact core
    | peppol => simp only [process, processPeppol, bind, EStateM.bind, core]
  exact parse_answers parsed identified addressed processed answered

/-- A message without an encrypted key, whose signature verifies, and whose references
over attachments each match the attachment they name. -/
structure SignedPlain (context : AS4ParseContext) (document : Node) (mimeAttachments : Dict String Bytes)
    (envelope : Envelope) (index : Dict String Located) (signature : Signature) (signer : Certificate) : Prop where
  validated : Envelope.codec.validate (.root document) = .ok envelope
  indexed : indexElementsById (.root document) = .ok index
  keyless : envelope.header.security.encryptedKey = none
  verified : getVerifiedSignature context envelope.header.security envelope index = .ok (some signature, some signer)
  agree : ∀ reference ∈ signature.signedInfo.references, isAttachmentReference reference = true →
    ∃ content, Dict.get mimeAttachments (removePrefix "cid:" (referenceUri reference)) = some content ∧
      digestMatchesBytes reference content = .ok true

/-- The digests of the signed attachments are looked up among the decrypted ones. -/
theorem verificationStages_plain (plain : SignedPlain context document mimeAttachments envelope index signature signer)
    (lax : context.securityPolicy.encryptRequired = false) (digests : context.securityPolicy.verifyDigests = true) :
    verificationStages context (.root document) mimeAttachments before =
      match verifyAttachmentDigests signature [] with
      | .ok _ => .ok envelope { before with
          mimeAttachments := mimeAttachments, soapEnvelope := some envelope, signerCertificate := some signer,
          decryptedData := [] }
      | .error raised => .error raised { before with
          mimeAttachments := mimeAttachments, soapEnvelope := some envelope, signerCertificate := some signer,
          decryptedData := [] } := by
  have decrypts : getDecryptedData context envelope.header.security mimeAttachments = .ok [] := by
    simp [getDecryptedData, plain.keyless, lax]
  simp only [verificationStages, Envelope.modelValidateEtree, plain.validated, Except.mapError, plain.indexed, plain.verified,
    decrypts, verifySignedAttachments, digests, ↓reduceIte, bind, EStateM.bind, lift, modify, modifyGet,
    MonadStateOf.modifyGet, EStateM.modifyGet]
  cases verifyAttachmentDigests signature [] <;> rfl

/-- No reference over an attachment is looked up in vain exactly when there is none. -/
theorem nothing_looked_up : verifyAttachmentDigests signature [] = .ok () ↔
    ∀ reference ∈ signature.signedInfo.references, isAttachmentReference reference = false := by
  rw [verifyAttachmentDigests, each_ok]
  constructor
  · intro checked reference member
    by_contra attachment
    obtain ⟨_, found, -⟩ := verifyAttachmentDigest_ok.mp (checked reference member) (by simpa using attachment)
    simp [Dict.get] at found
  · intro apart reference member
    refine verifyAttachmentDigest_ok.mpr fun attachment => ?_
    simp [apart reference member] at attachment

/-- Where encryption is not required, a signed message without any goes through the
stages of the signature and the attachment digests exactly when no attachment of it is
signed. -/
theorem signed_plain_verifies_iff (plain : SignedPlain context document mimeAttachments envelope index signature signer)
    (lax : context.securityPolicy.encryptRequired = false) (digests : context.securityPolicy.verifyDigests = true) :
    (∃ result after, verificationStages context (.root document) mimeAttachments before = .ok result after) ↔
      ∀ reference ∈ signature.signedInfo.references, isAttachmentReference reference = false := by
  rw [verificationStages_plain plain lax digests, ← nothing_looked_up]
  cases verifyAttachmentDigests signature [] with
  | error raised => simp
  | ok checked => simp

end Stages

section SignedAttachment
variable {context : AS4ParseContext} {document : Node} {index : Dict String Located} {signature : Signature}
  {signer : Certificate} {envelope : Envelope} {elements : List (String × Node)} {payloads : Dict String Bytes}

/-- The first reference over an attachment stops the check. -/
theorem looked_up_in_vain {overElements rest : List DsigReference} {reference : DsigReference}
    (listed : signature.signedInfo.references = overElements ++ reference :: rest)
    (apart : ∀ earlier ∈ overElements, isAttachmentReference earlier = false)
    (attachment : isAttachmentReference reference = true) :
    verifyAttachmentDigests signature [] = .error (.receiptable (referenceTargetNotFound (referenceUri reference))) := by
  refine each_error.mpr ⟨overElements, reference, rest, listed, fun earlier member => ?_, ?_⟩
  · simp [verifyAttachmentDigest, apart earlier member]
  · simp [verifyAttachmentDigest, attachment, Dict.get]

/-- A proved signature over payloads that came as they were signed. -/
theorem Proves.signedPlain {user : UserMessage} (distinct : (payloads.map Prod.fst).Nodup)
    (proves : Proves envelope.header.security signer index signature elements payloads)
    (validated : Envelope.codec.validate (.root document) = .ok envelope)
    (indexed : indexElementsById (.root document) = .ok index) (keyless : envelope.header.security.encryptedKey = none)
    (carries : requireUserMessage envelope = .ok user)
    (trusted : context.securityPolicy.signerResolver user.partyInfo.partyFrom (some signer) = .ok signer)
    (covered : ∀ kind ∈ context.securityPolicy.requiredCoverage, Covers elements payloads user kind) :
    SignedPlain context document payloads envelope index signature signer := by
  have verified := verifySignature_proved proves carries trusted covered
  refine ⟨validated, indexed, keyless, getVerifiedSignature_some.mpr ⟨proves.signed, signer, rfl, verified⟩, ?_⟩
  intro reference member attachment
  obtain ⟨overElements, overPayloads, listed, first, second⟩ := proves.references
  rcases List.mem_append.mp (listed ▸ member) with inElements | inPayloads
  · obtain ⟨entry, -, n, placed, -⟩ := forall₂_source first inElements
    simp [attachment] at placed
  · obtain ⟨entry, inside, named, matched⟩ := forall₂_source second inPayloads
    exact ⟨entry.2, by rw [named, removePrefix_append, get_of_mem distinct inside], matched⟩

/-- A signature over the messaging header, the body and the payload, which is not
encrypted. -/
def plainDocument : Node :=
  letI := signing []
  Envelope.codec.element (soap12 "Envelope") (looseEnvelope "message"
    (plainSecurity [48, 2] (deliveredElements [partFor attachmentId] deliveredBody) deliveredPayloads) [partFor attachmentId])

/-- The default policy but for the encryption, which it does not require. -/
def plainContext (documents : List Node) : @AS4ParseContext (signing documents) :=
  letI := signing documents
  { localParty := answeringParty documents
    securityPolicy := { signerResolver := trustEmbedded documents, encryptRequired := false } }

omit [Libraries] in
theorem plain_signed :
    letI := signing [plainDocument]
    Signed plainDocument (plainSecurity [48, 2] (deliveredElements [partFor attachmentId] deliveredBody) deliveredPayloads)
      ⟨[48, 2], rfl⟩ (deliveredToken [48, 2])
      (deliveredSignature (deliveredElements [partFor attachmentId] deliveredBody) deliveredPayloads)
      (deliveredElements [partFor attachmentId] deliveredBody) deliveredPayloads := by
  let _ := signing [plainDocument]
  have placed : ∀ entry ∈ deliveredElements [partFor attachmentId] deliveredBody, Carries plainDocument entry := by
    intro entry member
    simp only [deliveredElements, List.mem_cons, List.not_mem_nil, or_false] at member
    rcases member with rfl | rfl
    · exact @messaging_carried (signing []) (looseEnvelope "message" _ _) "M" rfl (by decide)
    · exact @body_carried (signing []) (looseEnvelope "message" _ _) "B" rfl (by decide)
  refine ⟨by simp [findToken, plainSecurity, bareSecurity], rfl, rfl, rfl, rfl, rfl, rfl, ⟨_, _, rfl, ?_, ?_⟩, placed,
    ⟨[48, 2]⟩, _, _, rfl, rfl, rfl, by simp, beq_self_eq_true _⟩
  · rw [List.forall₂_map_right_iff, List.forall₂_same]
    exact fun entry _ => referenceForElement_ok.mpr ⟨_, rfl, rfl⟩
  · rw [List.forall₂_map_right_iff, List.forall₂_same]
    exact fun entry _ => rfl

omit [Libraries] in
/-- The message meets every condition, and its references over attachments come last. -/
theorem plain_proved :
    letI := signing [plainDocument]
    ∃ envelope index signature user overElements reference,
      SignedPlain (plainContext [plainDocument]) plainDocument deliveredPayloads envelope index signature ⟨[48, 2], rfl⟩ ∧
      requireUserMessage envelope = .ok user ∧
      (∀ kind ∈ ["messaging", "body", "payloads"], kind ∈ signatureCoverage signature index (payloadHrefs user)) ∧
      signature.signedInfo.references = overElements ++ [reference] ∧
      (∀ earlier ∈ overElements, isAttachmentReference earlier = false) ∧
      isAttachmentReference reference = true ∧ referenceUri reference = "cid:" ++ attachmentId := by
  let _ := signing [plainDocument]
  have writes := @plainSecurity_writes (signing [plainDocument]) [48, 2]
    (deliveredElements [partFor attachmentId] deliveredBody) deliveredPayloads (by simp)
  obtain ⟨envelope, user, read, ⟨_, securityRead⟩, carries, child, userRead⟩ :=
    @looseEnvelope_rereads (signing [plainDocument]) "message" _ _ [some ("cid:" ++ attachmentId)]
      (recorded_stamps [plainDocument]).1 (by decide) writes
  obtain ⟨index, indexed⟩ := @looseEnvelope_indexed (signing [plainDocument]) "message" _ _ [some ("cid:" ++ attachmentId)]
    writes (by decide)
  have keyless : envelope.header.security.encryptedKey = none := by
    have keyed := (Security.rereads securityRead).2.1
    generalize envelope.header.security.encryptedKey = found at keyed
    cases keyed
    rfl
  obtain ⟨signature, proves⟩ := plain_signed.proves (fun _ => rfl) securityRead indexed
  have covers : ∀ kind ∈ ["messaging", "body", "payloads"],
      Covers (deliveredElements [partFor attachmentId] deliveredBody) deliveredPayloads user kind :=
    fun kind asked => @honest_covers (signing [plainDocument]) child user userRead kind asked
  have whole : SignedPlain (plainContext [plainDocument]) plainDocument deliveredPayloads envelope index signature
      ⟨[48, 2], rfl⟩ :=
    Proves.signedPlain (by simp [deliveredPayloads]) proves read indexed keyless carries rfl covers
  obtain ⟨overElements, overPayloads, listed, first, second⟩ := proves.references
  obtain ⟨reference, rfl, named, -⟩ := mem_single second
  refine ⟨envelope, index, signature, user, overElements, reference, whole, carries,
    fun kind asked => coverage_proved proves (covers kind asked), listed, ?_, ?_, named⟩
  · intro earlier member
    obtain ⟨_, -, _, apart, -⟩ := forall₂_source first member
    exact apart
  · rw [isAttachmentReference, named, startsWith_append]

omit [Libraries] in
/-- A signed message without any encryption is refused for its signed attachment, which
matches its digest, where encryption is not required. -/
theorem signed_plain_refused :
    letI := signing [plainDocument]
    ∃ envelope index signature user message, (plainContext [plainDocument]).securityPolicy.encryptRequired = false ∧
      (plainContext [plainDocument]).securityPolicy.verifyDigests = true ∧
      SignedPlain (plainContext [plainDocument]) plainDocument deliveredPayloads envelope index signature ⟨[48, 2], rfl⟩ ∧
      requireUserMessage envelope = .ok user ∧
      (∀ kind ∈ ["messaging", "body", "payloads"], kind ∈ signatureCoverage signature index (payloadHrefs user)) ∧
      parse .as4 (plainContext [plainDocument]) (plainText plainDocument) deliveredPayloads = .ok message ∧
      message.parseError = some (referenceTargetNotFound ("cid:" ++ attachmentId)) := by
  let _ := signing [plainDocument]
  obtain ⟨envelope, index, signature, user, overElements, reference, whole, carries, covered, listed, apart, attachment,
    named⟩ := plain_proved
  have vain := looked_up_in_vain listed apart attachment
  rw [named] at vain
  have stops := fun before : AS4Message => @verificationStages_plain (signing [plainDocument]) (plainContext [plainDocument])
    plainDocument deliveredPayloads envelope index signature ⟨[48, 2], rfl⟩ before whole rfl rfl
  rw [vain] at stops
  have parsed : parse .as4 (plainContext [plainDocument]) (plainText plainDocument) deliveredPayloads = .ok _ :=
    parse_stops (alone_listed plainDocument) (preValidate_written rfl rfl rfl (by decide) (by decide))
      (getAddressedTo_written rfl rfl (by decide)) (stops _) rfl
  exact ⟨envelope, index, signature, user, _, rfl, rfl, whole, carries, covered, parsed, rfl⟩

omit [Libraries] in
/-- The condition is that of the refused message. -/
theorem signed_plain_stages :
    letI := signing [plainDocument]
    ∃ signature : Signature,
      ((∃ result after, verificationStages (plainContext [plainDocument]) (.root plainDocument) deliveredPayloads {} =
          .ok result after) ↔
        ∀ reference ∈ signature.signedInfo.references, isAttachmentReference reference = false) := by
  let _ := signing [plainDocument]
  obtain ⟨_, _, signature, _, _, _, whole, -⟩ := plain_proved
  exact ⟨signature, signed_plain_verifies_iff whole rfl rfl⟩

end SignedAttachment

end DecryptionGates
