import AS4.RestoredSenders
import AS4.MessageReadings

/-!
What a build of an outbound message leaves behind. The attachment map of the
references is filled in half-way through, after the payload is enveloped and the
session key encrypted and before anything is signed; the parts of the message that
are derived from the whole map meet there those derived from its first entry.
-/

namespace BuiltMessages
open ElementTree ElementCodec FallibleSteps PythonData AS4Libraries AS4Errors SignatureModel EncryptionModel
  MessagingModel EnvelopeModel BusinessDocument Verification MessageParsing ReceiptVerification SignalBuilding
  MessageBuilding Exchange RestoredSenders Serialisation RecordedExchange MessageReadings ReceivingRuns ExchangeInvariants

section Mapping

/-- The attachment a build works on, and those mapped beside it. -/
def attachments (draws : Draws) : Dict String String → (String × String) × Dict String String
  | [] => ((s!"as4-att-{draws.attachment}@cid", s!"ED-{draws.encryptedData}"), [])
  | first :: rest => (first, rest)

/-- The attachment map after a build went past its keys. -/
def filled (draws : Draws) (mapping : Dict String String) : Dict String String :=
  (attachments draws mapping).1 :: (attachments draws mapping).2

def withAttachment (draws : Draws) (references : AS4References) : AS4References :=
  { references with attachmentIdEncryptedDataIdMap := filled draws references.attachmentIdEncryptedDataIdMap }

theorem filled_eq_iff (draws : Draws) (mapping : Dict String String) : filled draws mapping = mapping ↔ mapping ≠ [] := by
  cases mapping <;> simp [filled, attachments]

theorem withAttachment_eq_iff (draws : Draws) (references : AS4References) :
    withAttachment draws references = references ↔ references.attachmentIdEncryptedDataIdMap ≠ [] := by
  rw [← filled_eq_iff draws]
  constructor
  · intro same
    exact congrArg (·.attachmentIdEncryptedDataIdMap) same
  · intro same
    rw [withAttachment, same]

theorem encryptedDataAttachmentMapping_fills (draws : Draws) (before : AS4References) :
    encryptedDataAttachmentMapping draws before =
      .ok (attachments draws before.attachmentIdEncryptedDataIdMap).1 (withAttachment draws before) := by
  simp only [encryptedDataAttachmentMapping, bind, EStateM.bind, get, getThe, MonadStateOf.get, EStateM.get,
    withAttachment, filled]
  cases mapped : before.attachmentIdEncryptedDataIdMap with
  | cons first rest => simp [attachments, ← mapped, pure, EStateM.pure]
  | nil => rfl

end Mapping

section Stages
variable [Libraries] {payload : Bytes} {localParty : AS4InternalParty} {remoteParty : AS4ExternalParty}
  {args : PeppolAS4MessageBuilderArgs} {draws : Draws} {before after : AS4References}

/-- What a build does up to the attachment map: the enveloped payload and the key of
the remote party. -/
def prepared (payload : Bytes) (remoteParty : AS4ExternalParty) (args : PeppolAS4MessageBuilderArgs) (draws : Draws) :
    Except PyError (Bytes × RSAPublicKey) := do
  let enveloped ← envelopePayload args draws payload
  let remoteKey ← rsaPublicKey remoteParty.credentials
  return (enveloped, remoteKey)

/-- The message built around an envelope. -/
def builtMessage (args : PeppolAS4MessageBuilderArgs) (draws : Draws) (references : AS4References) (enveloped : Bytes)
    (envelope : Envelope) : AS4Message :=
  let attachmentId := (attachments draws references.attachmentIdEncryptedDataIdMap).1.1
  { soapEnvelope := some envelope
    messageId := references.messageId
    messagingId := references.messagingId
    mimeAttachments := [(attachmentId, encryptPayload draws (Libraries.gzipCompress enveloped))]
    decryptedData := [(attachmentId, enveloped)]
    sender := some args.sender
    recipient := some args.recipient
    documentTypeIdentifierValue := some args.documentTypeIdentifier.identifierValue
    documentTypeIdentifierScheme := some args.documentTypeIdentifier.scheme
    processIdentifier := some args.processIdentifier }

/-- The envelope a build makes once the attachment map is filled. -/
def envelopeOver (localParty : AS4InternalParty) (remoteParty : AS4ExternalParty) (args : PeppolAS4MessageBuilderArgs)
    (draws : Draws) (references : AS4References) (enveloped : Bytes) (remoteKey : RSAPublicKey) : Except PyError Envelope :=
  getSoapEnvelope localParty remoteParty args (withAttachment draws references) draws
    (Libraries.rsaEncrypt remoteKey draws.oaepSeed draws.sessionKey)
    [((attachments draws references.attachmentIdEncryptedDataIdMap).1.1, Libraries.gzipCompress enveloped)]

/-- A build in three stages, the second of which changes the references. -/
theorem buildMessage_stages (payload : Bytes) (localParty : AS4InternalParty) (remoteParty : AS4ExternalParty)
    (args : PeppolAS4MessageBuilderArgs) (draws : Draws) (before : AS4References) :
    buildMessage payload localParty remoteParty args draws before =
      match prepared payload remoteParty args draws with
      | .error raised => .error raised before
      | .ok (enveloped, remoteKey) =>
          match envelopeOver localParty remoteParty args draws before enveloped remoteKey with
          | .error raised => .error raised (withAttachment draws before)
          | .ok envelope => .ok (builtMessage args draws before enveloped envelope) (withAttachment draws before) := by
  simp only [buildMessage, prepared, bind, EStateM.bind, Except.bind]
  cases envelopePayload args draws payload with
  | error raised => rfl
  | ok enveloped =>
      cases rsaPublicKey remoteParty.credentials with
      | error raised => rfl
      | ok remoteKey =>
          simp only [lift, encryptedDataAttachmentMapping_fills, get, getThe, MonadStateOf.get, EStateM.get, pure,
            Except.pure, EStateM.pure]
          rw [← envelopeOver]
          cases envelopeOver localParty remoteParty args draws before enveloped remoteKey <;> rfl

theorem buildMessage_ok {message : AS4Message}
    (built : buildMessage payload localParty remoteParty args draws before = .ok message after) :
    ∃ enveloped envelope remoteKey,
      envelopeOver localParty remoteParty args draws before enveloped remoteKey = .ok envelope ∧
        message = builtMessage args draws before enveloped envelope := by
  rw [buildMessage_stages] at built
  cases stage : prepared payload remoteParty args draws with
  | error raised => simp [stage] at built
  | ok keys =>
      simp only [stage] at built
      cases made : envelopeOver localParty remoteParty args draws before keys.1 keys.2 with
      | error raised => simp [made] at built
      | ok envelope =>
          simp only [made, EStateM.Result.ok.injEq] at built
          exact ⟨keys.1, envelope, keys.2, made, built.1.symm⟩

theorem envelopePayload_ok :
    (∃ enveloped, envelopePayload args draws payload = .ok enveloped) ↔
      (∃ name, args.documentTypeIdentifier.rootElementName = .ok name) ∧ ∃ root, parseXml payload = .ok root := by
  simp only [envelopePayload, getStandardBusinessDocument, bind_ok, pure_ok]
  constructor
  · rintro ⟨_, _, ⟨name, named, -⟩, root, parsed, -⟩
    exact ⟨⟨name, named⟩, root, parsed⟩
  · rintro ⟨⟨name, named⟩, root, parsed⟩
    exact ⟨_, _, ⟨name, named, rfl⟩, root, parsed, rfl⟩

theorem prepared_ok :
    (∃ stage, prepared payload remoteParty args draws = .ok stage) ↔
      ((∃ name, args.documentTypeIdentifier.rootElementName = .ok name) ∧ ∃ root, parseXml payload = .ok root) ∧
        ∃ key, rsaPublicKey remoteParty.credentials = .ok key := by
  have enveloping := @envelopePayload_ok _ payload args draws
  rw [← enveloping]
  simp only [prepared, bind_ok, pure_ok]
  constructor
  · rintro ⟨_, enveloped, made, key, readable, -⟩
    exact ⟨⟨enveloped, made⟩, key, readable⟩
  · rintro ⟨⟨enveloped, made⟩, key, readable⟩
    exact ⟨_, enveloped, made, key, readable, rfl⟩

end Stages

section FailedBuilds
variable [Libraries] {payload : Bytes} {args : PeppolAS4MessageBuilderArgs} {draws : Draws}
  {exchange after : AS4SendingExchange} {raised : PyError}

/-- `build`, whatever turns the message into a request. -/
def buildThrough (serialise : AS4Message → Draws → Except PyError (Dict String String × Bytes))
    (builder : MessageBuilder) (draws : Draws) : EStateM PyError AS4SendingExchange (Dict String String × Bytes) :=
  fun exchange =>
    match builder exchange.localParty exchange.remoteParty exchange.identifiers with
    | .error raised identifiers => .error raised { exchange with identifiers := identifiers }
    | .ok message identifiers =>
        match serialise message draws with
        | .error raised => .error raised { exchange with identifiers := identifiers }
        | .ok request =>
            .ok request { exchange with
              identifiers := identifiers
              message := some message
              messageId := message.messageId
              messagingId := message.messagingId
              signedReferences := message.signedReferences
              state := .built }

theorem build_serialises (builder : MessageBuilder) (draws : Draws) :
    build builder draws = buildThrough requestData builder draws := rfl

/-- The Peppol profile's builder of a payload. -/
def peppolBuilder (payload : Bytes) (args : PeppolAS4MessageBuilderArgs) (draws : Draws) : MessageBuilder :=
  fun localParty remoteParty => buildMessage payload localParty remoteParty args draws

/-- A build that will not add to the attachment map: there is an attachment in it, or
the payload cannot be enveloped, or the remote key is not one to encrypt to. -/
def AddsNoAttachment (payload : Bytes) (args : PeppolAS4MessageBuilderArgs) (exchange : AS4SendingExchange) : Prop :=
  exchange.identifiers.attachmentIdEncryptedDataIdMap ≠ [] ∨
    (¬ ∃ name, args.documentTypeIdentifier.rootElementName = .ok name) ∨
    (¬ ∃ root, parseXml payload = .ok root) ∨
    ¬ ∃ key, rsaPublicKey exchange.remoteParty.credentials = .ok key

/-- A failed build changes nothing, or the attachment map alone. -/
theorem failed_build_leaves {serialise : AS4Message → Draws → Except PyError (Dict String String × Bytes)}
    (failed : buildThrough serialise (peppolBuilder payload args draws) draws exchange = .error raised after) :
    (after = exchange ∧ ¬ ∃ stage, prepared payload exchange.remoteParty args draws = .ok stage) ∨
      (after = { exchange with identifiers := withAttachment draws exchange.identifiers } ∧
        ∃ stage, prepared payload exchange.remoteParty args draws = .ok stage) := by
  simp only [buildThrough, peppolBuilder, buildMessage_stages] at failed
  cases stage : prepared payload exchange.remoteParty args draws with
  | error reason =>
      simp only [stage, EStateM.Result.error.injEq] at failed
      exact .inl ⟨failed.2.symm, by simp⟩
  | ok keys =>
      refine .inr ⟨?_, keys, rfl⟩
      simp only [stage] at failed
      -- past the keys, whichever of the two steps raises finds the map filled
      cases made : envelopeOver exchange.localParty exchange.remoteParty args draws exchange.identifiers keys.1 keys.2 with
      | error reason =>
          simp only [made, EStateM.Result.error.injEq] at failed
          exact failed.2.symm
      | ok envelope =>
          simp only [made] at failed
          cases sent : serialise (builtMessage args draws exchange.identifiers keys.1 envelope) draws with
          | error reason =>
              simp only [sent, EStateM.Result.error.injEq] at failed
              exact failed.2.symm
          | ok request => simp [sent] at failed

/-- Without a signature there is no envelope. -/
theorem unsigned_makes_no_envelope {localParty : AS4InternalParty} {remoteParty : AS4ExternalParty}
    {references : AS4References} {enveloped : Bytes} {remoteKey : RSAPublicKey}
    (refuses : ∀ data value, localParty.credentials.privateKey.sign data ≠ .ok value) (envelope : Envelope) :
    envelopeOver localParty remoteParty args draws references enveloped remoteKey ≠ .ok envelope := by
  intro made
  simp only [envelopeOver, getSoapEnvelope, getSignature, bind_ok, pure_ok] at made
  obtain ⟨_, -, _, ⟨_, -, value, signed, -⟩, -⟩ := made
  exact refuses _ _ signed

theorem unsigned_build_fails {exchange : AS4SendingExchange}
    (refuses : ∀ data value, exchange.localParty.credentials.privateKey.sign data ≠ .ok value) :
    ∃ raised after, build (peppolBuilder payload args draws) draws exchange = .error raised after := by
  simp only [build, peppolBuilder, buildMessage_stages]
  cases stage : prepared payload exchange.remoteParty args draws with
  | error reason => exact ⟨_, _, rfl⟩
  | ok keys =>
      cases made : envelopeOver exchange.localParty exchange.remoteParty args draws exchange.identifiers keys.1 keys.2 with
      | error reason =>
          simp only [made]
          exact ⟨_, _, rfl⟩
      | ok envelope => exact absurd made (unsigned_makes_no_envelope refuses envelope)

end FailedBuilds

section RefusedSignature

def invoiceRoot : Node := .element ⟨"urn:oasis:names:specification:ubl:schema:xsd:Invoice-2", "Invoice"⟩ [] []

def freshReferences : AS4References := { sentReferences with attachmentIdEncryptedDataIdMap := [] }

/-- The sender, with a key that does not sign. -/
def mutedParty (documents : List Node) : @AS4InternalParty (signing documents) :=
  letI := signing documents
  { identity := peppolIdentity "9932:9999999999"
    credentials :=
      { certificate := ⟨[48, 1], Eq.refl true⟩
        privateKey := ⟨fun _ => .error (.other "TokenRemoved" ""), .ok⟩ } }

def invoiceReceiver (documents : List Node) : @AS4ExternalParty (signing documents) :=
  letI := signing documents
  { identity := peppolIdentity "9932:1111111111", credentials := ⟨⟨[48, 2], Eq.refl true⟩⟩ }

theorem invoice_parses :
    letI := signing [invoiceRoot]
    parseXml (plainText invoiceRoot) = .ok invoiceRoot := by
  let _ := signing [invoiceRoot]
  refine parseXml_ok.mpr ?_
  change [invoiceRoot].find? _ = _
  rw [List.find?_cons_of_pos (by simp)]

end RefusedSignature

section OneSet
variable [Libraries]

omit [Libraries] in
/-- The attachments the declared parts name. -/
def declaredAttachments (envelope : Envelope) : List String :=
  (envelope.header.messaging.userMessages.flatMap payloadHrefs).map (removePrefix "cid:")

omit [Libraries] in
/-- The attachments the signed info has a reference for. -/
def signedAttachments (envelope : Envelope) : List String :=
  match envelope.header.security.signature with
  | none => []
  | some signature =>
      ((signature.signedInfo.references.filter isAttachmentReference).map referenceUri).map (removePrefix "cid:")

omit [Libraries] in
/-- The attachments the encrypted data elements name as their content. -/
def encipheredAttachments (envelope : Envelope) : List String :=
  (((envelope.header.security.encryptedData.getD []).filterMap fun data =>
    data.cipherData.cipherReference.bind (·.uri))).map (removePrefix "cid:")

omit [Libraries] in
def encryptedDataIds (envelope : Envelope) : List (Option String) :=
  (envelope.header.security.encryptedData.getD []).map (·.encryptedTypeId)

omit [Libraries] in
/-- What the data references of the encrypted key point at. -/
def dataReferences (envelope : Envelope) : List (Option String) :=
  match envelope.header.security.encryptedKey with
  | none => []
  | some key => key.referenceList.dataReference.map fun reference => reference.uri.map dropFirst

/-- The attachments the message carries are those it decrypted, signed, declares and
has encrypted data for, and the encrypted key refers to all of these. -/
structure NamesOneSet (message : AS4Message) (envelope : Envelope) : Prop where
  opened : ∀ identifier, identifier ∈ message.decryptedData.map (·.1) ↔ identifier ∈ message.mimeAttachments.map (·.1)
  signed : ∀ identifier, identifier ∈ signedAttachments envelope ↔ identifier ∈ message.mimeAttachments.map (·.1)
  declared : ∀ identifier, identifier ∈ declaredAttachments envelope ↔ identifier ∈ message.mimeAttachments.map (·.1)
  enciphered : ∀ identifier,
    identifier ∈ encipheredAttachments envelope ↔ identifier ∈ message.mimeAttachments.map (·.1)
  referred : dataReferences envelope = encryptedDataIds envelope

omit [Libraries] in
theorem fragment_not_attachment {reference : DsigReference} {name : String} (named : reference.uri = some ("#" ++ name)) :
    isAttachmentReference reference = false := by
  rw [isAttachmentReference, referenceUri, named, Option.getD_some]
  by_contra attached
  obtain ⟨rest, same⟩ := startsWith_iff.mp (Bool.not_eq_false _ ▸ attached)
  simpa using congrArg String.toList same

theorem getPayloadDigestReferences_uris {payloads : Dict String Bytes} {references : List DsigReference}
    (made : getPayloadDigestReferences payloads = .ok references) :
    references.map referenceUri = payloads.map fun payload => "cid:" ++ payload.1 := by
  induction payloads generalizing references with
  | nil =>
      obtain rfl : [] = references := Except.ok.inj made
      rfl
  | cons payload rest ih =>
      simp only [getPayloadDigestReferences, referenceForBytes, bind_ok, pure_ok] at made
      obtain ⟨_, ⟨digest, -, rfl⟩, others, madeOthers, rfl⟩ := made
      simp only [List.map_cons, ih madeOthers]
      rfl

/-- The signature is over the header, the body and the payloads, in that order. -/
theorem getSoapEnvelope_signs {localParty : AS4InternalParty} {remoteParty : AS4ExternalParty}
    {args : PeppolAS4MessageBuilderArgs} {references : AS4References} {draws : Draws} {encryptedSessionKey : Bytes}
    {compressedPayloads : Dict String Bytes} {envelope : Envelope}
    (made : getSoapEnvelope localParty remoteParty args references draws encryptedSessionKey compressedPayloads =
      .ok envelope) : signedAttachments envelope = compressedPayloads.map (·.1) := by
  simp only [getSoapEnvelope, getSignedInfo, getMessagingDigestReference, getBodyDigestReference, referenceForElement,
    referenceForBytes, getSignature, bind_ok, pure_ok] at made
  obtain ⟨_, ⟨_, ⟨_, -, _, -, rfl⟩, _, ⟨_, -, _, -, rfl⟩, payloads, madePayloads, rfl⟩, _, ⟨_, -, _, -, rfl⟩, rfl⟩ := made
  have uris := getPayloadDigestReferences_uris madePayloads
  have attached : payloads.filter isAttachmentReference = payloads := by
    rw [List.filter_eq_self]
    intro reference inside
    have named : referenceUri reference ∈ payloads.map referenceUri := List.mem_map_of_mem inside
    rw [uris, List.mem_map] at named
    obtain ⟨payload, -, same⟩ := named
    rw [isAttachmentReference, ← same, startsWith_append]
  rw [signedAttachments]
  simp only [signedInfoOver]
  rw [List.filter_cons_of_neg (by rw [fragment_not_attachment rfl]; simp),
    List.filter_cons_of_neg (by rw [fragment_not_attachment rfl]; simp), attached, uris]
  simp [Function.comp_def]

/-- What is declared and enciphered comes from the whole map, and the data references
are to just what is enciphered. -/
theorem getSoapEnvelope_declares {localParty : AS4InternalParty} {remoteParty : AS4ExternalParty}
    {args : PeppolAS4MessageBuilderArgs} {references : AS4References} {draws : Draws} {encryptedSessionKey : Bytes}
    {compressedPayloads : Dict String Bytes} {envelope : Envelope}
    (made : getSoapEnvelope localParty remoteParty args references draws encryptedSessionKey compressedPayloads =
      .ok envelope) :
    declaredAttachments envelope = references.attachmentIdEncryptedDataIdMap.map (·.1) ∧
      encipheredAttachments envelope = references.attachmentIdEncryptedDataIdMap.map (·.1) ∧
      dataReferences envelope = encryptedDataIds envelope := by
  simp only [getSoapEnvelope, bind_ok, pure_ok] at made
  obtain ⟨info, -, signature, -, rfl⟩ := made
  have href : ∀ identifier : String, (some (toString "cid:" ++ toString identifier)).filter (· ≠ "") =
      some ("cid:" ++ identifier) := by
    intro identifier
    have : "cid:" ++ identifier ≠ "" := fun empty => by simpa using congrArg String.toList empty
    exact (Option.filter_some ..).trans (if_pos (decide_eq_true this))
  have bare : ∀ identifier : String, dropFirst (toString "#" ++ toString identifier) = identifier := by
    intro identifier
    exact dropFirst_hash identifier
  refine ⟨?_, ?_, ?_⟩
  · simp only [declaredAttachments, messagingOver, getUserMessage, payloadHrefs, partFor, List.flatMap_cons,
      List.flatMap_nil, List.append_nil, List.filterMap_map, Function.comp_def, href, List.filterMap_eq_map',
      List.map_map, removePrefix_append]
  · simp only [encipheredAttachments, getEncryptedData, encryptedDataFor, Option.getD_some, List.filterMap_map,
      Function.comp_def, Option.bind_some, List.filterMap_eq_map', List.map_map]
    exact List.map_congr_left fun entry _ => removePrefix_append "cid:" entry.1
  · simp [dataReferences, encryptedDataIds, getEncryptedKey, getEncryptedData, encryptedDataFor, Function.comp_def, bare]

omit [Libraries] in
/-- Distinct names are the first one alone only where there is no other. -/
theorem only_first_iff {first : String} {rest : List String} (distinct : (first :: rest).Nodup) :
    (∀ name, name ∈ first :: rest ↔ name ∈ [first]) ↔ rest = [] := by
  constructor
  · intro same
    cases rest with
    | nil => rfl
    | cons second others =>
        have again : second = first := by simpa using (same second).mp (by simp)
        simp [again] at distinct
  · rintro rfl name
    rfl

/-- A built message names one set of attachments just when the attachment map it was
built from had at most one entry. -/
theorem built_names_one_set_iff (payload : Bytes) (localParty : AS4InternalParty) (remoteParty : AS4ExternalParty)
    (args : PeppolAS4MessageBuilderArgs) (draws : Draws) (references after : AS4References) (message : AS4Message)
    (distinct : (references.attachmentIdEncryptedDataIdMap.map (·.1)).Nodup)
    (built : buildMessage payload localParty remoteParty args draws references = .ok message after) :
    ∃ envelope, message.soapEnvelope = some envelope ∧
      (NamesOneSet message envelope ↔ references.attachmentIdEncryptedDataIdMap.length ≤ 1) := by
  obtain ⟨enveloped, envelope, remoteKey, made, rfl⟩ := buildMessage_ok built
  refine ⟨envelope, rfl, ?_⟩
  obtain ⟨declared, enciphered, referred⟩ := getSoapEnvelope_declares made
  have signed := getSoapEnvelope_signs made
  have whole : (withAttachment draws references).attachmentIdEncryptedDataIdMap.map (·.1) =
      (attachments draws references.attachmentIdEncryptedDataIdMap).1.1 ::
        (attachments draws references.attachmentIdEncryptedDataIdMap).2.map (·.1) := rfl
  have few : references.attachmentIdEncryptedDataIdMap.length ≤ 1 ↔
      (attachments draws references.attachmentIdEncryptedDataIdMap).2.map (·.1) = [] := by
    cases references.attachmentIdEncryptedDataIdMap <;> simp [attachments]
  have apart : ((attachments draws references.attachmentIdEncryptedDataIdMap).1.1 ::
      (attachments draws references.attachmentIdEncryptedDataIdMap).2.map (·.1)).Nodup := by
    cases mapped : references.attachmentIdEncryptedDataIdMap with
    | nil => simp [attachments]
    | cons first rest => simpa [mapped, attachments] using distinct
  rw [whole] at declared enciphered
  rw [few, ← only_first_iff apart, ← declared]
  constructor
  · intro same
    exact same.declared
  · intro same
    exact ⟨fun _ => Iff.rfl, fun identifier => by rw [signed]; rfl, same, by rwa [enciphered, ← declared], referred⟩

/-- A message is built wherever its payload and its keys will do. -/
theorem buildMessage_makes {payload : Bytes} {localParty : AS4InternalParty} {remoteParty : AS4ExternalParty}
    {args : PeppolAS4MessageBuilderArgs} {draws : Draws}
    (forms : ∀ element, ∃ form, Libraries.canonicalForm (.root element) [] = some form)
    (signs : ∀ data, ∃ value, localParty.credentials.privateKey.sign data = .ok value)
    (ready : ∃ stage, prepared payload remoteParty args draws = .ok stage) (references : AS4References) :
    ∃ message after, buildMessage payload localParty remoteParty args draws references = .ok message after := by
  have digested : ∀ uri content transform, ∃ reference, referenceForBytes uri content transform = .ok reference := by
    intro uri content transform
    have supported : digestAlgorithmMap xmlencSha256 = some .sha256 := by decide
    simp only [referenceForBytes, bind_ok, pure_ok, computeDigest_ok]
    exact ⟨_, _, ⟨.sha256, supported, rfl⟩, rfl⟩
  have covered : ∀ uri element, ∃ reference, referenceForElement uri element = .ok reference := by
    intro uri element
    obtain ⟨form, taken⟩ := forms element
    obtain ⟨reference, made⟩ := digested uri form exclusiveC14N
    exact ⟨reference, by rw [referenceForElement, canonicalize_ok.mpr taken]; exact made⟩
  obtain ⟨⟨enveloped, remoteKey⟩, stage⟩ := ready
  have made : ∃ envelope,
      envelopeOver localParty remoteParty args draws references enveloped remoteKey = .ok envelope := by
    obtain ⟨messaging, madeMessaging⟩ := covered s!"#{references.messagingId}" (Messaging.codec.element (eb3 "Messaging")
      (messagingOver (withAttachment draws references)
        (getUserMessage localParty remoteParty args (withAttachment draws references) draws)))
    obtain ⟨body, madeBody⟩ := covered s!"#{references.bodyId}"
      (Body.codec.element (soap12 "Body") { bodyId := some references.bodyId })
    obtain ⟨part, madePart⟩ := digested s!"cid:{(attachments draws references.attachmentIdEncryptedDataIdMap).1.1}"
      (Libraries.gzipCompress enveloped) attachmentContentSignature
    obtain ⟨form, taken⟩ :=
      forms (SignedInfo.codec.element (ds "SignedInfo") (signedInfoOver [messaging, body, part]))
    obtain ⟨value, signed⟩ := signs form
    have madeSignature : ∃ signature, getSignature localParty (withAttachment draws references)
        (signedInfoOver [messaging, body, part]) = .ok signature := by
      simp only [getSignature, bind_ok, pure_ok]
      exact ⟨_, form, canonicalize_ok.mpr taken, value, signed, rfl⟩
    obtain ⟨signature, madeSignature⟩ := madeSignature
    simp only [envelopeOver, getSoapEnvelope, getSignedInfo, getPayloadDigestReferences, bind_ok, pure_ok]
    exact ⟨_, _, ⟨messaging, madeMessaging, body, madeBody, _, ⟨part, madePart, [], rfl, rfl⟩, rfl⟩, signature,
      madeSignature, rfl⟩
  obtain ⟨envelope, made⟩ := made
  refine ⟨builtMessage args draws references enveloped envelope, withAttachment draws references, ?_⟩
  simp only [buildMessage_stages, stage, made]

end OneSet

section TwoAttachments

def pairedReferences : AS4References :=
  { sentReferences with attachmentIdEncryptedDataIdMap := [("first", "ED-1"), ("second", "ED-2")] }

theorem invoice_builds (references : AS4References) :
    letI := signing [invoiceRoot]
    ∃ message after, buildMessage (plainText invoiceRoot) (answeringParty [invoiceRoot]) (invoiceReceiver [invoiceRoot])
      builderArgs RecordedExchange.draws references = .ok message after := by
  let _ := signing [invoiceRoot]
  have ready : ∃ stage, prepared (plainText invoiceRoot) (invoiceReceiver [invoiceRoot]) builderArgs
      RecordedExchange.draws = .ok stage :=
    prepared_ok.mpr ⟨⟨⟨"Invoice", rfl⟩, _, invoice_parses⟩, ⟨[48, 2]⟩, rfl⟩
  exact @buildMessage_makes (signing [invoiceRoot]) _ (answeringParty [invoiceRoot]) _ _ _ (fun element => ⟨_, rfl⟩)
    (fun data => ⟨0 :: data, rfl⟩) ready references

/-- Built from two mapped attachments, a message declares both and carries one. -/
theorem second_attachment_declared_alone :
    letI := signing [invoiceRoot]
    ∃ message after envelope,
      buildMessage (plainText invoiceRoot) (answeringParty [invoiceRoot]) (invoiceReceiver [invoiceRoot]) builderArgs
          RecordedExchange.draws pairedReferences = .ok message after ∧
        message.soapEnvelope = some envelope ∧ message.mimeAttachments.map (·.1) = ["first"] ∧
        declaredAttachments envelope = ["first", "second"] ∧ ¬ NamesOneSet message envelope := by
  let _ := signing [invoiceRoot]
  obtain ⟨message, after, built⟩ := invoice_builds pairedReferences
  obtain ⟨enveloped, envelope, remoteKey, made, rfl⟩ := buildMessage_ok built
  obtain ⟨declared, -, -⟩ := getSoapEnvelope_declares made
  refine ⟨_, after, envelope, built, rfl, rfl, declared, ?_⟩
  intro same
  have carried : "second" ∈ ["first"] := (same.declared "second").mp (by rw [declared]; decide)
  simp at carried

/-- Built without one, a message has one made up. -/
theorem invoice_names_one_set :
    letI := signing [invoiceRoot]
    ∃ message after envelope,
      buildMessage (plainText invoiceRoot) (answeringParty [invoiceRoot]) (invoiceReceiver [invoiceRoot]) builderArgs
          RecordedExchange.draws freshReferences = .ok message after ∧
        message.soapEnvelope = some envelope ∧ NamesOneSet message envelope := by
  let _ := signing [invoiceRoot]
  obtain ⟨message, after, built⟩ := invoice_builds freshReferences
  obtain ⟨envelope, carried, exact'⟩ := built_names_one_set_iff (plainText invoiceRoot) (answeringParty [invoiceRoot])
    (invoiceReceiver [invoiceRoot]) builderArgs RecordedExchange.draws freshReferences after message List.nodup_nil built
  exact ⟨message, after, envelope, built, carried, exact'.mpr (Nat.zero_le 1)⟩

end TwoAttachments

end BuiltMessages
