import AS4.AcceptedDelivery
import AS4.BuiltUserMessages
import AS4.RepeatedReferences

/-!
The user message a build makes is accepted by the party it was built for, with the
business document it envelopes and the words it was built from.
-/

namespace AcceptedBuilds
open ElementTree ElementCodec ElementCodec.Codec FallibleSteps PythonData AS4Libraries AS4Errors SignatureModel
  EncryptionModel MessagingModel EnvelopeModel BusinessDocument Verification MessageParsing ReceiptVerification
  SignalBuilding MessageBuilding RecordLaws RecordReadings Serialisation WrittenIdentifiers WrittenEnvelope SignedReadings
  MessageReadings BuiltMessages BuiltSignals RepeatedReferences EnvelopedDocuments BuiltUserMessages

variable [Libraries]

section Terms
variable {context : AS4ParseContext} {localParty : AS4InternalParty} {remoteParty : AS4ExternalParty}
  {args : PeppolAS4MessageBuilderArgs} {references : AS4References} {draws : Draws}

/-- Each party holds the key of its certificate, the sender has the one of the receiver,
and both go by Peppol identifiers. -/
structure Keyed (localParty receiver : AS4InternalParty) (remoteParty : AS4ExternalParty) : Prop where
  signs : KeyAgrees localParty
  opens : KeyOpens receiver
  same : remoteParty.credentials.certificate = receiver.credentials.certificate
  certified : localParty.credentials.certificate.der ≠ [] ∧ remoteParty.credentials.certificate.der ≠ []
  peppol : localParty.identity.partyType = some peppolPartyIdentifierType ∧
    remoteParty.identity.partyType = some peppolPartyIdentifierType

/-- A policy that trusts the sender and asks for no more than a build signs. -/
structure Welcomes (context : AS4ParseContext) (localParty : AS4InternalParty) : Prop where
  trusts : ∀ party : Party, party.partyId = ⟨strip localParty.identity.partyId, some peppolPartyIdentifierType⟩ →
    context.securityPolicy.signerResolver party (some localParty.credentials.certificate) =
      .ok localParty.credentials.certificate
  asks : ∀ kind ∈ context.securityPolicy.requiredCoverage, kind ∈ ["messaging", "body", "payloads"]

/-- The bytes a payload is enveloped in. -/
def envelopedBytes (args : PeppolAS4MessageBuilderArgs) (draws : Draws) (name : String) (root : Node) : Bytes :=
  Libraries.tostring (businessElement args draws name root)

/-- A payload that can be enveloped, and comes out of the envelope within a size. -/
structure Enveloped (args : PeppolAS4MessageBuilderArgs) (draws : Draws) (payload : Bytes) (maximumSize : Int)
    (name : String) (root : Node) : Prop where
  named : args.documentTypeIdentifier.rootElementName = .ok name
  parsed : Libraries.parseXml payload = some root
  rooted : ∃ tag, root.tag? = some tag ∧ tag ≠ sbdh "StandardBusinessDocumentHeader"
  valid : Libraries.sbdhValidationError (headerElement args draws name) = none
  written : Libraries.parseXml (envelopedBytes args draws name root) = some (businessElement args draws name root)
  unpacks : Libraries.gzipRead (Libraries.gzipCompress (envelopedBytes args draws name root)) (maximumSize + 1) =
    some (envelopedBytes args draws name root)
  fits : ((envelopedBytes args draws name root).length : Int) ≤ maximumSize

omit [Libraries] in
/-- The ids of a message with one attachment are there, and none is used twice. -/
structure Identified (references : AS4References) (dataId : String) : Prop where
  solid : ∀ id ∈ userIds references dataId, id ≠ ""
  distinct : (userIds references dataId).Nodup

/-- What the parties, the arguments and the ids of a build have to be for its message to be
readable to the party it is for. -/
structure Deliverable (context : AS4ParseContext) (localParty : AS4InternalParty) (remoteParty : AS4ExternalParty)
    (args : PeppolAS4MessageBuilderArgs) (draws : Draws) (payload : Bytes) (references : AS4References)
    (attachmentId dataId name : String) (root : Node) : Prop where
  stamps : Stamps draws.documentTime ∧ Stamps draws.messageTime
  enciphers : Enciphers draws
  keyed : Keyed localParty context.localParty remoteParty
  worded : Worded args references
  mapped : references.attachmentIdEncryptedDataIdMap = [(attachmentId, dataId)]
  identified : Identified references dataId
  enveloped : Enveloped args draws payload context.securityPolicy.maximumDecompressedSize name root
  welcomes : Welcomes context localParty

end Terms

section Stages
variable {context : AS4ParseContext} {localParty : AS4InternalParty} {remoteParty : AS4ExternalParty}
  {args : PeppolAS4MessageBuilderArgs} {references : AS4References} {draws : Draws} {attachmentId dataId : String}
  {content : Bytes} {child : Located} {user : UserMessage}

omit [Libraries] in
/-- The one part a user message declares, as it is read. -/
theorem user_part {parts : List PartInfo}
    (read : List.Forall₂ (fun part part' => ∃ child, PartInfo.codec.reread child part part') [partFor attachmentId] parts) :
    ∃ part, parts = [part] ∧ part.href = some ("cid:" ++ attachmentId) ∧
      part.partProperties.compressionType = some "application/gzip" := by
  obtain ⟨part, only, _, partRead⟩ := mem_single read
  obtain ⟨properties, href⟩ := PartInfo.rereads partRead
  have gzip : strip "application/gzip" = "application/gzip" := by decide
  refine ⟨part, only, ?_, ?_⟩
  · have filled : "cid:" ++ attachmentId ≠ "" := by simp
    rw [href]
    exact written_some filled
  · simp [PartProperties.compressionType, properties, partFor, gzip]

theorem user_hrefs (mapped : references.attachmentIdEncryptedDataIdMap = [(attachmentId, dataId)])
    (read : UserMessage.codec.reread child (getUserMessage localParty remoteParty args references draws) user) :
    payloadHrefs user = ["cid:" ++ attachmentId] := by
  obtain ⟨-, -, -, -, payloadRead⟩ := UserMessage.rereads read
  simp only [getUserMessage, mapped, List.map_cons, List.map_nil] at payloadRead
  simp only [payloadHrefs]
  generalize user.payloadInfo = found at payloadRead
  cases payloadRead with
  | @some _ payloadInfo each =>
      obtain ⟨part, only, named, -⟩ := user_part each
      have shown : part.href.filter (fun href => decide (href ≠ "")) = some ("cid:" ++ attachmentId) := by
        simp [named, Option.filter]
      simp only [only, List.filterMap_cons, shown, List.filterMap_nil]

/-- A build signs all that a policy can ask for. -/
theorem user_covers (mapped : references.attachmentIdEncryptedDataIdMap = [(attachmentId, dataId)])
    (read : UserMessage.codec.reread child (getUserMessage localParty remoteParty args references draws) user)
    {kind : String} (asked : kind ∈ ["messaging", "body", "payloads"]) :
    Covers (userElements localParty remoteParty args references draws) [(attachmentId, content)] user kind := by
  simp only [List.mem_cons, List.not_mem_nil, or_false] at asked
  rcases asked with rfl | rfl | rfl
  · exact .inl ⟨by decide, _, List.mem_cons_self, coverageByTag_messaging.mpr rfl⟩
  · exact .inl ⟨by decide, _, List.mem_cons_of_mem _ List.mem_cons_self, coverageByTag_body.mpr rfl⟩
  · refine .inr ⟨rfl, fun href declared => ⟨(attachmentId, content), List.mem_cons_self, ?_⟩⟩
    simpa [user_hrefs mapped read] using declared

/-- The attachment is unpacked to what was compressed. -/
theorem user_unpacked {enveloped encryptedContent : Bytes}
    (unpacks : Libraries.gzipRead content (context.securityPolicy.maximumDecompressedSize + 1) = some enveloped)
    (fits : (enveloped.length : Int) ≤ context.securityPolicy.maximumDecompressedSize) {parts : List PartInfo}
    (read : List.Forall₂ (fun part part' => ∃ child, PartInfo.codec.reread child part part') [partFor attachmentId] parts)
    {fields : AS4Message} (decrypts : fields.decryptedData = [(attachmentId, content)]) :
    decompressParts context [(attachmentId, encryptedContent)] parts fields =
      .ok () { fields with decryptedData := [(attachmentId, enveloped)] } := by
  have carried : Dict.get [(attachmentId, encryptedContent)] attachmentId = some encryptedContent := by simp [Dict.get]
  obtain ⟨part, rfl, named, compressed⟩ := user_part read
  exact decompressParts_one named carried decrypts (decompress_read compressed unpacks fits)

end Stages

section Reading
variable {context : AS4ParseContext} {localParty : AS4InternalParty} {remoteParty : AS4ExternalParty}
  {args : PeppolAS4MessageBuilderArgs} {references before after : AS4References} {draws : Draws} {payload : Bytes}
  {message : AS4Message} {name attachmentId dataId : String} {root : Node}

theorem rsaPublicKey_ok {credentials : AS4BaseCredentials} {key : RSAPublicKey} :
    rsaPublicKey credentials = .ok key ↔ Libraries.publicKey credentials.certificate.der = some (.rsa key) := by
  unfold rsaPublicKey Certificate.publicKey
  cases Libraries.publicKey credentials.certificate.der with
  | none => simp [bind, Except.bind]
  | some found => cases found <;> simp [bind, Except.bind, pure, Except.pure]

/-- What a build that goes through went by. -/
theorem buildMessage_parts (built : buildMessage payload localParty remoteParty args draws before = .ok message after) :
    ∃ name root remoteKey envelope, args.documentTypeIdentifier.rootElementName = .ok name ∧
      Libraries.parseXml payload = some root ∧
        Libraries.publicKey remoteParty.credentials.certificate.der = some (.rsa remoteKey) ∧
          envelopeOver localParty remoteParty args draws before (envelopedBytes args draws name root) remoteKey =
              .ok envelope ∧
            message = builtMessage args draws before (envelopedBytes args draws name root) envelope ∧
              after = withAttachment draws before := by
  rw [buildMessage_stages] at built
  cases stage : prepared payload remoteParty args draws with
  | error raised => simp [stage] at built
  | ok keys =>
      obtain ⟨enveloped, remoteKey⟩ := keys
      simp only [stage] at built
      simp only [prepared, bind_ok, pure_ok, Prod.mk.injEq] at stage
      obtain ⟨enveloped, enveloping, remoteKey, keyed, rfl, rfl⟩ := stage
      obtain ⟨name, root, named, parsed, same⟩ := envelopePayload_shape.mp enveloping
      rw [← envelopedBytes] at same
      subst same
      cases made : envelopeOver localParty remoteParty args draws before (envelopedBytes args draws name root) remoteKey with
      | error raised => simp [made] at built
      | ok envelope =>
          simp only [made, EStateM.Result.ok.injEq] at built
          exact ⟨name, root, remoteKey, envelope, named, parsed, rsaPublicKey_ok.mp keyed, made, built.1.symm, built.2.symm⟩

/-- The message a build makes of an envelope, when it has one attachment. -/
def messageWith (args : PeppolAS4MessageBuilderArgs) (draws : Draws) (references : AS4References) (attachmentId : String)
    (enveloped : Bytes) (envelope : Envelope) : AS4Message where
  soapEnvelope := some envelope
  messageId := references.messageId
  messagingId := references.messagingId
  mimeAttachments := [(attachmentId, encryptPayload draws (Libraries.gzipCompress enveloped))]
  decryptedData := [(attachmentId, enveloped)]
  sender := some args.sender
  recipient := some args.recipient
  documentTypeIdentifierValue := some args.documentTypeIdentifier.identifierValue
  documentTypeIdentifierScheme := some args.documentTypeIdentifier.scheme
  processIdentifier := some args.processIdentifier

/-- A built message as the party it was built for reads it: its texts are trimmed, and
its sender is known by its certificate. -/
def asReceived (localParty : AS4InternalParty) (remoteParty : AS4ExternalParty) (args : PeppolAS4MessageBuilderArgs)
    (built : AS4Message) (envelope : Envelope) : AS4Message :=
  { built with
    soapEnvelope := some envelope
    addressedTo := some ⟨strip remoteParty.identity.partyId, remoteParty.identity.partyType⟩
    signerCertificate := some localParty.credentials.certificate
    parseError := none
    sender := some (strip args.sender)
    recipient := some (strip args.recipient)
    documentTypeIdentifierValue := some (strip args.documentTypeIdentifier.identifierValue)
    documentTypeIdentifierScheme := some (strip args.documentTypeIdentifier.scheme)
    processIdentifier := some (strip args.processIdentifier) }

/-- The bytes of an envelope, as they are sent. -/
def envelopeBytes (envelope : Envelope) : Bytes :=
  Libraries.tostring (Envelope.codec.element (soap12 "Envelope") envelope)

/-- The references of a signature are read one by one. -/
theorem signatureReferences_rereads {n : Located} {envelope envelope' : Envelope} {message message' : AS4Message}
    (stored : message.soapEnvelope = some envelope) (stored' : message'.soapEnvelope = some envelope')
    (read : Envelope.codec.reread n envelope envelope') :
    List.Forall₂ (fun reference reference' => ∃ child, DsigReference.codec.reread child reference reference')
      message.signatureReferences message'.signatureReferences := by
  obtain ⟨⟨_, -, -, headerRead⟩, -⟩ := Envelope.rereads read
  obtain ⟨⟨_, -, -, securityRead⟩, -⟩ := Header.rereads headerRead
  obtain ⟨-, -, -, signatureRead⟩ := Security.rereads securityRead
  simp only [AS4Message.signatureReferences, stored, stored', Option.bind_some]
  generalize envelope.header.security.signature = signed at signatureRead ⊢
  generalize envelope'.header.security.signature = signed' at signatureRead ⊢
  cases signatureRead with
  | none => exact .nil
  | some below =>
      obtain ⟨_, -, -, signatureRead⟩ := below
      obtain ⟨⟨_, -, -, infoRead⟩, -⟩ := Signature.rereads signatureRead
      exact (SignedInfo.rereads infoRead).2.2.2

/-- What is read of a message that was signed shows the references it was signed with. -/
theorem signedReferences_reread {n : Located} {envelope envelope' : Envelope} {message message' : AS4Message}
    (stored : message.soapEnvelope = some envelope) (stored' : message'.soapEnvelope = some envelope')
    (read : Envelope.codec.reread n envelope envelope') : message'.signedReferences = message.signedReferences := by
  refine forall₂_map_eq (signatureReferences_rereads stored stored' read) fun reference reference' same => ?_
  obtain ⟨_, same⟩ := same
  exact reference_same same

/-- Nothing in the envelope of a user message has the id of something else. -/
theorem user_indexed {encryptedSessionKey messagingForm bodyForm content value : Bytes}
    (mapped : references.attachmentIdEncryptedDataIdMap = [(attachmentId, dataId)])
    (identified : Identified references dataId) :
    ∃ index, indexElementsById (.root (Envelope.codec.element (soap12 "Envelope")
      (userEnvelope localParty remoteParty args references draws encryptedSessionKey
        (userInfo references messagingForm bodyForm attachmentId content) value))) = .ok index := by
  refine index_ok_iff.mpr ⟨userEnvelope_named mapped, ?_⟩
  rw [userEnvelope_identifiers mapped identified.solid]
  exact identified.distinct

/-- The envelope of a build goes through the core parser of the party it was built for. -/
theorem user_processed {content result : Bytes} {remoteKey : RSAPublicKey} {envelope : Envelope} (placeFree : PlaceFree)
    (hashes : ∀ data, Libraries.digest .sha256 data ≠ []) (stamps : Stamps draws.messageTime)
    (enciphers : Enciphers draws) (keyed : Keyed localParty context.localParty remoteParty)
    (worded : Worded args references) (mapped : references.attachmentIdEncryptedDataIdMap = [(attachmentId, dataId)])
    (identified : Identified references dataId)
    (unpacks : Libraries.gzipRead content (context.securityPolicy.maximumDecompressedSize + 1) = some result)
    (fits : (result.length : Int) ≤ context.securityPolicy.maximumDecompressedSize)
    (welcomes : Welcomes context localParty)
    (remoteKeyed : Libraries.publicKey context.localParty.credentials.certificate.der = some (.rsa remoteKey))
    (made : getSoapEnvelope localParty remoteParty args references draws
      (Libraries.rsaEncrypt remoteKey draws.oaepSeed draws.sessionKey) [(attachmentId, content)] = .ok envelope) :
    ∃ envelope', Envelope.codec.reread (.root (Envelope.codec.element (soap12 "Envelope") envelope)) envelope envelope' ∧
      ∀ before, processAs4 context (.root (Envelope.codec.element (soap12 "Envelope") envelope))
          [(attachmentId, encryptPayload draws content)] before =
        .ok () { before with
          mimeAttachments := [(attachmentId, encryptPayload draws content)], soapEnvelope := some envelope',
          signerCertificate := some localParty.credentials.certificate, decryptedData := [(attachmentId, result)] } := by
  have named : dataId ≠ "" := identified.solid dataId (by simp [userIds])
  obtain ⟨signature, signed⟩ := user_signed keyed.signs identified.solid identified.distinct made
  obtain ⟨key, data, encrypted⟩ := user_encrypted enciphers keyed.opens remoteKeyed mapped named made
  obtain ⟨messagingForm, bodyForm, infoForm, value, -, -, -, -, rfl⟩ := getSoapEnvelope_shape.mp made
  -- What is left to show is that the receiver trusts, asks for and unpacks what was built.
  refine written_processed context placeFree (userEnvelope_admits mapped)
    (userEnvelope_readable mapped hashes stamps keyed.certified identified.solid worded)
    (user_indexed mapped identified) rfl rfl signed encrypted
    (by simp [Dict.get]) ?_ (by simp) ?_ ?_
  · intro child party read
    have type : written localParty.identity.partyType = some peppolPartyIdentifierType := by
      rw [keyed.peppol.1]
      exact written_some (by decide)
    exact welcomes.trusts party (by rw [Party.rereads read]; simp [getUserMessage, AS4PartyIdentity.toPartyFrom, type])
  · intro kind required child user read
    exact user_covers mapped read (welcomes.asks kind required)
  · intro parts read fields decrypts
    simp only [mapped, List.map_cons, List.map_nil] at read
    exact user_unpacked unpacks fits read decrypts

section Parsed
variable (placeFree : PlaceFree) (hashes : ∀ data, Libraries.digest .sha256 data ≠ [])
  (deliverable : Deliverable context localParty remoteParty args draws payload references attachmentId dataId name root)
  (built : buildMessage payload localParty remoteParty args draws before = .ok message references)
include placeFree hashes deliverable built

/-- The envelope of a built message, and what the core parser of its receiver makes of it. -/
theorem built_processed :
    ∃ encryptedSessionKey messagingForm bodyForm content value envelope envelope',
      envelope = userEnvelope localParty remoteParty args references draws encryptedSessionKey
          (userInfo references messagingForm bodyForm attachmentId content) value ∧
        message = messageWith args draws references attachmentId (envelopedBytes args draws name root) envelope ∧
          Envelope.codec.reread (.root (Envelope.codec.element (soap12 "Envelope") envelope)) envelope envelope' ∧
      ∀ before, processAs4 context (.root (Envelope.codec.element (soap12 "Envelope") envelope))
          [(attachmentId, encryptPayload draws (Libraries.gzipCompress (envelopedBytes args draws name root)))] before =
        .ok () { before with
          mimeAttachments :=
            [(attachmentId, encryptPayload draws (Libraries.gzipCompress (envelopedBytes args draws name root)))]
          soapEnvelope := some envelope'
          signerCertificate := some localParty.credentials.certificate
          decryptedData := [(attachmentId, envelopedBytes args draws name root)] } := by
  obtain ⟨name', root', remoteKey, envelope, named, parsed, remoteKeyed, made, rfl, filled⟩ := buildMessage_parts built
  obtain rfl : name = name' := Except.ok.inj (deliverable.enveloped.named.symm.trans named)
  obtain rfl : root = root' := Option.some.inj (deliverable.enveloped.parsed.symm.trans parsed)
  -- The id the attachment was given is the one that the references map.
  have first : (attachments draws before.attachmentIdEncryptedDataIdMap).1 = (attachmentId, dataId) := by
    have mapped := deliverable.mapped
    rw [filled] at mapped
    exact (List.cons.inj mapped).1
  have kept : before.messageId = references.messageId ∧ before.messagingId = references.messagingId := by
    rw [filled]
    exact ⟨rfl, rfl⟩
  rw [envelopeOver, first, ← filled] at made
  rw [deliverable.keyed.same] at remoteKeyed
  obtain ⟨envelope', reread, core⟩ := user_processed placeFree hashes deliverable.stamps.2 deliverable.enciphers deliverable.keyed
    deliverable.worded deliverable.mapped deliverable.identified deliverable.enveloped.unpacks deliverable.enveloped.fits
    deliverable.welcomes remoteKeyed made
  obtain ⟨_, _, _, value, -, -, -, -, shape⟩ := getSoapEnvelope_shape.mp made
  refine ⟨_, _, _, _, _, envelope, envelope', shape, ?_, reread, core⟩
  simp only [builtMessage, messageWith, first, kept]

/-- A built message is read by the party it was built for as what it is, when its recipient
is serviced. -/
theorem built_reads (services : acceptRecipient context (strip args.recipient) = .ok ())
    (faithful : ∀ envelope, message.soapEnvelope = some envelope →
      Libraries.parseXml (envelopeBytes envelope) = some (Envelope.codec.element (soap12 "Envelope") envelope)) :
    ∃ envelope envelope', message.soapEnvelope = some envelope ∧
      Envelope.codec.reread (.root (Envelope.codec.element (soap12 "Envelope") envelope)) envelope envelope' ∧
        parse .peppol context (envelopeBytes envelope) message.mimeAttachments =
          .ok (asReceived localParty remoteParty args message envelope') := by
  obtain ⟨_, _, _, _, _, envelope, envelope', shape, rfl, reread, core⟩ := built_processed placeFree hashes deliverable built
  have found := faithful envelope rfl
  subst shape
  refine ⟨_, envelope', rfl, reread, ?_⟩
  have type : written (getUserMessage localParty remoteParty args references draws).partyInfo.partyTo.partyId.typeValue =
      remoteParty.identity.partyType := by
    simp only [getUserMessage, AS4PartyIdentity.toPartyTo, deliverable.keyed.peppol.2]
    exact written_some (by decide)
  obtain ⟨tag, rooted, other⟩ := deliverable.enveloped.rooted
  have sends : (businessOver args draws name root).standardBusinessDocumentHeader.sender.identifier =
      ⟨some iso6523ActorId, args.sender⟩ := rfl
  have accepted := written_accepted found rfl rfl rfl
    (fun empty => deliverable.worded.messageId (by rw [show references.messageId = "" from empty]; rfl))
    (deliverable.identified.solid references.messagingId (by simp [userIds])) (show strip responder ≠ "" by decide)
    deliverable.keyed.peppol.1 deliverable.keyed.peppol.2 rfl sends rfl rfl reread core deliverable.enveloped.written
    (business_rereads deliverable.stamps.1 deliverable.worded.toDocumented deliverable.enveloped.named rooted other)
    (business_valid deliverable.enveloped.valid) services
  rw [type] at accepted
  exact accepted

/-- And is answered as one for a recipient that is not serviced, when its recipient is not. -/
theorem built_refused (refused : acceptRecipient context (strip args.recipient) = .error (.receiptable peppolNotServiced.new))
    (faithful : ∀ envelope, message.soapEnvelope = some envelope →
      Libraries.parseXml (envelopeBytes envelope) = some (Envelope.codec.element (soap12 "Envelope") envelope)) :
    ∃ envelope envelope' received, message.soapEnvelope = some envelope ∧
      Envelope.codec.reread (.root (Envelope.codec.element (soap12 "Envelope") envelope)) envelope envelope' ∧
        parse .peppol context (envelopeBytes envelope) message.mimeAttachments = .ok received ∧
          received.parseError = some peppolNotServiced.new ∧ received.messageId = message.messageId ∧
            received.soapEnvelope = some envelope' ∧
              received.signerCertificate = some localParty.credentials.certificate := by
  obtain ⟨_, _, _, _, _, envelope, envelope', shape, rfl, reread, core⟩ := built_processed placeFree hashes deliverable built
  have found := faithful envelope rfl
  subst shape
  obtain ⟨tag, rooted, other⟩ := deliverable.enveloped.rooted
  obtain ⟨⟨_, -, -, headerRead⟩, -⟩ := Envelope.rereads reread
  obtain ⟨-, _, -, -, messagingRead⟩ := Header.rereads headerRead
  obtain ⟨user', one, _, userRead⟩ := mem_single (Messaging.rereads messagingRead).2.2
  have sends : (businessOver args draws name root).standardBusinessDocumentHeader.sender.identifier =
      ⟨some iso6523ActorId, args.sender⟩ := rfl
  -- the parser goes as far as the recipient, and no further
  obtain ⟨business', businessRead, parties, agree, -, receiverRead, -⟩ :=
    written_business_checked context one userRead deliverable.keyed.peppol.1 deliverable.keyed.peppol.2 rfl sends rfl rfl
      (business_rereads deliverable.stamps.1 deliverable.worded.toDocumented deliverable.enveloped.named rooted other)
  have stops := fun fields => processPeppol_refuses (core fields) rfl
    (processSbdh_refuses parties (by simp [firstPayload, Dict.get]) deliverable.enveloped.written
      (business_valid deliverable.enveloped.valid) businessRead agree (by rw [receiverRead]; exact refused))
  refine ⟨_, envelope', _, rfl, reread, parse_answers found (preValidate_written rfl rfl rfl
    (fun empty => deliverable.worded.messageId (by rw [show references.messageId = "" from empty]; rfl))
    (deliverable.identified.solid references.messagingId (by simp [userIds])))
    (getAddressedTo_written rfl rfl (show strip responder ≠ "" by decide)) (stops _) rfl, rfl, rfl, rfl, rfl⟩

/-- The envelope of a built message has the ids it was built from. -/
theorem built_identifiers {envelope : Envelope} (stored : message.soapEnvelope = some envelope) :
    identifiers (Envelope.codec.element (soap12 "Envelope") envelope) = userIds references dataId := by
  obtain ⟨_, _, _, _, _, envelope, _, rfl, rfl, -, -⟩ := built_processed placeFree hashes deliverable built
  obtain rfl := Option.some.inj stored
  exact userEnvelope_identifiers deliverable.mapped deliverable.identified.solid

theorem built_messageId : message.messageId = references.messageId := by
  obtain ⟨_, _, _, _, _, envelope, _, rfl, rfl, -, -⟩ := built_processed placeFree hashes deliverable built
  rfl

/-- And the one user message it was built for. -/
theorem built_user {envelope : Envelope} (stored : message.soapEnvelope = some envelope) :
    envelope.header.messaging.userMessages = [getUserMessage localParty remoteParty args references draws] := by
  obtain ⟨_, _, _, _, _, envelope, _, rfl, rfl, -, -⟩ := built_processed placeFree hashes deliverable built
  obtain rfl := Option.some.inj stored
  rfl

/-- It is signed over references that name their digest and their transforms. -/
theorem built_references {reference : DsigReference} (signed : reference ∈ message.signatureReferences) :
    reference.digestMethod.algorithm ≠ "" ∧
      ∀ transform ∈ reference.transforms.transforms, ∃ algorithm, transform.algorithm = some algorithm ∧ algorithm ≠ "" := by
  obtain ⟨_, _, _, _, _, envelope, _, rfl, rfl, -, -⟩ := built_processed placeFree hashes deliverable built
  have words : xmlencSha256 ≠ "" ∧ exclusiveC14N ≠ "" ∧ attachmentContentSignature ≠ "" := by decide
  simp only [AS4Message.signatureReferences, messageWith, Option.bind_some, userEnvelope, signalSignature, userInfo,
    signedInfoOver, List.mem_cons, List.not_mem_nil, or_false] at signed
  rcases signed with rfl | rfl | rfl <;> simp [referenceTo, referenceToAttachment, words]

end Parsed

end Reading

section Acceptance
variable {localParty : AS4InternalParty} {remoteParty : AS4ExternalParty} {payload : Bytes} {args : PeppolAS4MessageBuilderArgs}
  {draws : Draws} {before references : AS4References} {message : AS4Message} {attachmentId dataId name : String} {root : Node}

end Acceptance

section Invoice

def invoiceDraws : Draws :=
  { RecordedExchange.draws with
    messageTime := RecordedExchange.answerTime, sessionKey := List.replicate 16 1, nonce := List.replicate 12 2,
    oaepSeed := [3] }

def invoiceAttachment : String × String := (attachments invoiceDraws []).1

omit [Libraries] in
/-- The request of a message, the third of these documents, which the second is enclosed in. -/
def mail : List Node → MimePart
  | _ :: document :: message :: _ =>
      let encrypted := invoiceDraws.nonce ++
        (invoiceDraws.sessionKey ++ invoiceDraws.nonce ++ (31 :: 139 :: plainText document))
      .part "multipart/related" none none
        [.part "application/soap+xml" none (some (plainText message)) [],
         .part "application/octet-stream" (some ("<" ++ invoiceAttachment.1 ++ ">")) (some encrypted) []]
  | _ => .part "text/plain" none (some []) []

omit [Libraries] in
/-- A toolkit whose ciphers and compression undo each other. -/
@[reducible] def undoing (documents : List Node) : Libraries :=
  { ReceivingRuns.signing documents with
    rsaEncrypt := fun key _ data => key.encoded ++ data
    aesgcmEncrypt := fun key nonce data => key ++ nonce ++ data
    aesgcmDecrypt := fun key nonce data =>
      if (key ++ nonce).isPrefixOf data then some (data.drop (key ++ nonce).length) else none
    gzipCompress := fun data => 31 :: 139 :: data
    gzipRead := fun data size =>
      match data with
      | 31 :: 139 :: content => some (if size < 0 then content else content.take size.toNat)
      | _ => none
    parseMime := fun _ => mail documents }

def invoiceSender (documents : List Node) : @AS4InternalParty (undoing documents) :=
  letI := undoing documents
  { identity := RecordedExchange.peppolIdentity "9932:9999999999"
    credentials := { certificate := ⟨[48, 1], Eq.refl true⟩, privateKey := ⟨fun data => .ok (0 :: data), .ok⟩ } }

def invoiceRecipient (documents : List Node) : @AS4InternalParty (undoing documents) :=
  letI := undoing documents
  { identity := RecordedExchange.peppolIdentity "9932:1111111111"
    credentials :=
      { certificate := ⟨[48, 2], Eq.refl true⟩, privateKey := ⟨fun data => .ok (0 :: data), fun data => .ok (data.drop 2)⟩ } }

def remoteRecipient (documents : List Node) : @AS4ExternalParty (undoing documents) :=
  letI := undoing documents
  { identity := (invoiceRecipient documents).identity, credentials := ⟨(invoiceRecipient documents).credentials.certificate⟩ }

def trustAny (documents : List Node) (_ : Party) (embedded : Option (@Certificate (undoing documents))) :
    Except PyError (@Certificate (undoing documents)) :=
  match embedded with
  | some certificate => .ok certificate
  | none => .error .untrustedSigner

def invoiceReferences : AS4References := withAttachment invoiceDraws freshReferences

def invoiceDocument : Node :=
  letI := undoing []
  businessElement RecordedExchange.builderArgs invoiceDraws "Invoice" invoiceRoot

/-- A policy with room for the document and no more. -/
def invoicePolicy (documents : List Node) : @SecurityPolicy (undoing documents) :=
  letI := undoing documents
  { signerResolver := trustAny documents, maximumDecompressedSize := (plainText invoiceDocument).length }

def invoiceContext (documents : List Node) (accept : Option (String → Except PyError Unit)) : @AS4ParseContext (undoing documents) :=
  letI := undoing documents
  { localParty := invoiceRecipient documents, acceptParticipant := accept, securityPolicy := invoicePolicy documents }

def invoiceInfo : SignedInfo :=
  letI := undoing []
  userInfo invoiceReferences
    (canonicalText (Messaging.codec.element (eb3 "Messaging") (userMessaging (invoiceSender []) (remoteRecipient [])
      RecordedExchange.builderArgs invoiceReferences invoiceDraws)))
    (canonicalText (Body.codec.element (soap12 "Body") { bodyId := some invoiceReferences.bodyId }))
    invoiceAttachment.1 (31 :: 139 :: plainText invoiceDocument)

def invoiceEnvelope : Envelope :=
  letI := undoing []
  userEnvelope (invoiceSender []) (remoteRecipient []) RecordedExchange.builderArgs invoiceReferences invoiceDraws
    ([48, 2] ++ invoiceDraws.sessionKey) invoiceInfo
    (0 :: canonicalText (SignedInfo.codec.element (ds "SignedInfo") invoiceInfo))

def invoiceMessageDocument : Node := (@Envelope.codec (undoing [])).element (soap12 "Envelope") invoiceEnvelope

omit [Libraries] in
theorem invoice_builds (documents : List Node)
    (listed : documents.find? (fun document => plainText document == plainText invoiceRoot) = some invoiceRoot) :
    letI := undoing documents
    buildMessage (plainText invoiceRoot) (invoiceSender documents) (remoteRecipient documents) RecordedExchange.builderArgs
        invoiceDraws freshReferences =
      .ok (messageWith RecordedExchange.builderArgs invoiceDraws invoiceReferences invoiceAttachment.1
        (plainText invoiceDocument) invoiceEnvelope) invoiceReferences := by
  let _ := undoing documents
  have stage : prepared (plainText invoiceRoot) (remoteRecipient documents) RecordedExchange.builderArgs invoiceDraws =
      .ok (plainText invoiceDocument, ⟨[48, 2]⟩) := by
    simp only [prepared, bind_ok, pure_ok]
    exact ⟨_, envelopePayload_shape.mpr ⟨"Invoice", invoiceRoot, rfl, listed, rfl⟩, _, rsaPublicKey_ok.mpr rfl, rfl⟩
  have made : envelopeOver (invoiceSender documents) (remoteRecipient documents) RecordedExchange.builderArgs invoiceDraws
      freshReferences (plainText invoiceDocument) ⟨[48, 2]⟩ = .ok invoiceEnvelope :=
    getSoapEnvelope_shape.mpr ⟨_, _, _, _, rfl, rfl, rfl, rfl, rfl⟩
  simp only [buildMessage_stages, stage, made]
  rfl

omit [Libraries] in
theorem invoice_documented : Documented RecordedExchange.builderArgs :=
  { sender := by decide
    recipient := by decide
    instanceIdentifier := strip_solid (c := '-') (by decide) rfl
    processIdentifier := strip_solid (c := ':') (by decide) rfl
    country := by decide
    rootElementNamespace := strip_solid (c := ':') (by decide +kernel) rfl
    rootElementName := by
      intro name named
      obtain rfl : "Invoice" = name := Except.ok.inj named
      decide
    version := by decide
    scheme := strip_solid (c := '-') (by decide) rfl }

omit [Libraries] in
theorem invoice_identified : Identified invoiceReferences invoiceAttachment.2 := ⟨by decide, by decide⟩

omit [Libraries] in
theorem invoice_enciphers (documents : List Node) :
    letI := undoing documents
    Enciphers invoiceDraws := by
  let _ := undoing documents
  refine ⟨by decide, fun data => ?_⟩
  have whole : (invoiceDraws.sessionKey ++ invoiceDraws.nonce).isPrefixOf
      (invoiceDraws.sessionKey ++ invoiceDraws.nonce ++ data) = true := by
    rw [List.isPrefixOf_iff_prefix]
    exact List.prefix_append _ _
  exact (if_pos whole).trans (congrArg some List.drop_left)

omit [Libraries] in
theorem invoice_keyed (documents : List Node) :
    letI := undoing documents
    Keyed (invoiceSender documents) (invoiceRecipient documents) (remoteRecipient documents) := by
  let _ := undoing documents
  refine ⟨fun data value signed => ?_, fun key keyed seed data => ?_, rfl,
    ⟨List.cons_ne_nil _ _, List.cons_ne_nil _ _⟩, rfl, rfl⟩
  · obtain rfl := Except.ok.inj signed
    exact ⟨List.cons_ne_nil _ _, ⟨[48, 1]⟩, rfl, beq_self_eq_true _⟩
  · obtain rfl : (⟨[48, 2]⟩ : RSAPublicKey) = key := PublicKey.rsa.inj (Option.some.inj keyed)
    exact ⟨List.cons_ne_nil _ _, rfl⟩

omit [Libraries] in
theorem invoice_unpacks (documents : List Node) :
    letI := undoing documents
    Libraries.gzipRead (Libraries.gzipCompress (plainText invoiceDocument)) ((plainText invoiceDocument).length + 1) =
      some (plainText invoiceDocument) := by
  have positive : ¬ ((plainText invoiceDocument).length + 1 : Int) < 0 := by omega
  have whole : (plainText invoiceDocument).take ((plainText invoiceDocument).length + 1 : Int).toNat =
      plainText invoiceDocument := List.take_of_length_le (by omega)
  exact congrArg some ((if_neg positive).trans whole)

omit [Libraries] in
theorem invoice_enveloped (documents : List Node)
    (listed : documents.find? (fun document => plainText document == plainText invoiceRoot) = some invoiceRoot)
    (written : documents.find? (fun document => plainText document == plainText invoiceDocument) = some invoiceDocument) :
    letI := undoing documents
    Enveloped RecordedExchange.builderArgs invoiceDraws (plainText invoiceRoot) (plainText invoiceDocument).length "Invoice"
      invoiceRoot := by
  let _ := undoing documents
  exact ⟨rfl, listed, ⟨_, rfl, by decide⟩, rfl, written, invoice_unpacks documents, le_refl _⟩

omit [Libraries] in
theorem undoing_stamps (documents : List Node) {time : Datetime}
    (stamps : @Stamps (ReceivingRuns.signing documents) time) : @Stamps (undoing documents) time := by
  have written : @Libraries.isoformat (undoing documents) = @Libraries.isoformat (ReceivingRuns.signing documents) := rfl
  have read : @Libraries.parseDatetime (undoing documents) = @Libraries.parseDatetime (ReceivingRuns.signing documents) :=
    rfl
  simpa only [Stamps, written, read] using stamps

omit [Libraries] in
theorem invoice_deliverable (documents : List Node) (accept : Option (String → Except PyError Unit))
    (listed : documents.find? (fun document => plainText document == plainText invoiceRoot) = some invoiceRoot)
    (written : documents.find? (fun document => plainText document == plainText invoiceDocument) = some invoiceDocument) :
    letI := undoing documents
    Deliverable (invoiceContext documents accept) (invoiceSender documents) (remoteRecipient documents)
      RecordedExchange.builderArgs invoiceDraws (plainText invoiceRoot) invoiceReferences invoiceAttachment.1
      invoiceAttachment.2 "Invoice" invoiceRoot := by
  let _ := undoing documents
  have recorded := AcceptedDelivery.recorded_stamps documents
  have stamps := And.intro (undoing_stamps documents recorded.2) (undoing_stamps documents recorded.1)
  have worded : Worded RecordedExchange.builderArgs invoiceReferences :=
    ⟨invoice_documented, strip_solid (c := '-') (by decide) rfl, strip_solid (c := '-') (by decide) rfl⟩
  have welcomes : Welcomes (invoiceContext documents accept) (invoiceSender documents) :=
    ⟨fun party _ => rfl, fun kind required => required⟩
  have mapped : invoiceReferences.attachmentIdEncryptedDataIdMap = [invoiceAttachment] := rfl
  have enveloped := invoice_enveloped documents listed written
  exact ⟨stamps, invoice_enciphers documents, invoice_keyed documents, worded, mapped, invoice_identified,
    enveloped, welcomes⟩

def invoiceDocuments : List Node := [invoiceRoot, invoiceDocument, invoiceMessageDocument]

omit [Libraries] in
/-- The three documents begin differently. -/
theorem invoices_apart : plainText invoiceRoot ≠ plainText invoiceDocument ∧
    plainText invoiceRoot ≠ plainText invoiceMessageDocument ∧ plainText invoiceDocument ≠ plainText invoiceMessageDocument := by
  have root : (plainText invoiceRoot).take 2 = [60, 73] := by decide +kernel
  have document : (plainText invoiceDocument).take 2 = [60, 110] := by decide +kernel
  have message : (plainText invoiceMessageDocument).take 2 = [60, 83] := by decide +kernel
  refine ⟨fun same => ?_, fun same => ?_, fun same => ?_⟩
  · simp [same, document] at root
  · simp [same, message] at root
  · simp [same, message] at document

omit [Libraries] in
theorem invoices_listed {rest : List Node} :
    (invoiceDocuments ++ rest).find? (fun document => plainText document == plainText invoiceRoot) = some invoiceRoot ∧
      (invoiceDocuments ++ rest).find? (fun document => plainText document == plainText invoiceDocument) =
          some invoiceDocument ∧
        (invoiceDocuments ++ rest).find? (fun document => plainText document == plainText invoiceMessageDocument) =
          some invoiceMessageDocument := by
  obtain ⟨first, second, third⟩ := invoices_apart
  refine ⟨?_, ?_, ?_⟩ <;> simp [invoiceDocuments, beq_eq_false_iff_ne.mpr, first, second, third]

end Invoice

end AcceptedBuilds
