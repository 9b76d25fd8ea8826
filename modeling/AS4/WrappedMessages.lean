import AS4.AlikeRecords
import AS4.DecryptionGates

/-!
Two messages whose documents differ only by how their Base64 is wrapped, and by their
signature values. Tokens and signature values are decoded leniently, so that wrapping
them changes nothing. A digest is compared as text, and the session key is decoded
strictly: white space inside either makes the receiver refuse the message.
-/

namespace WrappedMessages
open ElementTree ElementCodec ElementCodec.Codec FallibleSteps PythonData AS4Libraries SignatureModel EncryptionModel
  MessagingModel EnvelopeModel BusinessDocument Verification MessageParsing AcceptedMessage MessageReadings WrappedTexts
  AlikeReadings AlikeRecords Serialisation SignalBuilding RecordedExchange ReceivingRuns RecordReadings DeliveredMessage
  AcceptedDelivery LooseMessages DecryptionGates

section Signing
variable [Libraries] {context : AS4ParseContext} {envelope envelope' : Envelope} {security security' : Security}
  {index index' : Dict String Located} {signature signature' : Signature} {reference reference' : DsigReference}
  {token token' : BinarySecurityToken}

omit [Libraries] in
theorem signatureToken_like (secure : LikeSecurity security security') (signed : LikeSignature signature signature')
    (found : signatureToken security signature = .ok token) :
    ∃ token', signatureToken security' signature' = .ok token' ∧ LikeToken token token' := by
  simp only [signatureToken, ← signed.token] at found ⊢
  split at found
  · simp [raise] at found
  · rename_i solid
    rw [if_neg solid]
    have both : Option.Rel LikeToken (findToken security ((signatureTokenUri signature).getD ""))
        (findToken security' ((signatureTokenUri signature).getD "")) :=
      forall₂_find secure.tokens fun _ _ like => by rw [like.bstId]
    generalize findToken security _ = one, findToken security' _ = other at both found ⊢
    cases both with
    | none => simp [raise] at found
    | some like =>
        obtain rfl := Except.ok.inj found
        exact ⟨_, rfl, like⟩

/-- The same certificate is loaded from both, whatever white space is in them. -/
theorem certificate_like (like : LikeToken token token') : token.x509Certificate = token'.x509Certificate := by
  rw [BinarySecurityToken.x509Certificate, BinarySecurityToken.x509Certificate, like.valueType,
    ← b64decode_withoutSpaces token.value, like.value, b64decode_withoutSpaces]

omit [Libraries] in
theorem requireUserMessage_like (like : LikeEnvelope envelope envelope') :
    requireUserMessage envelope = requireUserMessage envelope' := by
  simp only [requireUserMessage, Messaging.userMessage, like.users]

/-- Each identifier names twins in the two documents. -/
def TwinIndexes (index index' : Dict String Located) : Prop :=
  ∀ identifier, Option.Rel Twins (Dict.get index identifier) (Dict.get index' identifier)

omit [Libraries] in
theorem target_like (like : LikeReference reference reference') (twins : TwinIndexes index index') :
    Option.Rel Twins (target index reference) (target index' reference') := by
  simp only [target, referenceUri, like.uri]
  exact twins _

omit [Libraries] in
theorem attachment_like (like : LikeReference reference reference') :
    isAttachmentReference reference = isAttachmentReference reference' := by
  simp only [isAttachmentReference, referenceUri, like.uri]

omit [Libraries] in
/-- Twins are the same part of the message. -/
theorem coverageByTag_twin {n n' : Located} (twins : Twins n n') : coverageByTag n = coverageByTag n' := by
  have tagged : ∀ tag, n.node.Tagged tag ↔ n'.node.Tagged tag := fun tag => by
    rw [Node.Tagged, Node.Tagged, twins.tag?]
  unfold coverageByTag
  by_cases messaging : n.node.Tagged (eb3 "Messaging")
  · rw [if_pos messaging, if_pos ((tagged _).mp messaging)]
  · rw [if_neg messaging, if_neg (mt (tagged _).mpr messaging)]
    by_cases body : n.node.Tagged (soap12 "Body")
    · rw [if_pos body, if_pos ((tagged _).mp body)]
    · rw [if_neg body, if_neg (mt (tagged _).mpr body)]

omit [Libraries] in
theorem covers_like (like : LikeReference reference reference') (twins : TwinIndexes index index') :
    (target index reference).bind coverageByTag =
      (target index' reference').bind coverageByTag := by
  have both := target_like like twins
  generalize target index reference = found, target index' reference' = found' at both
  cases both with
  | none => rfl
  | some one => exact coverageByTag_twin one

omit [Libraries] in
/-- Signatures alike cover the same parts of the message. -/
theorem signatureCoverage_like (signed : LikeSignature signature signature') (twins : TwinIndexes index index')
    (payloadHrefs : List String) :
    signatureCoverage signature index payloadHrefs = signatureCoverage signature' index' payloadHrefs := by
  have lists : ∀ {references references' : List DsigReference}, List.Forall₂ LikeReference references references' →
      (references.filter isAttachmentReference).map referenceUri =
          (references'.filter isAttachmentReference).map referenceUri ∧
        (references.filter fun reference => !isAttachmentReference reference).filterMap
            (fun reference => (target index reference).bind coverageByTag) =
          (references'.filter fun reference => !isAttachmentReference reference).filterMap
            fun reference => (target index' reference).bind coverageByTag := by
    intro references references' likes
    induction likes with
    | nil => exact ⟨rfl, rfl⟩
    | @cons reference reference' _ _ one _ ih =>
        have uri : referenceUri reference = referenceUri reference' := by simp only [referenceUri, one.uri]
        simp only [List.filter_cons, attachment_like one]
        cases isAttachmentReference reference' with
        | true => simpa [uri] using ih
        | false => simpa [List.filterMap_cons, covers_like one twins, ih.2] using ih.1
  obtain ⟨payloads, covered⟩ := lists signed.references
  simp only [signatureCoverage, payloads, covered]

omit [Libraries] in
theorem requireTransforms_like (like : LikeReference reference reference') (allowed : String) :
    requireTransforms reference allowed = requireTransforms reference' allowed := by
  have algorithms : transformAlgorithms reference = transformAlgorithms reference' := by
    simp only [transformAlgorithms]
    rw [← List.forall₂_eq_eq_eq, List.forall₂_map_left_iff, List.forall₂_map_right_iff]
    exact like.transforms.imp fun _ _ same => same.1
  simp only [requireTransforms, algorithms]

/-- The two references declare the same digest text, once stripped, and the elements they
name have one digest. -/
structure SameDigest (index index' : Dict String Located) (reference reference' : DsigReference) : Prop where
  text : strip reference.digestValue.text = strip reference'.digestValue.text
  element : isAttachmentReference reference = false → isAttachmentReference reference' = false →
    ∀ n ∈ target index reference, ∀ n' ∈ target index' reference',
      digestElement reference n = digestElement reference' n'

theorem SameDigest.symm (same : SameDigest index index' reference reference') : SameDigest index' index reference' reference :=
  ⟨same.text.symm, fun placed' placed n' named' n named => (same.element placed placed' n named n' named').symm⟩

theorem digestMatches_like {n n' : Located} (like : LikeReference reference reference')
    (text : strip reference.digestValue.text = strip reference'.digestValue.text)
    (element : digestElement reference n = digestElement reference' n') :
    digestMatches reference n = digestMatches reference' n' := by
  simp only [digestMatches, requireTransforms_like like, text, element]

theorem verifyReferenceDigest_like (like : LikeReference reference reference') (twins : TwinIndexes index index')
    (same : SameDigest index index' reference reference') (verified : verifyReferenceDigest index reference = .ok ()) :
    verifyReferenceDigest index' reference' = .ok () := by
  rw [verifyReferenceDigest_ok] at verified ⊢
  intro placed
  obtain ⟨n, named, matched⟩ := verified ((attachment_like like).trans placed)
  have both := target_like like twins
  rw [named] at both
  cases named' : target index' reference' with
  | none =>
      rw [named'] at both
      cases both
  | some n' =>
      have element := same.element ((attachment_like like).trans placed) placed n named n' named'
      exact ⟨n', rfl, by rw [← digestMatches_like like same.text element]; exact matched⟩

theorem verifyAttachmentDigest_like {decrypted : Dict String Bytes} (like : LikeReference reference reference')
    (text : strip reference.digestValue.text = strip reference'.digestValue.text) :
    verifyAttachmentDigest decrypted reference = verifyAttachmentDigest decrypted reference' := by
  have uri : referenceUri reference = referenceUri reference' := by simp only [referenceUri, like.uri]
  have matches' : ∀ content, digestMatchesBytes reference content = digestMatchesBytes reference' content := by
    intro content
    simp only [digestMatchesBytes, digestBytes, requireTransforms_like like, like.digestMethod, text]
  simp only [verifyAttachmentDigest, attachment_like like, uri, matches']

/-- What the digests of a signature say is alike. -/
def SameDigests (index index' : Dict String Located) (signature signature' : Signature) : Prop :=
  List.Forall₂ (SameDigest index index') signature.signedInfo.references signature'.signedInfo.references

theorem verifySignedElements_like (signed : LikeSignature signature signature') (twins : TwinIndexes index index')
    (same : context.securityPolicy.verifyDigests = true → SameDigests index index' signature signature')
    (verified : verifySignedElements context signature index = .ok ()) :
    verifySignedElements context signature' index' = .ok () := by
  unfold verifySignedElements at verified ⊢
  split
  · rename_i checked
    rw [if_pos checked] at verified
    exact each_related (forall₂_both signed.references (same checked))
      (fun _ _ one => verifyReferenceDigest_like one.1 twins one.2) verified
  · rfl

theorem verifySignedAttachments_like {decrypted : Dict String Bytes} (signed : LikeSignature signature signature')
    (same : context.securityPolicy.verifyDigests = true → SameDigests index index' signature signature')
    (verified : verifySignedAttachments context (some signature) decrypted = .ok ()) :
    verifySignedAttachments context (some signature') decrypted = .ok () := by
  simp only [verifySignedAttachments] at verified ⊢
  split
  · rename_i checked
    rw [if_pos checked] at verified
    refine each_related (forall₂_both signed.references (same checked)) (fun _ _ one holds => ?_) verified
    rw [← verifyAttachmentDigest_like one.1 one.2.text]
    exact holds
  · rfl

/-- A signature like one that is verified is verified, where its value is valid too and
its digests say the same. -/
theorem verifySignature_like {signer : Certificate} (like : LikeEnvelope envelope envelope')
    (signed : LikeSignature signature signature') (twins : TwinIndexes index index')
    (resigned : ∀ certificate, verify signature certificate = .ok () → verify signature' certificate = .ok ())
    (same : context.securityPolicy.verifyDigests = true → SameDigests index index' signature signature')
    (verified : verifySignature context envelope.header.security envelope index signature = .ok signer) :
    verifySignature context envelope'.header.security envelope' index' signature' = .ok signer := by
  rw [verifySignature_ok] at verified ⊢
  obtain ⟨token, userMessage, embedded, named, carried, loaded, resolved, valid, covered, digests⟩ := verified
  obtain ⟨token', named', likeToken⟩ := signatureToken_like like.security signed named
  refine ⟨token', userMessage, embedded, named', requireUserMessage_like like ▸ carried, certificate_like likeToken ▸ loaded,
    resolved, resigned signer valid, ?_, verifySignedElements_like signed twins same digests⟩
  simp only [verifySignatureCoverage, ← signatureCoverage_like signed twins] at covered ⊢
  exact covered

end Signing

section Decrypting
variable [Libraries] {context : AS4ParseContext} {security security' : Security} {mimeAttachments : Dict String Bytes}
  {sessionKey : Bytes}

/-- The text the session key is decoded from. -/
def cipherText (security : Security) : Option String :=
  security.encryptedKey.bind fun key => key.cipherData.cipherValue.bind (·.value)

omit [Libraries] in
theorem getEncryptedData_like (like : LikeSecurity security security') (identifier : String) :
    Option.Rel LikeData (security.getEncryptedData identifier) (security'.getEncryptedData identifier) := by
  have listed : List.Forall₂ LikeData (security.encryptedData.getD []) (security'.encryptedData.getD []) := by
    have both := like.data
    generalize security.encryptedData = data, security'.encryptedData = data' at both
    cases both with
    | none => exact .nil
    | some same => exact same
  exact forall₂_find listed fun _ _ one => by rw [one.identifier]

theorem decryptReference_like {reference reference' : XencReference} (like : LikeSecurity security security')
    (uri : reference.uri = reference'.uri) :
    decryptReference sessionKey security mimeAttachments reference =
      decryptReference sessionKey security' mimeAttachments reference' := by
  simp only [decryptReference, uri]
  have both := getEncryptedData_like like (dropFirst (reference'.uri.getD ""))
  generalize security.getEncryptedData _ = data, security'.getEncryptedData _ = data' at both ⊢
  cases both with
  | none => rfl
  | some one => simp only [encryptedAttachmentId, one.attachment, decryptAttachment, one.algorithm]

theorem decryptReferences_like {references references' : List XencReference} (like : LikeSecurity security security')
    (uris : List.Forall₂ (fun reference reference' : XencReference => reference.uri = reference'.uri) references references')
    (decrypted : Dict String Bytes) :
    decryptReferences sessionKey security mimeAttachments references decrypted =
      decryptReferences sessionKey security' mimeAttachments references' decrypted := by
  induction uris generalizing decrypted with
  | nil => rfl
  | cons one _ ih => simp only [decryptReferences, decryptReference_like like one, ih]

/-- The attachments are decrypted in the same way where the session key is the same text. -/
theorem getDecryptedData_like (like : LikeSecurity security security') (same : cipherText security = cipherText security') :
    getDecryptedData context security mimeAttachments = getDecryptedData context security' mimeAttachments := by
  have both := like.key
  unfold cipherText at same
  unfold getDecryptedData
  generalize security.encryptedKey = key, security'.encryptedKey = key' at both same ⊢
  cases both with
  | none => rfl
  | some one =>
      simp only [Option.bind_some] at same
      simp only [same, one.data.algorithm, decryptReferences_like like one.references]

/-- Text that a session key is decoded from holds no white space inside. -/
theorem cipherText_solid {decrypted : Dict String Bytes} {text : String}
    (opened : getDecryptedData context security mimeAttachments = .ok decrypted) (carried : cipherText security = some text) :
    withoutSpaces text = text := by
  unfold cipherText at carried
  unfold getDecryptedData at opened
  split at opened
  · rename_i absent
    simp [absent] at carried
  · rename_i key present
    simp only [present, Option.bind_some] at carried
    simp only [carried, Option.getD_some] at opened
    split at opened
    · simp [raise] at opened
    · split at opened
      · simp [raise] at opened
      · obtain ⟨session, decoded, -⟩ := bind_ok.mp opened
        simp only [decryptSessionKey, mapError_ok, bind_ok] at decoded
        obtain ⟨encrypted, strict, -⟩ := decoded
        exact b64decode_strict_solid strict

end Decrypting

section Processing
variable [Libraries] {cls : MessageClass} {context : AS4ParseContext} {soapBytes soapBytes' : Bytes}
  {document document' : Node} {mimeAttachments : Dict String Bytes} {envelope envelope' : Envelope}
  {before after message : AS4Message}

/-- Decompression does not look at the envelope. -/
theorem decompressParts_stored {parts : List PartInfo} (stored : Option Envelope)
    (succeeded : decompressParts context mimeAttachments parts before = .ok () after) :
    decompressParts context mimeAttachments parts { before with soapEnvelope := stored } =
      .ok () { after with soapEnvelope := stored } := by
  induction parts generalizing before with
  | nil =>
      simp only [decompressParts, state_pure_ok] at succeeded
      obtain ⟨-, rfl⟩ := succeeded
      rfl
  | cons part rest ih =>
      simp only [decompressParts, state_bind_ok, state_get_ok, lift_ok, state_modify_ok] at succeeded ⊢
      obtain ⟨fields, _, ⟨rfl, rfl⟩, decompressed, _, ⟨one, rfl⟩, _, _, rfl, remaining⟩ := succeeded
      exact ⟨_, _, ⟨rfl, rfl⟩, decompressed, _, ⟨one, rfl⟩, (), _, rfl, ih remaining⟩

/-- The business document is checked against the user message alone. -/
theorem processSbdh_stored (like : LikeEnvelope envelope envelope')
    (succeeded : processSbdh context envelope before = .ok () after) :
    processSbdh context envelope' { before with soapEnvelope := some envelope' } =
      .ok () { after with soapEnvelope := some envelope' } := by
  simp only [processSbdh, state_bind_ok, lift_ok, state_get_ok, state_modify_ok] at succeeded
  obtain ⟨_, _, ⟨parties, rfl⟩, fields, _, ⟨rfl, rfl⟩, payload, _, ⟨carried, rfl⟩, root, _, ⟨parsed, rfl⟩, _, _,
    ⟨valid, rfl⟩, business, _, ⟨read, rfl⟩, _, _, rfl, _, _, ⟨agree, rfl⟩, _, _, ⟨serviced, rfl⟩, scopes, _,
    ⟨scoped', rfl⟩, rfl⟩ := succeeded
  simp only [parseBusinessDocument, mapError_ok, parseXml_ok] at parsed
  rw [mapError_ok] at read
  refine processSbdh_runs ?_ carried parsed valid read ?_ serviced scoped'
  · simpa only [verifyPartyIdentifiers, requireUserMessage_like like] using parties
  · simpa only [verifyParticipants, Messaging.userMessage, like.users] using agree

/-- The signature is recomputed: it is valid for whom it was valid before. -/
def Resigned (document document' : Node) : Prop :=
  ∀ envelope envelope', Envelope.codec.validate (.root document) = .ok envelope →
    Envelope.codec.validate (.root document') = .ok envelope' →
      ∀ signature ∈ envelope.header.security.signature, ∀ signature' ∈ envelope'.header.security.signature,
        ∀ certificate, verify signature certificate = .ok () ↔ verify signature' certificate = .ok ()

/-- Nothing is wrapped where white space is looked at: where digests are checked they are
declared in the same text, and of the same elements, and the session key is in the same
text too. -/
def Unbroken (context : AS4ParseContext) (document document' : Node) : Prop :=
  ∀ envelope envelope' index index', Envelope.codec.validate (.root document) = .ok envelope →
    Envelope.codec.validate (.root document') = .ok envelope' → indexElementsById (.root document) = .ok index →
      indexElementsById (.root document') = .ok index' →
        (context.securityPolicy.verifyDigests = true → ∀ signature ∈ envelope.header.security.signature,
          ∀ signature' ∈ envelope'.header.security.signature, SameDigests index index' signature signature') ∧
        cipherText envelope.header.security = cipherText envelope'.header.security

theorem processAs4_like (same : unwrap document = unwrap document') (resigned : Resigned document document')
    (unbroken : Unbroken context document document')
    (succeeded : processAs4 context (.root document) mimeAttachments before = .ok () after) :
    ∃ envelope envelope', after.soapEnvelope = some envelope ∧ LikeEnvelope envelope envelope' ∧
      processAs4 context (.root document') mimeAttachments before = .ok () { after with soapEnvelope := some envelope' } := by
  simp only [processAs4, state_bind_ok, lift_ok, state_modify_ok] at succeeded
  obtain ⟨_, _, rfl, envelope, _, ⟨validated, rfl⟩, _, _, rfl, index, _, ⟨indexed, rfl⟩, ⟨signature, signer⟩, _,
    ⟨verified, rfl⟩, _, _, rfl, decrypted, _, ⟨decrypts, rfl⟩, _, _, rfl, _, _, ⟨attachments, rfl⟩, userMessage, _,
    ⟨hasUserMessage, rfl⟩, payloadInfo, _, ⟨hasPayloadInfo, rfl⟩, remaining⟩ := succeeded
  rw [Envelope.modelValidateEtree, mapError_ok] at validated
  -- Every stage of the one run is gone through again with what the other document reads as.
  have roots : Twins (.root document) (.root document') := same
  obtain ⟨envelope', validated', like⟩ := Envelope.alike roots (fun _ _ => rfl) validated
  obtain ⟨index', indexed', twins⟩ := index_twin same indexed
  obtain ⟨digests, cipher⟩ := unbroken envelope envelope' index index' validated validated' indexed indexed'
  have kept := (decompressParts_keeps remaining).1
  have opened : getDecryptedData context envelope'.header.security mimeAttachments = .ok decrypted := by
    rw [← getDecryptedData_like like.security cipher]
    exact decrypts
  have carried : requireUserMessage envelope' = .ok userMessage := requireUserMessage_like like ▸ hasUserMessage
  have declared : userMessage.payloadInfo = some payloadInfo := by
    unfold requirePayloadInfo at hasPayloadInfo
    split at hasPayloadInfo
    · simp [raise] at hasPayloadInfo
    · rename_i found present
      rw [present, Except.ok.inj hasPayloadInfo]
  obtain ⟨signature', verified', attachments'⟩ : ∃ signature',
      getVerifiedSignature context envelope'.header.security envelope' index' = .ok (signature', signer) ∧
        verifySignedAttachments context signature' decrypted = .ok () := by
    have both := like.security.signature
    cases signature with
    | none =>
        obtain ⟨absent, optional⟩ := getVerifiedSignature_none verified
        rw [absent] at both
        have absent' : envelope'.header.security.signature = none := by
          generalize envelope'.header.security.signature = found at both
          cases both
          rfl
        refine ⟨none, ?_, rfl⟩
        simp only [getVerifiedSignature, absent, absent'] at verified ⊢
        exact verified
    | some signature =>
        obtain ⟨present, certificate, rfl, checked⟩ := getVerifiedSignature_some.mp verified
        rw [present] at both
        obtain ⟨signature', present', signed⟩ : ∃ signature', envelope'.header.security.signature = some signature' ∧
            LikeSignature signature signature' := by
          generalize envelope'.header.security.signature = found at both
          cases both with
          | some one => exact ⟨_, rfl, one⟩
        have digests' := fun checks => digests checks signature present signature' present'
        refine ⟨some signature', getVerifiedSignature_some.mpr ⟨present', certificate, rfl, ?_⟩,
          verifySignedAttachments_like signed digests' attachments⟩
        exact verifySignature_like like signed twins
          (fun certificate => (resigned envelope envelope' validated validated' signature present signature' present'
            certificate).mp) digests' checked
  refine ⟨envelope, envelope', by rw [kept], like, ?_⟩
  exact processAs4_runs validated' indexed' verified' opened attachments' carried declared
    (decompressParts_stored (some envelope') remaining)

theorem process_like (same : unwrap document = unwrap document') (resigned : Resigned document document')
    (unbroken : Unbroken context document document')
    (succeeded : process cls context (.root document) mimeAttachments before = .ok () after) :
    ∃ envelope', process cls context (.root document') mimeAttachments before =
      .ok () { after with soapEnvelope := some envelope' } := by
  cases cls with
  | as4 =>
      obtain ⟨-, envelope', -, -, other⟩ := processAs4_like same resigned unbroken succeeded
      exact ⟨envelope', other⟩
  | peppol =>
      simp only [process, processPeppol, state_bind_ok, state_get_ok] at succeeded
      obtain ⟨_, middle, first, fields, _, ⟨rfl, rfl⟩, second⟩ := succeeded
      obtain ⟨envelope, envelope', stored, like, other⟩ := processAs4_like same resigned unbroken first
      simp only [stored, state_adapt_ok] at second
      exact ⟨envelope', processPeppol_runs other rfl (processSbdh_stored like second)⟩

end Processing

section Parsing
variable [Libraries] {cls : MessageClass} {context : AS4ParseContext} {soapBytes soapBytes' : Bytes}
  {document document' : Node} {mimeAttachments : Dict String Bytes} {message : AS4Message}

omit [Libraries] in
theorem preValidate_twin (same : unwrap document = unwrap document') :
    preValidate (.root document) = preValidate (.root document') := by
  have roots : Twins (.root document) (.root document') := same
  have text : (Located.root document).findText messageIdPath = (Located.root document').findText messageIdPath :=
    roots.findText (messagingPath ++ [eb3 "UserMessage", eb3 "MessageInfo"]) (by decide)
  have both := roots.find messagingPath
  simp only [preValidate, text]
  generalize (Located.root document).find messagingPath = found, (Located.root document').find messagingPath = found' at both
  cases both with
  | none => rfl
  | some one => simp only [one.attribute]

omit [Libraries] in
theorem getAddressedTo_twin {identity : AS4PartyIdentity} (same : unwrap document = unwrap document')
    (addressed : getAddressedTo ((Located.root document).find partyToPath) = .ok identity) :
    getAddressedTo ((Located.root document').find partyToPath) = .ok identity := by
  have roots : Twins (.root document) (.root document') := same
  have both := roots.find partyToPath
  generalize (Located.root document).find partyToPath = found, (Located.root document').find partyToPath = found'
    at both addressed ⊢
  cases both with
  | none => exact addressed
  | some one =>
      simp only [getAddressedTo, bind_ok, mapError_ok, pure_ok] at addressed ⊢
      obtain ⟨party, read, rfl⟩ := addressed
      obtain ⟨party', read', rfl⟩ := Party.exact one (fun _ _ => rfl) read
      exact ⟨party, read', rfl⟩

/-- What one message delivers, the other delivers, under an envelope like it. -/
theorem parse_like (parsed : Libraries.parseXml soapBytes = some document)
    (parsed' : Libraries.parseXml soapBytes' = some document') (same : unwrap document = unwrap document')
    (resigned : Resigned document document') (unbroken : Unbroken context document document')
    (accepted : parse cls context soapBytes mimeAttachments = .ok message) (clean : message.parseError = none) :
    ∃ envelope', parse cls context soapBytes' mimeAttachments = .ok { message with soapEnvelope := some envelope' } := by
  unfold parse at accepted
  split at accepted
  · rename_i result fields succeeded
    obtain rfl := Except.ok.inj accepted
    simp only [parseSteps, state_bind_ok, lift_ok, state_modify_ok] at succeeded
    obtain ⟨root, _, ⟨xml, rfl⟩, ⟨messageId, messagingId⟩, _, ⟨identified, rfl⟩, _, _, rfl, identity, _,
      ⟨addressed, rfl⟩, _, _, rfl, remaining⟩ := succeeded
    obtain rfl : document = root := Option.some.inj (parsed.symm.trans (parseXml_ok.mp xml))
    obtain ⟨envelope', processed⟩ := process_like same resigned unbroken remaining
    exact ⟨envelope', parse_runs parsed' (preValidate_twin same ▸ identified) (getAddressedTo_twin same addressed)
      processed⟩
  · split at accepted
    · obtain rfl := Except.ok.inj accepted
      simp at clean
    · simp at accepted

/-- A message is accepted, with these payloads and this signer. -/
def Delivers (cls : MessageClass) (context : AS4ParseContext) (soapBytes : Bytes) (mimeAttachments : Dict String Bytes)
    (payloads : Dict String Bytes) (signer : Option Certificate) : Prop :=
  ∃ message, parse cls context soapBytes mimeAttachments = .ok message ∧ message.parseError = none ∧
    message.decryptedData = payloads ∧ message.signerCertificate = signer

theorem Resigned.symm (resigned : Resigned document document') : Resigned document' document :=
  fun envelope envelope' read read' signature present signature' present' certificate =>
    (resigned envelope' envelope read' read signature' present' signature present certificate).symm

theorem Unbroken.symm (unbroken : Unbroken context document document') : Unbroken context document' document := by
  intro envelope envelope' index index' read read' indexed indexed'
  obtain ⟨digests, cipher⟩ := unbroken envelope' envelope index' index read' read indexed' indexed
  refine ⟨fun checked signature present signature' present' => ?_, cipher.symm⟩
  have back := List.Forall₂.flip (R := fun reference reference' => SameDigest index' index reference' reference)
    (digests checked signature' present' signature present)
  exact back.imp fun _ _ one => one.symm

/-- Digests that are verified are in text without white space. -/
theorem SameDigest.of_verified {index index' : Dict String Located} {decrypted decrypted' : Dict String Bytes}
    {reference reference' : DsigReference} (like : LikeReference reference reference')
    (element : verifyReferenceDigest index reference = .ok ()) (element' : verifyReferenceDigest index' reference' = .ok ())
    (attachment : verifyAttachmentDigest decrypted reference = .ok ())
    (attachment' : verifyAttachmentDigest decrypted' reference' = .ok ()) : SameDigest index index' reference reference' := by
  -- What a digest is compared with is Base64 as it is printed, so it holds no white space.
  have text : ∀ {form form'}, DigestOf reference form → DigestOf reference' form' →
      strip reference.digestValue.text = strip reference'.digestValue.text := by
    rintro form form' ⟨hash, -, digest⟩ ⟨hash', -, digest'⟩
    exact strip_eq_of_solid like.digestValue (by rw [← digest, b64encode_solid]) (by rw [← digest', b64encode_solid])
  cases placed : isAttachmentReference reference with
  | true =>
      obtain ⟨content, -, matched⟩ := verifyAttachmentDigest_ok.mp attachment placed
      obtain ⟨content', -, matched'⟩ := verifyAttachmentDigest_ok.mp attachment' (attachment_like like ▸ placed)
      exact ⟨text (digestMatchesBytes_true.mp matched).2 (digestMatchesBytes_true.mp matched').2, by simp [placed]⟩
  | false =>
      obtain ⟨n, named, matched⟩ := verifyReferenceDigest_ok.mp element placed
      obtain ⟨n', named', matched'⟩ := verifyReferenceDigest_ok.mp element' (attachment_like like ▸ placed)
      obtain ⟨-, form, -, digest⟩ := digestMatches_true.mp matched
      obtain ⟨-, form', -, digest'⟩ := digestMatches_true.mp matched'
      have read : ∀ {reference : DsigReference} {n : Located}, digestMatches reference n = .ok true →
          digestElement reference n = .ok (strip reference.digestValue.text) := by
        intro reference n holds
        simp only [digestMatches, bind_ok, pure_ok, beq_iff_eq] at holds
        obtain ⟨-, -, found, computed, same⟩ := holds
        rw [computed, same]
      refine ⟨text digest digest', fun _ _ m here m' here' => ?_⟩
      obtain rfl : n = m := Option.some.inj (named.symm.trans here)
      obtain rfl : n' = m' := Option.some.inj (named'.symm.trans here')
      rw [read matched, read matched', text digest digest']

/-- The digests of an accepted message were verified, where the policy asks for it. -/
theorem accepted_digests {reading : Reading} (accepts : Accepts context soapBytes mimeAttachments message reading)
    (checked : context.securityPolicy.verifyDigests = true) {signature : Signature}
    (carried : signature ∈ reading.envelope.header.security.signature) :
    verifyReferenceDigests signature reading.index = .ok () ∧
      verifyAttachmentDigests signature reading.decrypted = .ok () := by
  have verified := accepts.verified
  cases found : reading.signature with
  | none =>
      rw [found] at verified
      rw [(getVerifiedSignature_none verified).1] at carried
      simp at carried
  | some other =>
      rw [found] at verified
      obtain ⟨present, certificate, -, valid⟩ := getVerifiedSignature_some.mp verified
      obtain rfl : other = signature := Option.some.inj (present.symm.trans carried)
      obtain ⟨token, user, embedded, -, -, -, -, -, -, digests⟩ := verifySignature_ok.mp valid
      refine ⟨?_, accepts.attachmentsMatch checked other found⟩
      simpa [verifySignedElements, checked] using digests

/-- Nothing is wrapped where white space is looked at when both are accepted. -/
theorem unbroken_of_accepted {message' : AS4Message} {reading reading' : Reading}
    (same : unwrap reading.document = unwrap reading'.document)
    (accepts : Accepts context soapBytes mimeAttachments message reading)
    (accepts' : Accepts context soapBytes' mimeAttachments message' reading') :
    Unbroken context reading.document reading'.document := by
  intro envelope envelope' index index' read read' indexed indexed'
  obtain rfl := Except.ok.inj (accepts.validated.symm.trans read)
  obtain rfl := Except.ok.inj (accepts'.validated.symm.trans read')
  obtain rfl := Except.ok.inj (accepts.indexed.symm.trans indexed)
  obtain rfl := Except.ok.inj (accepts'.indexed.symm.trans indexed')
  have roots : Twins (.root reading.document) (.root reading'.document) := same
  obtain ⟨_, again, like⟩ := Envelope.alike roots (fun _ _ => rfl) accepts.validated
  obtain rfl := Except.ok.inj (accepts'.validated.symm.trans again)
  constructor
  · intro checked signature present signature' present'
    obtain ⟨elements, attachments⟩ := accepted_digests accepts checked present
    obtain ⟨elements', attachments'⟩ := accepted_digests accepts' checked present'
    have signed : LikeSignature signature signature' := by
      have both := like.security.signature
      rw [present, present'] at both
      cases both with
      | some one => exact one
    simp only [verifyReferenceDigests, verifyAttachmentDigests, each_ok] at elements attachments elements' attachments'
    refine forall₂_inside signed.references fun reference member reference' member' one => ?_
    exact .of_verified one (elements reference member) (elements' reference' member') (attachments reference member)
      (attachments' reference' member')
  · have both : LikeText (cipherText reading.envelope.header.security) (cipherText reading'.envelope.header.security) :=
      bind_like like.security.key fun one => one.data.cipher
    have solid : ∀ {text}, cipherText reading.envelope.header.security = some text → withoutSpaces text = text :=
      cipherText_solid accepts.decrypts
    have solid' : ∀ {text}, cipherText reading'.envelope.header.security = some text → withoutSpaces text = text :=
      cipherText_solid accepts'.decrypts
    generalize cipherText reading.envelope.header.security = text, cipherText reading'.envelope.header.security = text'
      at both solid solid'
    cases both with
    | none => rfl
    | some one => rw [← solid rfl, ← solid' rfl, one]

/-- Wrapping the Base64 of a message changes nothing of what is delivered just where
digests and session key stay unbroken. -/
theorem same_delivery_iff_unbroken (parsed : Libraries.parseXml soapBytes = some document)
    (parsed' : Libraries.parseXml soapBytes' = some document') (wrapped : unwrap document = unwrap document')
    (resigned : Resigned document document')
    (accepted : ∃ payloads signer, Delivers cls context soapBytes mimeAttachments payloads signer ∨
      Delivers cls context soapBytes' mimeAttachments payloads signer) :
    (∀ payloads signer, Delivers cls context soapBytes mimeAttachments payloads signer ↔
      Delivers cls context soapBytes' mimeAttachments payloads signer) ↔ Unbroken context document document' := by
  constructor
  · intro same
    obtain ⟨payloads, signer, one⟩ := accepted
    have both : Delivers cls context soapBytes mimeAttachments payloads signer ∧
        Delivers cls context soapBytes' mimeAttachments payloads signer := by
      rcases one with first | second
      · exact ⟨first, (same payloads signer).mp first⟩
      · exact ⟨(same payloads signer).mpr second, second⟩
    obtain ⟨⟨message, read, clean, -⟩, message', read', clean', -⟩ := both
    obtain ⟨reading, accepts⟩ := parse_accepts read clean
    obtain ⟨reading', accepts'⟩ := parse_accepts read' clean'
    obtain rfl : reading.document = document := Option.some.inj (accepts.parsed.symm.trans parsed)
    obtain rfl : reading'.document = document' := Option.some.inj (accepts'.parsed.symm.trans parsed')
    exact unbroken_of_accepted wrapped accepts accepts'
  · intro unbroken payloads signer
    constructor
    · rintro ⟨message, read, clean, data, certificate⟩
      obtain ⟨envelope', other⟩ := parse_like parsed parsed' wrapped resigned unbroken read clean
      exact ⟨_, other, clean, data, certificate⟩
    · rintro ⟨message, read, clean, data, certificate⟩
      obtain ⟨envelope', other⟩ := parse_like parsed' parsed wrapped.symm resigned.symm unbroken.symm read clean
      exact ⟨_, other, clean, data, certificate⟩

end Parsing

section Folding

/-- A line break after the first character. -/
def folded (text : String) : String := String.ofList (text.toList.take 1 ++ '\n' :: text.toList.drop 1)

theorem withoutSpaces_folded (text : String) : withoutSpaces (folded text) = withoutSpaces text := by
  have blank : isXmlSpace '\n' = true := by decide
  have whole : solidChars (text.toList.take 1 ++ '\n' :: text.toList.drop 1) = solidChars text.toList := by
    conv_rhs => rw [← List.take_append_drop 1 text.toList]
    simp [solidChars, blank]
  rw [withoutSpaces, folded, String.toList_ofList, whole, withoutSpaces]

/-- A message that is encrypted and not signed, with the texts of its token and of its
session key as given. -/
def encryptedDocument (token key : String) : Node :=
  letI := signing []
  Envelope.codec.element (soap12 "Envelope") (looseEnvelope "message" (encryptedSecurity token key) [])

theorem envelope_element [Libraries] (security : Security) :
    Envelope.codec.element (soap12 "Envelope") (looseEnvelope "message" security []) =
      .element (soap12 "Envelope") []
        [.element (soap12 "Header") []
          [Security.codec.element (wsse "Security") security,
            Messaging.codec.element (eb3 "Messaging") (looseMessaging "message" [])],
          Body.codec.element (soap12 "Body") deliveredBody] := rfl

theorem security_element [Libraries] (token key : String) :
    Security.codec.element (wsse "Security") (encryptedSecurity token key) =
      .element (wsse "Security") [(soap12 "mustUnderstand", "true")]
        [BinarySecurityToken.codec.element (wsse "BinarySecurityToken") ⟨base64Binary, x509V3, "T", token⟩,
          .element (enc "EncryptedKey") []
            [EncryptionMethod.codec.element (enc "EncryptionMethod") deliveredKey.encryptionMethod,
              KeyInfo.codec.element (ds "KeyInfo") deliveredKey.keyInfo,
              .element (enc "CipherData") [] [CipherValue.codec.element (enc "CipherValue") { value := some key }],
              ReferenceList.codec.element (enc "ReferenceList") deliveredKey.referenceList],
          EncryptedType.codec.element (enc "EncryptedData") deliveredData] := rfl

theorem token_element {token : String} (solid : token ≠ "") :
    BinarySecurityToken.codec.element (wsse "BinarySecurityToken") ⟨base64Binary, x509V3, "T", token⟩ =
      .element (wsse "BinarySecurityToken")
        [(plain "EncodingType", base64Binary), (plain "ValueType", x509V3), (wsu "Id", "T")] [.text token] := by
  have words : base64Binary ≠ "" ∧ x509V3 ≠ "" := by decide
  simp [element, BinarySecurityToken.codec, stringText, record, pair, requiredAttribute, attributeFragment, requiredText,
    Scalar.string, Fragment.toElement, Fragment.append, textNode, solid, words]

theorem cipher_element {key : String} (solid : key ≠ "") :
    CipherValue.codec.element (enc "CipherValue") { value := some key } = .element (enc "CipherValue") [] [.text key] := by
  simp [element, CipherValue.codec, record, textOr, Scalar.optional, Scalar.string, Fragment.toElement, textNode, solid]

/-- Texts that differ by white space are what these documents differ by. -/
theorem encryptedDocument_twin {token key token' key' : String} (solid : token ≠ "" ∧ key ≠ "")
    (solid' : token' ≠ "" ∧ key' ≠ "") (tokens : withoutSpaces token = withoutSpaces token')
    (keys : withoutSpaces key = withoutSpaces key') :
    unwrap (encryptedDocument token key) = unwrap (encryptedDocument token' key') := by
  let _ := signing []
  have apart : ∀ name ∈ wrappable, name ≠ ds "SignatureValue" := by decide
  have outside : ∀ name ∈ [soap12 "Envelope", soap12 "Header", wsse "Security", enc "EncryptedKey", enc "CipherData"],
      name ≠ ds "SignatureValue" ∧ name ∉ wrappable := by decide
  simp only [List.forall_mem_cons] at outside
  have inside : wsse "BinarySecurityToken" ∈ wrappable ∧ enc "CipherValue" ∈ wrappable := by decide
  have text : ∀ name ∈ wrappable, ∀ leading, unwrapText name leading = withoutSpaces := by
    intro name wraps leading
    rw [unwrapText, if_neg (apart name wraps), if_pos wraps]
  simp only [encryptedDocument, envelope_element, security_element, token_element solid.1, token_element solid'.1,
    cipher_element solid.2, cipher_element solid'.2, unwrap, unwrapContent_map, List.map_cons, List.map_nil, unwrapIn,
    text _ inside.1, text _ inside.2, tokens, keys]
  simp only [unwrapText, outside, if_false]

theorem encryptedDocument_reads (documents : List Node) {token : String} (key : String) (solid : strip token ≠ "") :
    letI := signing documents
    ∃ envelope, Envelope.codec.validate (.root (encryptedDocument token key)) = .ok envelope ∧
      ∃ child, Security.codec.reread child (encryptedSecurity token key) envelope.header.security := by
  let _ := signing documents
  obtain ⟨envelope, -, read, security, -⟩ := @looseEnvelope_rereads (signing documents) "message"
    (encryptedSecurity token key) ["T", "D"] [] (recorded_stamps documents).1 (by decide)
    (@encryptedSecurity_writes (signing documents) token key solid)
  exact ⟨envelope, read, security⟩

theorem encryptedDocument_resigned (documents : List Node) {token token' : String} (key key' : String)
    (solid : strip token ≠ "") :
    letI := signing documents
    Resigned (encryptedDocument token key) (encryptedDocument token' key') := by
  let _ := signing documents
  intro envelope _ read _ signature present
  obtain ⟨envelope, again, _, security⟩ := encryptedDocument_reads documents key solid
  obtain rfl := Except.ok.inj (read.symm.trans again)
  -- There is no signature that could be recomputed.
  have unsigned := (Security.rereads security).2.2.2
  rw [Option.mem_def.mp present] at unsigned
  cases unsigned

/-- The text the session key is decoded from is the one that was written. -/
theorem encrypted_cipherText [Libraries] {child : Located} {token key : String} {security : Security}
    (solid : strip key ≠ "") (read : Security.codec.reread child (encryptedSecurity token key) security) :
    cipherText security = some (strip key) := by
  obtain ⟨-, keyRead, -⟩ := Security.rereads read
  simp only [encryptedSecurity] at keyRead
  unfold cipherText
  generalize security.encryptedKey = found at keyRead
  cases keyRead with
  | some same =>
      obtain ⟨_, same⟩ := same
      obtain ⟨-, ⟨_, data⟩, -⟩ := EncryptedType.rereads (EncryptedKey.rereads same).1
      obtain ⟨value, there, _, text⟩ := CipherData.rereads_value rfl data
      rw [Option.bind_some, there, Option.bind_some, CipherValue.rereads rfl solid text]

/-- The receiver accepts the message whose session key is in one line. -/
theorem encryptedDocument_accepted (documents : List Node) {token : String} {data : Bytes} (solid : strip token ≠ "")
    (listed : documents.find? (fun other => plainText other == data) =
      some (encryptedDocument token (Base64.b64encode sessionKey))) :
    letI := signing documents
    ∃ payloads signer, Delivers .as4 (looseContext documents) data deliveredAttachments payloads signer := by
  let _ := signing documents
  have encrypted : Encrypted (encryptedSecurity token (Base64.b64encode sessionKey))
      (answeringParty documents).credentials.privateKey deliveredKey deliveredData "D" attachmentId encryptedPayload
      compressedPayload := by
    obtain ⟨-, transport, opens, references, -, identified, names, cipher⟩ := unsigned_encrypted documents
    exact ⟨rfl, transport, opens, references, rfl, identified, names, cipher⟩
  have attached : Dict.get deliveredAttachments attachmentId = some encryptedPayload := by
    simp [deliveredAttachments, Dict.get]
  obtain ⟨message, -, -, parsed, sound, -⟩ :=
    @unsigned_accepted (signing documents) (looseContext documents) data "message"
      (encryptedSecurity token (Base64.b64encode sessionKey)) ["T", "D"] [] deliveredAttachments
      [(attachmentId, compressedPayload)] [(attachmentId, compressedPayload)]
      (recorded_stamps documents).1 (by decide) (by decide)
      (@encryptedSecurity_writes (signing documents) token (Base64.b64encode sessionKey) solid) (by decide) listed rfl rfl
      (fun _ _ read => @Encrypted.decrypts (signing documents) (looseContext documents) _ _ _ _ _ _ _ _
        deliveredAttachments _ encrypted read attached)
      (fun parts read fields decrypted => by
        obtain rfl := List.forall₂_nil_left_iff.mp read
        exact congrArg (EStateM.Result.ok ()) (by rw [← decrypted]))
  exact ⟨_, _, message, parsed, sound, rfl, rfl⟩

/-- Two texts that are the same up to some byte, and differ there. -/
def Apart (data data' : Bytes) : Prop :=
  ∃ common x y rest rest', x ≠ y ∧ data = common ++ x :: rest ∧ data' = common ++ y :: rest'

theorem Apart.ne {data data' : Bytes} (apart : Apart data data') : data ≠ data' := by
  obtain ⟨common, x, y, rest, rest', other, rfl, rfl⟩ := apart
  intro same
  exact other (List.cons.inj (List.append_cancel_left same)).1

theorem Apart.between {data data' : Bytes} (apart : Apart data data') (before after after' : Bytes) :
    Apart (before ++ data ++ after) (before ++ data' ++ after') := by
  obtain ⟨common, x, y, rest, rest', other, rfl, rfl⟩ := apart
  exact ⟨before ++ common, x, y, rest ++ after, rest' ++ after', other, by simp, by simp⟩

/-- The bytes a node is written in below these declarations. -/
def written (declared : List (String × String)) (node : Node) : Bytes :=
  (writeNode plainStyle declared node).flatMap String.utf8EncodeChar

/-- Elements are written apart where their first children are. -/
theorem first_child_apart {tag : QName} {attrib : List (QName × String)} {node node' : Node} {rest rest' : List Node}
    (apart : ∀ declared, Apart (written declared node) (written declared node')) (declared : List (String × String)) :
    Apart (written declared (.element tag attrib (node :: rest)))
      (written declared (.element tag attrib (node' :: rest'))) := by
  let new := undeclared declared tag attrib
  let inner := new.map (fun uri => (prefixOf uri, uri)) ++ declared
  have whole : ∀ child others, written declared (.element tag attrib (child :: others)) =
      (startTag plainStyle new tag attrib ++ ['>']).flatMap String.utf8EncodeChar ++ written inner child ++
        (writeContent plainStyle inner others ++ "</".toList ++ (qualified tag).toList ++ ['>']).flatMap
          String.utf8EncodeChar := by
    intro child others
    simp [written, writeNode, writeContent, new, inner]
  rw [whole, whole]
  exact (apart inner).between _ _ _

theorem encryptedDocument_apart {token token' : String} (key key' : String) (solid : token ≠ "") (solid' : token' ≠ "")
    (apart : Apart (written [] (.text token)) (written [] (.text token'))) :
    plainText (encryptedDocument token key) ≠ plainText (encryptedDocument token' key') := by
  let _ := signing []
  have texts : ∀ declared, Apart (written declared (.text token)) (written declared (.text token')) := by
    intro declared
    simpa only [written, writeNode] using apart
  simp only [encryptedDocument, envelope_element, security_element, token_element solid, token_element solid']
  exact (first_child_apart (first_child_apart (first_child_apart (first_child_apart texts))) outermost).ne

/-- The text of the delivered token, and of its session key, in one line. -/
def plainToken : String := Base64.b64encode [48, 2]

def plainKey : String := Base64.b64encode sessionKey

theorem folded_apart : Apart (written [] (.text (folded plainToken))) (written [] (.text plainToken)) :=
  ⟨[77], 10, 65, [65, 73, 61], [73, 61], by decide, by decide +kernel, by decide +kernel⟩

/-- A message is refused once its Base64 is broken into lines. -/
theorem folded_message_refused :
    let document := encryptedDocument plainToken plainKey
    let document' := encryptedDocument (folded plainToken) (folded plainKey)
    letI := signing [document', document]
    Libraries.parseXml (plainText document) = some document ∧ Libraries.parseXml (plainText document') = some document' ∧
      unwrap document = unwrap document' ∧ Resigned document document' ∧
      ¬ ∀ payloads signer,
        Delivers .as4 (looseContext [document', document]) (plainText document) deliveredAttachments payloads signer ↔
          Delivers .as4 (looseContext [document', document]) (plainText document') deliveredAttachments payloads signer := by
  intro document document'
  let _ := signing [document', document]
  have solid : strip plainToken ≠ "" ∧ strip (folded plainToken) ≠ "" := by decide +kernel
  have keys : strip plainKey ≠ "" ∧ strip (folded plainKey) ≠ "" ∧ strip plainKey ≠ strip (folded plainKey) := by
    decide +kernel
  have there : plainToken ≠ "" ∧ folded plainToken ≠ "" ∧ plainKey ≠ "" ∧ folded plainKey ≠ "" := by decide +kernel
  have apart : plainText document' ≠ plainText document :=
    encryptedDocument_apart _ _ there.2.1 there.1 folded_apart
  have wrapped : unwrap document = unwrap document' :=
    encryptedDocument_twin ⟨there.1, there.2.2.1⟩ ⟨there.2.1, there.2.2.2⟩ (withoutSpaces_folded _).symm
      (withoutSpaces_folded _).symm
  have found := listed_last apart
  have found' : [document', document].find? (fun listed => plainText listed == plainText document') = some document' :=
    List.find?_cons_of_pos (beq_self_eq_true _)
  refine ⟨found, found', wrapped, encryptedDocument_resigned _ _ _ solid.1, fun same => ?_⟩
  obtain ⟨payloads, signer, one⟩ := encryptedDocument_accepted [document', document] solid.1 found
  obtain ⟨message, read, clean, -⟩ := id one
  obtain ⟨message', read', clean', -⟩ := (same payloads signer).mp one
  obtain ⟨reading, accepts⟩ := parse_accepts read clean
  obtain ⟨reading', accepts'⟩ := parse_accepts read' clean'
  have parsed : reading.document = document := Option.some.inj (accepts.parsed.symm.trans found)
  have parsed' : reading'.document = document' := Option.some.inj (accepts'.parsed.symm.trans found')
  obtain ⟨envelope, validated, _, security⟩ := encryptedDocument_reads [document', document] plainKey solid.1
  obtain ⟨envelope', validated', _, security'⟩ :=
    encryptedDocument_reads [document', document] (folded plainKey) solid.2
  have unbroken := unbroken_of_accepted (by rw [parsed, parsed']; exact wrapped) accepts accepts'
  rw [parsed, parsed'] at unbroken
  have indexed := accepts.indexed
  have indexed' := accepts'.indexed
  rw [parsed] at indexed
  rw [parsed'] at indexed'
  have cipher := (unbroken envelope envelope' _ _ validated validated' indexed indexed').2
  rw [encrypted_cipherText keys.1 security, encrypted_cipherText keys.2.1 security'] at cipher
  exact keys.2.2 (Option.some.inj cipher)

/-- It is accepted when only its token is broken into lines, and delivers the same. -/
theorem folded_token_delivers :
    let document := encryptedDocument plainToken plainKey
    let document' := encryptedDocument (folded plainToken) plainKey
    letI := signing [document', document]
    ∀ payloads signer,
      Delivers .as4 (looseContext [document', document]) (plainText document) deliveredAttachments payloads signer ↔
        Delivers .as4 (looseContext [document', document]) (plainText document') deliveredAttachments payloads signer := by
  intro document document'
  let _ := signing [document', document]
  have solid : strip plainToken ≠ "" ∧ strip (folded plainToken) ≠ "" := by decide +kernel
  have there : plainToken ≠ "" ∧ folded plainToken ≠ "" ∧ plainKey ≠ "" ∧ strip plainKey ≠ "" := by decide +kernel
  have apart : plainText document' ≠ plainText document :=
    encryptedDocument_apart _ _ there.2.1 there.1 folded_apart
  have wrapped : unwrap document = unwrap document' :=
    encryptedDocument_twin ⟨there.1, there.2.2.1⟩ ⟨there.2.1, there.2.2.1⟩ (withoutSpaces_folded _).symm rfl
  have found := listed_last apart
  have found' : [document', document].find? (fun listed => plainText listed == plainText document') = some document' :=
    List.find?_cons_of_pos (beq_self_eq_true _)
  have resigned := @encryptedDocument_resigned [document', document] plainToken (folded plainToken) plainKey plainKey solid.1
  have unbroken : Unbroken (looseContext [document', document]) document document' := by
    intro envelope envelope' index index' read read' _ _
    obtain ⟨envelope, validated, _, security⟩ := encryptedDocument_reads [document', document] plainKey solid.1
    obtain ⟨envelope', validated', _, security'⟩ := encryptedDocument_reads [document', document] plainKey solid.2
    obtain rfl := Except.ok.inj (read.symm.trans validated)
    obtain rfl := Except.ok.inj (read'.symm.trans validated')
    refine ⟨fun _ signature present => ?_, ?_⟩
    · have unsigned := (Security.rereads security).2.2.2
      rw [Option.mem_def.mp present] at unsigned
      cases unsigned
    · rw [encrypted_cipherText there.2.2.2 security, encrypted_cipherText there.2.2.2 security']
  obtain ⟨payloads, signer, one⟩ := encryptedDocument_accepted [document', document] solid.1 found
  exact (@same_delivery_iff_unbroken (signing [document', document]) .as4 (looseContext [document', document])
    (plainText document) (plainText document') document document' deliveredAttachments found found' wrapped
    resigned ⟨payloads, signer, .inl one⟩).mpr unbroken

end Folding

end WrappedMessages
