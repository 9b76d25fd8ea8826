import AS4.BuiltSignals
import AS4.LooseMessages
import AS4.SignalRefusals

/-!
Which requests are answered. The parser answers three families of errors and lets any
other escape; stage by stage, what may escape is said here as a condition on the
request. Everything else that is wrong with a request ends in a signed signal.
-/

namespace AnsweredRequests
open ElementTree ElementCodec FallibleSteps PythonData AS4Libraries AS4Errors SignatureModel EncryptionModel
  MessagingModel EnvelopeModel BusinessDocument Verification MessageParsing ReceiptVerification SignalBuilding Exchange
  AcceptedMessage RecordReadings WrittenIdentifiers WrittenEnvelope Serialisation RecordedExchange StoppedParsing
  CertifiedAccessPoint ReceivingRuns SignalRefusals BuiltSignals AcceptedDelivery LooseMessages

variable [Libraries]

section Answered

omit [Libraries] in
/-- An error the parser of messages answers. -/
def Answered (raised : PyError) : Prop := (caught raised).isSome = true

omit [Libraries] in
@[simp] theorem answered_receiptable (error : BaseAS4ReceiptableError) : Answered (.receiptable error) := rfl

omit [Libraries] in
@[simp] theorem answered_validationError (details : ErrorDetails) : Answered (.validationError details) := rfl

omit [Libraries] in
@[simp] theorem answered_raise {α : Type} (error : BaseAS4ReceiptableError) :
    OnlyRaises Answered (raise error : Except PyError α) := onlyRaises_error.mpr rfl

omit [Libraries] in
/-- What is answered of a business document is answered without its translation. -/
theorem answered_translateSbdhError (raised : PyError) : Answered (translateSbdhError raised) ↔ Answered raised := by
  cases raised <;> rfl

end Answered

section Conditions

/-- The user message and the certificate a signature is checked with. -/
def SignerOf (context : AS4ParseContext) (envelope : Envelope) (signature : Signature) (userMessage : UserMessage)
    (signer : Certificate) : Prop :=
  ∃ token embedded, signatureToken envelope.header.security signature = .ok token ∧
    requireUserMessage envelope = .ok userMessage ∧ token.x509Certificate = .ok embedded ∧
      resolveSigner context.securityPolicy userMessage.partyInfo.partyFrom (some embedded) = .ok signer

/-- An element that is reached through a reference has a canonical form. -/
def TargetCanonical (index : Dict String Located) (reference : DsigReference) : Prop :=
  isAttachmentReference reference = false → ∀ element, target index reference = some element →
    requireTransforms reference exclusiveC14N = .ok () →
      ∃ form, Libraries.canonicalForm element (inclusiveNamespaces reference) = some form

/-- What must not be wrong with the signature of a message, as far as the checks get. -/
structure SignatureReadable (context : AS4ParseContext) (envelope : Envelope) (index : Dict String Located)
    (signature : Signature) : Prop where
  token : ∀ token userMessage, signatureToken envelope.header.security signature = .ok token →
    requireUserMessage envelope = .ok userMessage → token.valueType = x509V3 → Decodes token
  value : ∀ userMessage signer, SignerOf context envelope signature userMessage signer → ValueReadable signature signer
  targets : ∀ userMessage signer, SignerOf context envelope signature userMessage signer →
    verify signature signer = .ok () →
      verifySignatureCoverage signature index (payloadHrefs userMessage) context.securityPolicy.requiredCoverage = .ok () →
        context.securityPolicy.verifyDigests = true →
          ∀ front reference back, signature.signedInfo.references = front ++ reference :: back →
            (∀ earlier ∈ front, verifyReferenceDigest index earlier = .ok ()) → TargetCanonical index reference

/-- The processing instructions of a request that is looked into are well named, and its
signature can be read. -/
def RequestReadable (context : AS4ParseContext) (payload : Bytes) : Prop :=
  ∀ soapBytes mimeAttachments document ids identity envelope,
    unpackMessage payload = .ok (soapBytes, mimeAttachments) → Libraries.parseXml soapBytes = some document →
      preValidate (.root document) = .ok ids → getAddressedTo ((Located.root document).find partyToPath) = .ok identity →
        Envelope.codec.validate (.root document) = .ok envelope →
          (∀ node ∈ document.subtrees, wellNamed node = true) ∧
            ∀ index signature, indexElementsById (.root document) = .ok index →
              envelope.header.security.signature = some signature → SignatureReadable context envelope index signature

/-- The resolver, the hook and the private key raise nothing but what they are meant to. -/
structure WellBehaved (context : AS4ParseContext) : Prop where
  resolves : ∀ party embedded,
    OnlyRaises (· = .untrustedSigner) (context.securityPolicy.signerResolver party embedded)
  accepts : ∀ accept ∈ context.acceptParticipant, ∀ recipient, OnlyRaises (· = .participantNotServiced) (accept recipient)
  decrypts : ∀ data, OnlyRaises (fun raised => ∃ message, raised = .valueError message)
    (context.localParty.credentials.privateKey.decrypt data)

end Conditions

section Reading

theorem parseXml_answered (data : Bytes) : OnlyRaises Answered (parseXml data) := by
  unfold parseXml
  split
  · exact onlyRaises_ok
  · exact onlyRaises_error.mpr rfl

omit [Libraries] in
theorem preValidate_answered (element : Located) : OnlyRaises Answered (preValidate element) := by
  unfold preValidate
  simp only
  split
  · exact answered_raise _
  · split
    · exact answered_raise _
    · exact onlyRaises_ok

omit [Libraries] in
theorem getAddressedTo_answered (element : Option Located) : OnlyRaises Answered (getAddressedTo element) := by
  unfold getAddressedTo
  split
  · exact answered_raise _
  · rw [onlyRaises_bind, onlyRaises_mapError]
    exact ⟨fun _ _ => rfl, fun _ _ => onlyRaises_pure⟩

theorem modelValidateEtree_answered (element : Located) : OnlyRaises Answered (Envelope.modelValidateEtree element) := by
  unfold Envelope.modelValidateEtree
  rw [onlyRaises_mapError]
  exact fun _ _ => rfl

omit [Libraries] in
theorem requireUserMessage_answered (envelope : Envelope) : OnlyRaises Answered (requireUserMessage envelope) := by
  unfold requireUserMessage Messaging.userMessage Messaging.onlyOne
  rw [onlyRaises_bind]
  constructor
  · split
    · exact onlyRaises_ok
    · exact onlyRaises_ok
    · exact onlyRaises_error.mpr rfl
  · intro userMessage _
    cases userMessage with
    | none => exact answered_raise _
    | some userMessage => exact onlyRaises_pure

/-- An identifier that comes twice is answered, a processing instruction that is not well
named is not. -/
theorem index_answered {document : Node} : OnlyRaises Answered (indexElementsById (.root document)) ↔
    ∀ node ∈ document.subtrees, wellNamed node = true := by
  have nodes : (Located.root document).iter.map (·.node) = document.subtrees := (Located.root document).iter_nodes
  have inserts : ∀ entries, OnlyRaises Answered (insertIds [] entries) := by
    intro entries raised failed
    obtain ⟨_, rfl⟩ := insertIds_error failed
    rfl
  simp only [indexElementsById, idAttributes, onlyRaises_bind, inserts, implies_true, and_true]
  rw [← nodes, List.forall_mem_map, ← collectIds_ok_iff]
  constructor
  · intro only
    cases collected : collectIds (Located.root document).iter with
    | ok entries => exact ⟨entries, rfl⟩
    | error raised =>
        obtain ⟨_, rfl⟩ := collectIds_error collected
        have answered := only _ collected
        simp [Answered, caught] at answered
  · rintro ⟨entries, collected⟩ raised failed
    simp [collected] at failed

end Reading

section Signatures
variable {context : AS4ParseContext} {envelope : Envelope} {index : Dict String Located} {signature : Signature}

omit [Libraries] in
theorem signatureToken_answered (security : Security) (signature : Signature) :
    OnlyRaises Answered (signatureToken security signature) := by
  unfold signatureToken
  simp only
  split
  · exact answered_raise _
  · split
    · exact answered_raise _
    · exact onlyRaises_ok

/-- A token of another type is answered, one that holds no certificate is not. -/
theorem x509Certificate_answered {token : BinarySecurityToken} :
    OnlyRaises Answered (token.x509Certificate.mapError translateTokenError) ↔
      (token.valueType = x509V3 → Decodes token) := by
  rw [onlyRaises_mapError]
  by_cases kind : token.valueType = x509V3
  · simp only [kind, forall_const]
    constructor
    · intro only
      cases loaded : token.x509Certificate with
      | ok certificate => exact ⟨kind, certificate.der, (x509Certificate_ok.mp loaded).2, certificate.loads⟩
      | error raised =>
          have answered := only raised loaded
          unfold BinarySecurityToken.x509Certificate at loaded
          rw [if_neg (by simpa using kind)] at loaded
          rcases bind_error.mp loaded with undecoded | ⟨bytes, -, unloaded⟩
          · obtain ⟨inner, -, rfl⟩ := mapError_error.mp undecoded
            simp [translateTokenError, Answered, caught] at answered
          · unfold loadDerX509Certificate at unloaded
            split at unloaded
            · simp at unloaded
            · obtain rfl := Except.error.inj unloaded
              simp [translateTokenError, Answered, caught] at answered
    · rintro ⟨-, der, decoded, loads⟩ raised failed
      have loaded : token.x509Certificate = .ok ⟨der, loads⟩ := x509Certificate_ok.mpr ⟨kind, decoded⟩
      simp [loaded] at failed
  · simp [kind, BinarySecurityToken.x509Certificate, translateTokenError]

theorem resolveSigner_answered (behaved : WellBehaved context) (party : Party) (embedded : Option Certificate) :
    OnlyRaises Answered (resolveSigner context.securityPolicy party embedded) := by
  unfold resolveSigner
  rw [onlyRaises_mapError]
  intro raised failed
  obtain rfl := behaved.resolves party embedded raised failed
  rfl

theorem verify_answered {signer : Certificate} :
    OnlyRaises Answered ((verify signature signer).mapError translateVerifyError) ↔ ValueReadable signature signer := by
  rw [onlyRaises_mapError]
  exact verify_raises (fun _ => rfl) (fun _ => rfl) rfl (by simp [translateVerifyError, Answered, caught])
    (by simp [translateVerifyError, Answered, caught]) (by simp [translateVerifyError, Answered, caught])

omit [Libraries] in
theorem verifySignatureCoverage_answered (signature : Signature) (index : Dict String Located)
    (hrefs required : List String) : OnlyRaises Answered (verifySignatureCoverage signature index hrefs required) := by
  unfold verifySignatureCoverage
  simp only
  split
  · exact onlyRaises_ok
  · exact onlyRaises_error.mpr rfl

omit [Libraries] in
theorem matched_answered (matched : Bool) (uri : String) :
    OnlyRaises Answered (if matched then return () else .error (.receiptable (digestMismatch uri)) : Except PyError Unit) := by
  split
  · exact onlyRaises_pure
  · exact onlyRaises_error.mpr rfl

theorem verifyReferenceDigest_answered {reference : DsigReference} :
    OnlyRaises Answered (verifyReferenceDigest index reference) ↔ TargetCanonical index reference := by
  unfold verifyReferenceDigest TargetCanonical
  simp only
  cases isAttachmentReference reference with
  | true => simp
  | false =>
      simp only [Bool.false_eq_true, ↓reduceIte, forall_const]
      cases target index reference with
      | none => simp
      | some element =>
          simp only [Option.some.injEq, forall_eq', onlyRaises_bind, onlyRaises_mapError, matched_answered, implies_true,
            and_true]
          exact digestMatches_raises (fun _ => rfl) (fun _ => rfl) (by simp [Verification.translateReferenceError, Answered, caught])

theorem verifySignedElements_answered : OnlyRaises Answered (verifySignedElements context signature index) ↔
    (context.securityPolicy.verifyDigests = true → ∀ front reference back,
      signature.signedInfo.references = front ++ reference :: back →
        (∀ earlier ∈ front, verifyReferenceDigest index earlier = .ok ()) → TargetCanonical index reference) := by
  unfold verifySignedElements verifyReferenceDigests
  split
  · rename_i digests
    simp only [digests, forall_const, onlyRaises_each, verifyReferenceDigest_answered]
  · rename_i lax
    simp [lax]

/-- Where the resolver behaves, a signature is answered for just where it can be read. -/
theorem verifySignature_answered (behaved : WellBehaved context) :
    OnlyRaises Answered (verifySignature context envelope.header.security envelope index signature) ↔
      SignatureReadable context envelope index signature := by
  simp only [verifySignature, onlyRaises_bind, signatureToken_answered, requireUserMessage_answered,
    x509Certificate_answered, resolveSigner_answered behaved, verify_answered, verifySignatureCoverage_answered,
    verifySignedElements_answered, mapError_ok, onlyRaises_pure, true_and, implies_true, and_true]
  constructor
  · intro only
    refine ⟨?_, ?_, ?_⟩
    · intro token userMessage named read
      exact (only token named userMessage read).1
    · rintro userMessage signer ⟨token, embedded, named, read, loaded, resolved⟩
      exact ((only token named userMessage read).2 embedded loaded signer resolved).1
    · rintro userMessage signer ⟨token, embedded, named, read, loaded, resolved⟩ verified covered
      exact ((only token named userMessage read).2 embedded loaded signer resolved).2 () verified () covered
  · intro readable token named userMessage read
    refine ⟨readable.token token userMessage named read, fun embedded loaded signer resolved => ?_⟩
    have found : SignerOf context envelope signature userMessage signer := ⟨token, embedded, named, read, loaded, resolved⟩
    exact ⟨readable.value userMessage signer found,
      fun _ verified _ covered => readable.targets userMessage signer found verified covered⟩

theorem getVerifiedSignature_answered (behaved : WellBehaved context) :
    OnlyRaises Answered (getVerifiedSignature context envelope.header.security envelope index) ↔
      ∀ signature, envelope.header.security.signature = some signature →
        SignatureReadable context envelope index signature := by
  unfold getVerifiedSignature
  split
  · rename_i unsigned
    simp only [unsigned, reduceCtorEq, false_implies, implies_true, iff_true]
    split
    · exact answered_raise _
    · exact onlyRaises_ok
  · rename_i signature signed
    simp only [signed, Option.some.injEq, forall_eq', onlyRaises_bind, onlyRaises_pure, implies_true, and_true]
    exact verifySignature_answered behaved

end Signatures

section Decrypting
variable {context : AS4ParseContext}

theorem decryptSessionKey_answered (behaved : WellBehaved context) (cipherValue : String) :
    OnlyRaises Answered (decryptSessionKey context cipherValue) := by
  unfold decryptSessionKey
  simp only
  rw [onlyRaises_mapError, onlyRaises_bind, onlyRaises_mapError]
  refine ⟨fun _ _ => rfl, fun encrypted _ raised failed => ?_⟩
  obtain ⟨_, rfl⟩ := behaved.decrypts encrypted raised failed
  rfl

theorem decryptReference_answered (sessionKey : Bytes) (security : Security) (mimeAttachments : Dict String Bytes)
    (reference : XencReference) : OnlyRaises Answered (decryptReference sessionKey security mimeAttachments reference) := by
  unfold decryptReference
  simp only
  split
  · exact answered_raise _
  · split
    · exact answered_raise _
    · rename_i data _
      have named : OnlyRaises Answered (encryptedAttachmentId data) := by
        unfold encryptedAttachmentId
        split
        · exact answered_raise _
        · split
          · exact answered_raise _
          · exact onlyRaises_ok
      have opened : ∀ content, OnlyRaises Answered (decryptAttachment sessionKey data content) := by
        intro content
        unfold decryptAttachment
        split
        · split
          · exact answered_raise _
          · exact onlyRaises_ok
        · exact answered_raise _
      rw [onlyRaises_bind]
      refine ⟨named, fun attachmentId _ => ?_⟩
      split
      · exact answered_raise _
      · rw [onlyRaises_bind]
        exact ⟨opened _, fun _ _ => onlyRaises_pure⟩

theorem decryptReferences_answered (sessionKey : Bytes) (security : Security) (mimeAttachments : Dict String Bytes)
    (references : List XencReference) (decryptedData : Dict String Bytes) :
    OnlyRaises Answered (decryptReferences sessionKey security mimeAttachments references decryptedData) := by
  induction references generalizing decryptedData with
  | nil => exact onlyRaises_ok
  | cons reference rest ih =>
      rw [decryptReferences, onlyRaises_bind]
      exact ⟨decryptReference_answered _ _ _ _, fun _ _ => ih _⟩

theorem getDecryptedData_answered (behaved : WellBehaved context) (security : Security)
    (mimeAttachments : Dict String Bytes) : OnlyRaises Answered (getDecryptedData context security mimeAttachments) := by
  unfold getDecryptedData
  split
  · split
    · exact answered_raise _
    · exact onlyRaises_ok
  · simp only
    split
    · exact answered_raise _
    · split
      · exact answered_raise _
      · rw [onlyRaises_bind]
        exact ⟨decryptSessionKey_answered behaved _, fun _ _ => decryptReferences_answered _ _ _ _ _⟩

theorem verifyAttachmentDigest_answered (signedAttachments : Dict String Bytes) (reference : DsigReference) :
    OnlyRaises Answered (verifyAttachmentDigest signedAttachments reference) := by
  unfold verifyAttachmentDigest
  simp only
  split
  · split
    · exact onlyRaises_error.mpr rfl
    · rename_i content _
      simp only [onlyRaises_bind, onlyRaises_mapError, matched_answered, implies_true, and_true, digestMatchesBytes,
        onlyRaises_pure]
      constructor
      · unfold requireTransforms
        simp only
        split
        · exact onlyRaises_error.mpr rfl
        · exact onlyRaises_ok
      · intro _ _
        unfold digestBytes computeDigest
        split
        · exact onlyRaises_error.mpr rfl
        · exact onlyRaises_ok
  · exact onlyRaises_ok

theorem verifySignedAttachments_answered (signature : Option Signature) (decryptedData : Dict String Bytes) :
    OnlyRaises Answered (verifySignedAttachments context signature decryptedData) := by
  unfold verifySignedAttachments
  split
  · exact onlyRaises_ok
  · split
    · rw [verifyAttachmentDigests, onlyRaises_each]
      exact fun _ _ _ _ _ => verifyAttachmentDigest_answered _ _
    · exact onlyRaises_ok

end Decrypting

section Payloads
variable {context : AS4ParseContext}

theorem decompressPart_answered (mimeAttachments decryptedData : Dict String Bytes) (part : PartInfo) :
    OnlyRaises Answered (decompressPart context mimeAttachments decryptedData part) := by
  have decompresses : ∀ content, OnlyRaises Answered
      (decompress part.partProperties content context.securityPolicy.maximumDecompressedSize) := by
    intro content
    unfold decompress
    split
    · exact onlyRaises_ok
    · split
      · exact answered_raise _
      · split
        · exact answered_raise _
        · exact onlyRaises_ok
  unfold decompressPart
  simp only
  split
  · exact onlyRaises_ok
  · split
    · exact answered_raise _
    · split
      · exact onlyRaises_ok
      · rw [onlyRaises_bind]
        exact ⟨decompresses _, fun _ _ => onlyRaises_pure⟩

theorem decompressParts_answered (mimeAttachments : Dict String Bytes) (parts : List PartInfo) (before : AS4Message) :
    StopsWith Answered (decompressParts context mimeAttachments parts) before := by
  induction parts generalizing before with
  | nil => exact stopsWith_pure
  | cons part rest ih =>
      rw [decompressParts, stopsWith_get_bind, stopsWith_lift_bind]
      exact ⟨decompressPart_answered _ _ _, fun _ _ => stopsWith_modify_bind.mpr (ih _)⟩

omit [Libraries] in
theorem requirePayloadInfo_answered (userMessage : UserMessage) : OnlyRaises Answered (requirePayloadInfo userMessage) := by
  unfold requirePayloadInfo
  split
  · exact answered_raise _
  · exact onlyRaises_ok

end Payloads

section BusinessDocuments
variable {context : AS4ParseContext}

theorem verifyPartyIdentifiers_answered (envelope : Envelope) : OnlyRaises Answered (verifyPartyIdentifiers envelope) := by
  have checks : ∀ element party, OnlyRaises Answered (verifyPartyIdentifier element party) := by
    intro element party
    unfold verifyPartyIdentifier
    split
    · exact answered_raise _
    · exact onlyRaises_ok
  simp only [verifyPartyIdentifiers, onlyRaises_bind, requireUserMessage_answered, checks, implies_true, and_self]

theorem requireSchemaValidHeader_answered (document : Located) :
    OnlyRaises Answered (requireSchemaValidHeader document) := by
  unfold requireSchemaValidHeader
  split
  · exact answered_raise _
  · split
    · exact onlyRaises_ok
    · exact answered_raise _

theorem verifyParticipants_answered (envelope : Envelope) (header : StandardBusinessDocumentHeader) :
    OnlyRaises Answered (verifyParticipants context envelope header) := by
  have agrees : ∀ name declared identifier, OnlyRaises Answered (verifyParticipantAgrees name declared identifier) := by
    intro name declared identifier
    unfold verifyParticipantAgrees
    split
    · exact answered_raise _
    · split
      · exact answered_raise _
      · exact onlyRaises_ok
  have reads : OnlyRaises Answered envelope.header.messaging.userMessage :=
    (onlyRaises_bind.mp (requireUserMessage_answered envelope)).1
  unfold verifyParticipants
  split
  · simp only [onlyRaises_bind, reads, verifyParticipantsAgree, agrees, implies_true, and_self]
  · exact onlyRaises_ok

theorem acceptRecipient_answered (behaved : WellBehaved context) (recipient : String) :
    OnlyRaises Answered (acceptRecipient context recipient) := by
  unfold acceptRecipient
  split
  · exact onlyRaises_ok
  · rename_i accept given
    rw [onlyRaises_mapError]
    intro raised failed
    obtain rfl := behaved.accepts accept given recipient raised failed
    rfl

theorem requireScopes_answered (scopes : Dict String Scope) : OnlyRaises Answered (requireScopes scopes) := by
  unfold requireScopes
  simp only
  split
  · exact onlyRaises_ok
  · exact answered_raise _

/-- Where the hook behaves, whatever is wrong with a business document is answered. -/
theorem processSbdh_answered (behaved : WellBehaved context) (envelope : Envelope) (before : AS4Message) :
    StopsWith Answered (processSbdh context envelope) before := by
  have payloads : OnlyRaises Answered (firstPayload before) := by
    unfold firstPayload
    split
    · exact answered_raise _
    · exact onlyRaises_ok
  have documents : ∀ payload, OnlyRaises Answered (parseBusinessDocument payload) := by
    intro payload
    rw [parseBusinessDocument, onlyRaises_mapError]
    exact fun _ _ => rfl
  have records : ∀ document, OnlyRaises Answered
      ((StandardBusinessDocument.codec.validate document).mapError PyError.validationError) := by
    intro document
    rw [onlyRaises_mapError]
    exact fun _ _ => rfl
  simp only [processSbdh, stopsWith_lift_bind, stopsWith_get_bind, stopsWith_modify_bind, verifyPartyIdentifiers_answered,
    payloads, documents, requireSchemaValidHeader_answered, records, verifyParticipants_answered,
    acceptRecipient_answered behaved, requireScopes_answered, true_and]
  intros
  simp [StopsWith]

end BusinessDocuments

section Processing
variable {context : AS4ParseContext} {document : Node} {mimeAttachments : Dict String Bytes} {before : AS4Message}

/-- A document is processed to an end that is answered just where it and its signature can
be read. -/
theorem processAs4_answered (behaved : WellBehaved context) :
    StopsWith Answered (processAs4 context (.root document) mimeAttachments) before ↔
      ∀ envelope, Envelope.codec.validate (.root document) = .ok envelope →
        (∀ node ∈ document.subtrees, wellNamed node = true) ∧
          ∀ index signature, indexElementsById (.root document) = .ok index →
            envelope.header.security.signature = some signature → SignatureReadable context envelope index signature := by
  simp only [processAs4, stopsWith_modify_bind, stopsWith_lift_bind, modelValidateEtree_answered, index_answered,
    getVerifiedSignature_answered behaved, getDecryptedData_answered behaved, verifySignedAttachments_answered,
    requireUserMessage_answered, requirePayloadInfo_answered, decompressParts_answered, true_and, implies_true, and_true]
  simp only [Envelope.modelValidateEtree, mapError_ok]
  exact forall₂_congr fun envelope _ => and_congr_right' ⟨fun readable index signature indexed => readable index indexed signature,
    fun readable index indexed signature => readable index signature indexed⟩

theorem processPeppol_answered (behaved : WellBehaved context) :
    StopsWith Answered (processPeppol context (.root document) mimeAttachments) before ↔
      StopsWith Answered (processAs4 context (.root document) mimeAttachments) before := by
  rw [processPeppol, stopsWith_bind]
  refine and_iff_left fun _ between _ => ?_
  rw [stopsWith_get_bind]
  split
  · rw [stopsWith_adapt]
    simp only [answered_translateSbdhError]
    exact processSbdh_answered behaved _ _
  · exact stopsWith_lift.mpr (answered_raise _)

/-- A request that cannot be unpacked is answered. -/
theorem unpackMessage_answered (payload : Bytes) :
    OnlyRaises (fun raised => ∃ error, raised = .receiptable error) (unpackMessage payload) := by
  unfold unpackMessage
  rw [onlyRaises_bind]
  constructor
  · unfold parseMime
    simp only
    split
    · exact onlyRaises_error.mpr ⟨_, rfl⟩
    · split
      · exact onlyRaises_error.mpr ⟨_, rfl⟩
      · exact onlyRaises_ok
  · rintro ⟨soapPart, encryptedPart⟩ _
    simp only
    split
    · exact onlyRaises_error.mpr ⟨_, rfl⟩
    · split
      · exact onlyRaises_error.mpr ⟨_, rfl⟩
      · split
        · exact onlyRaises_error.mpr ⟨_, rfl⟩
        · exact onlyRaises_pure

theorem parse_returns {cls : MessageClass} {soapBytes : Bytes} :
    (∃ message, parse cls context soapBytes mimeAttachments = .ok message) ↔
      StopsWith Answered (parseSteps cls context soapBytes mimeAttachments) {} := by
  unfold parse StopsWith
  cases parseSteps cls context soapBytes mimeAttachments {} with
  | ok _ fields => simp
  | error raised fields =>
      simp only [EStateM.Result.error.injEq, and_imp, Answered]
      cases answer : caught raised <;> simp [answer]

/-- A request is made a message of just where it can be read. -/
theorem parseMessage_returns (behaved : WellBehaved context) {payload : Bytes} :
    (∃ message, parseMessage payload context = .ok message) ↔ RequestReadable context payload := by
  have parses : ∀ soapBytes mimeAttachments, (∃ message, parse .peppol context soapBytes mimeAttachments = .ok message) ↔
      ∀ document ids identity envelope, Libraries.parseXml soapBytes = some document →
        preValidate (.root document) = .ok ids → getAddressedTo ((Located.root document).find partyToPath) = .ok identity →
          Envelope.codec.validate (.root document) = .ok envelope →
            (∀ node ∈ document.subtrees, wellNamed node = true) ∧
              ∀ index signature, indexElementsById (.root document) = .ok index →
                envelope.header.security.signature = some signature →
                  SignatureReadable context envelope index signature := by
    intro soapBytes mimeAttachments
    simp only [parse_returns, parseSteps, MessageParsing.process, stopsWith_lift_bind, stopsWith_modify_bind,
      parseXml_answered, preValidate_answered, getAddressedTo_answered, processPeppol_answered behaved,
      processAs4_answered behaved, parseXml_ok, true_and]
    constructor
    · intro only document ids identity envelope parsed identified addressed
      exact only document parsed ids identified identity addressed envelope
    · intro only document parsed ids identified identity addressed envelope
      exact only document ids identity envelope parsed identified addressed
  unfold parseMessage RequestReadable
  cases unpacked : unpackMessage payload with
  | error raised =>
      obtain ⟨error, rfl⟩ := unpackMessage_answered payload raised unpacked
      simp
  | ok content =>
      obtain ⟨soapBytes, mimeAttachments⟩ := content
      simp only [Except.ok.injEq, Prod.mk.injEq, and_imp]
      rw [parses]
      constructor
      · rintro only _ _ document ids identity envelope rfl rfl
        exact only document ids identity envelope
      · intro only document ids identity envelope
        exact only soapBytes mimeAttachments document ids identity envelope rfl rfl

end Processing

section Receiving
variable {exchange : AS4ReceivingExchange}

/-- Whoever is known to have sent a message, asking for the sender raises nothing. -/
theorem remotePartyOf_returns {payload : Bytes} {context : AS4ParseContext} {message : AS4Message}
    (parsed : parseMessage payload context = .ok message) : ∃ party, remotePartyOf exchange message = .ok party := by
  unfold remotePartyOf
  cases known : message.getRemoteParty with
  | ok party => exact ⟨some party, rfl⟩
  | error raised =>
      have quiet : suppressed raised = true := by
        unfold AS4Message.getRemoteParty at known
        split at known
        · rename_i certificate envelope signer stored
          obtain ⟨envelope', signature, index, stored', -, verified⟩ := parseMessage_signerVerified parsed _ signer
          obtain rfl : envelope = envelope' := Option.some.inj (stored.symm.trans stored')
          obtain ⟨token, userMessage, embedded, -, read, -⟩ := verifySignature_ok.mp verified
          simp [read, bind, Except.bind, pure, Except.pure] at known
        · obtain rfl := Except.error.inj known
          rfl
      exact ⟨exchange.remoteParty, by simp [quiet]⟩

/-- What a signal is written in has a canonical form. -/
structure SignalsCanonical : Prop where
  messaging : ∀ references signal, ∃ form, Libraries.canonicalForm
    (.root (Messaging.codec.element (eb3 "Messaging") (receiptMessaging references signal))) [] = some form
  body : ∀ references : AS4References, ∃ form, Libraries.canonicalForm
    (.root (Body.codec.element (soap12 "Body") { bodyId := some references.bodyId })) [] = some form
  signedInfo : ∀ references messagingForm bodyForm, ∃ form, Libraries.canonicalForm
    (.root (SignedInfo.codec.element (ds "SignedInfo") (signalInfo references messagingForm bodyForm))) [] = some form

/-- The signature of a signal is the local party's over the canonical form of what it
says is signed. -/
def SignedBy (localParty : AS4InternalParty) (envelope : Envelope) : Prop :=
  ∃ signature form value, envelope.header.security.signature = some signature ∧
    signedInfoCanonicalized signature.signedInfo = .ok form ∧
      localParty.credentials.privateKey.sign form = .ok value ∧ signature.signatureValue.value = some value

theorem signalSoapEnvelope_signed {localParty : AS4InternalParty} {references : AS4References} {signal : SignalMessage}
    (canonical : SignalsCanonical) (signs : ∀ data, ∃ value, localParty.credentials.privateKey.sign data = .ok value) :
    ∃ envelope, signalSoapEnvelope localParty references signal = .ok envelope ∧ SignedBy localParty envelope := by
  obtain ⟨messagingForm, messagingTaken⟩ := canonical.messaging references signal
  obtain ⟨bodyForm, bodyTaken⟩ := canonical.body references
  obtain ⟨infoForm, infoTaken⟩ := canonical.signedInfo references messagingForm bodyForm
  obtain ⟨value, signed⟩ := signs infoForm
  exact ⟨_, signalSoapEnvelope_ok.mpr ⟨messagingForm, bodyForm, infoForm, value, messagingTaken, bodyTaken, infoTaken, signed, rfl⟩,
    _, infoForm, value, rfl, canonicalize_ok.mpr infoTaken, signed, rfl⟩

/-- The request is taken, well or not, and there is a signed signal to send back. -/
def RequestAnswered (exchange : AS4ReceivingExchange) (requestHeaders : Dict String String) (requestBody : Bytes)
    (acceptParticipant : Option (String → Except PyError Unit)) (securityPolicy : SecurityPolicy) (now : Datetime) : Prop :=
  ∃ after envelope, receive exchange requestHeaders requestBody acceptParticipant securityPolicy now = .ok after ∧
    (after.state = .received ∨ after.state = .rejected) ∧
    buildSignal after = .ok (receiptHeaders, Libraries.tostring (Envelope.codec.element (soap12 "Envelope") envelope)) ∧
      SignedBy exchange.localParty envelope

/-- The context `receive` parses a request in. -/
def receivingUnder (exchange : AS4ReceivingExchange) (acceptParticipant : Option (String → Except PyError Unit))
    (securityPolicy : SecurityPolicy) : AS4ParseContext :=
  { localParty := exchange.localParty, acceptParticipant := acceptParticipant, securityPolicy := securityPolicy }

/-- A parsed message is answered, whatever was wrong with it. -/
theorem receiveMessage_answers (canonical : SignalsCanonical)
    (signs : ∀ data, ∃ value, exchange.localParty.credentials.privateKey.sign data = .ok value) {payload : Bytes}
    {context : AS4ParseContext} {message : AS4Message} (parsed : parseMessage payload context = .ok message) (now : Datetime) :
    ∃ after envelope, receiveMessage exchange message now = .ok after ∧
      (after.state = .received ∨ after.state = .rejected) ∧
      buildSignal after = .ok (receiptHeaders, Libraries.tostring (Envelope.codec.element (soap12 "Envelope") envelope)) ∧
        SignedBy exchange.localParty envelope := by
  obtain ⟨party, settled⟩ := @remotePartyOf_returns _ exchange _ _ _ parsed
  obtain ⟨envelope, made, signed⟩ :=
    @signalSoapEnvelope_signed _ exchange.localParty exchange.identifiers (signalFor message exchange.identifiers now) canonical signs
  have receipt : forMessage message exchange.localParty exchange.identifiers now =
      .ok { soapEnvelope := some envelope, references := some exchange.identifiers } := by
    simp only [forMessage, bind_ok, pure_ok]
    exact ⟨envelope, made, rfl⟩
  refine ⟨_, envelope, by simp only [receiveMessage, bind_ok, pure_ok]; exact ⟨party, settled, _, receipt, rfl⟩, ?_, rfl, signed⟩
  cases message.parseError with
  | none => exact .inl rfl
  | some error => exact .inr rfl

end Receiving

section Posted

omit [Libraries] in
/-- A request of a document, and of a part that it may name. -/
def postedParts (document : Node) : MimePart :=
  .part "multipart/related" none none
    [.part "application/soap+xml" none (some (plainText document)) [],
     .part "application/octet-stream" (some "payload") (some []) []]

omit [Libraries] in
/-- The toolkit, for requests of one document. -/
@[reducible] def posting (document : Node) : Libraries :=
  { signing [document] with parseMime := fun _ => postedParts document }

omit [Libraries] in
def postedTo (document : Node) : @AS4ReceivingExchange (posting document) :=
  letI := posting document
  newReceivingExchange
    { identity := peppolIdentity "9932:1111111111"
      credentials := { certificate := ⟨[48, 1], rfl⟩, privateKey := ⟨fun data => .ok (0 :: data), .ok⟩ } }
    answerReferences

omit [Libraries] in
/-- The default policy, with a resolver that trusts the certificate a message brings. -/
def trustingTheSigner (document : Node) : @SecurityPolicy (posting document) :=
  letI := posting document
  { signerResolver := fun _ embedded => match embedded with
      | some certificate => .ok certificate
      | none => .error .untrustedSigner }

omit [Libraries] in
theorem posted_behaves (document : Node) :
    letI := posting document
    WellBehaved (receivingUnder (postedTo document) none (trustingTheSigner document)) := by
  let _ := posting document
  refine ⟨?_, by simp [receivingUnder], fun _ => onlyRaises_ok⟩
  intro party embedded
  cases embedded with
  | none => exact onlyRaises_error.mpr rfl
  | some certificate => exact onlyRaises_ok

omit [Libraries] in
theorem posted_canonical (document : Node) : @SignalsCanonical (posting document) := by
  let _ := posting document
  exact ⟨fun _ _ => ⟨_, rfl⟩, fun _ => ⟨_, rfl⟩, fun _ _ _ => ⟨_, rfl⟩⟩

omit [Libraries] in
theorem posted_unpacks (document : Node) (payload : Bytes) :
    letI := posting document
    unpackMessage payload = .ok (plainText document, [("payload", [])]) := by
  let _ := posting document
  have parts : Libraries.parseMime payload = postedParts document := rfl
  have named : stripBrackets "payload" = "payload" := by decide
  simp [unpackMessage, parseMime, parts, postedParts, findPart, findPartIn, partContent, partContentId, named, bind,
    Except.bind, pure, Except.pure]

omit [Libraries] in
/-- A user message under a security header. -/
def postedDocument (security : Security) : Node :=
  letI := signing []
  Envelope.codec.element (soap12 "Envelope") (looseEnvelope "message" security [])

omit [Libraries] in
theorem posted_stages (security : Security) :
    letI := posting (postedDocument security)
    preValidate (.root (postedDocument security)) = .ok ("message", "M") ∧
      ∃ identity, getAddressedTo ((Located.root (postedDocument security)).find partyToPath) = .ok identity := by
  let _ := posting (postedDocument security)
  have identified := @preValidate_written (posting (postedDocument security))
    (looseEnvelope "message" security []) (looseUser "message" []) "M" rfl rfl rfl
    (by decide) (by decide)
  have addressed := @getAddressedTo_written (posting (postedDocument security))
    (looseEnvelope "message" security []) (looseUser "message" []) rfl rfl (by decide)
  exact ⟨identified, _, addressed⟩

end Posted

section UndecodableToken

omit [Libraries] in
/-- A token that is not Base64. -/
def undecodableToken : BinarySecurityToken := ⟨base64Binary, x509V3, "T", "A"⟩

omit [Libraries] in
def undecodableSecurity : Security where
  binarySecurityTokens := [undecodableToken]
  signature := some straySignature

theorem undecodableSecurity_writes : Writes undecodableSecurity ["T"] := by
  have words : base64Binary ≠ "" ∧ x509V3 ≠ "" ∧ exclusiveC14N ≠ "" ∧ dsigRsaSha256 ≠ "" ∧ strip "A" ≠ "" := by decide
  have shown : ∀ name, (QName.plain name).localName = name := fun _ => rfl
  have understood : (Codec.attributeOr boolScalar true (soap12 "mustUnderstand") "must_understand").readable true :=
    .inr ⟨true, boolScalar_rereads true⟩
  refine ⟨?_, ?_, ?_, ?_⟩
  · simp [Security.codec, BinarySecurityToken.codec, Signature.codec, SignedInfo.codec, CanonicalizationMethod.codec,
      SignatureMethod.codec, SignatureValue.codec, KeyInfo.codec, SecurityTokenReference.codec, WsseReference.codec,
      stringText, undecodableSecurity, undecodableToken, straySignature]
  · simp [Security.codec, BinarySecurityToken.codec, Signature.codec, SignedInfo.codec, CanonicalizationMethod.codec,
      SignatureMethod.codec, SignatureValue.codec, KeyInfo.codec, SecurityTokenReference.codec, WsseReference.codec,
      stringText, undecodableSecurity, undecodableToken, straySignature, words, understood]
    exact ⟨SignedReadings.canonicalization_readable words.2.2.1, .inl rfl⟩
  · simp [named_written, Security.codec, BinarySecurityToken.codec, Signature.codec, SignedInfo.codec,
      CanonicalizationMethod.codec, SignatureMethod.codec, SignatureValue.codec, KeyInfo.codec,
      SecurityTokenReference.codec, WsseReference.codec, stringText, undecodableSecurity, undecodableToken, straySignature]
  · simp [identifiers_written, Security.codec, BinarySecurityToken.codec, Signature.codec,
      SignedInfo.codec, CanonicalizationMethod.codec, SignatureMethod.codec, SignatureValue.codec, KeyInfo.codec,
      SecurityTokenReference.codec, WsseReference.codec, stringText, undecodableSecurity, undecodableToken, straySignature,
      Scalar.string, Scalar.optional, boolScalar, words, wsu, plain, soap12, shown]

end UndecodableToken

end AnsweredRequests
