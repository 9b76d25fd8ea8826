import AS4.RecordedExchange
import AS4.RecordReadings

/-!
How a signal that cannot be trusted is refused. Most of what can be wrong with one
is reported as a `ReceiptVerificationError`; what is not, and when it is reached, is
said here stage by stage.
-/

namespace SignalRefusals
open ElementTree ElementCodec ElementCodec.Codec FallibleSteps PythonData AS4Libraries AS4Errors SignatureModel MessagingModel
  EnvelopeModel Verification MessageParsing ReceiptVerification RecordLaws RecordReadings RecordedExchange Serialisation

variable [Libraries]

section Refusals

omit [Libraries] in
/-- The one exception a signal is refused with. -/
def Refusal (raised : PyError) : Prop := ∃ message, raised = .receiptVerification message

omit [Libraries] in
@[simp] theorem refusal_refuse {α : Type} (message : String) : OnlyRaises Refusal (refuse message : Except PyError α) := by
  simp [refuse, Refusal]

omit [Libraries] in
theorem signalMessage_error {messaging : Messaging} {raised : PyError}
    (failed : messaging.signalMessage = .error raised) : ∃ error, raised = .receiptable error := by
  unfold Messaging.signalMessage Messaging.onlyOne at failed
  split at failed
  · simp at failed
  · simp at failed
  · exact ⟨_, (Except.error.inj failed).symm⟩

/-- Whatever stops a signal from being read is translated. -/
theorem readSignal_refuses (data : Bytes) : OnlyRaises Refusal ((readSignal data).mapError unreadable) := by
  rw [onlyRaises_mapError]
  simp only [readSignal, onlyRaises_bind]
  refine ⟨?_, fun document _ => ⟨?_, fun envelope _ => ⟨?_, fun signal _ => onlyRaises_pure⟩⟩⟩
  · intro raised failed
    unfold parseXml at failed
    split at failed
    · simp at failed
    · obtain rfl := Except.error.inj failed
      exact ⟨_, rfl⟩
  · intro raised failed
    simp only [Envelope.modelValidateEtree, mapError_error] at failed
    obtain ⟨details, -, rfl⟩ := failed
    exact ⟨_, rfl⟩
  · intro raised failed
    obtain ⟨error, rfl⟩ := signalMessage_error failed
    exact ⟨_, rfl⟩

end Refusals

section Conditions

/-- The token holds a certificate. -/
def Decodes (token : BinarySecurityToken) : Prop :=
  token.valueType = x509V3 ∧
    ∃ der, Base64.b64decode false token.value = .ok der ∧ Libraries.isCertificate der = true

omit [Libraries] in
def namedToken (security : Security) (signature : Signature) : Option BinarySecurityToken :=
  security.binarySecurityTokens.find? fun token => signatureTokenUri signature == some ("#" ++ token.bstId)

/-- With supported algorithms the key is of a kind that loads, and with an RSA key
there is a signature value and a canonical form to check it over. -/
def ValueReadable (signature : Signature) (signer : Certificate) : Prop :=
  signature.signedInfo.canonicalizationMethod.algorithm = some exclusiveC14N →
    ∀ hash, signatureAlgorithms signature.signedInfo.signatureMethod.algorithm = some hash →
      ∃ key, Libraries.publicKey signer.der = some key ∧ ∀ rsa, key = .rsa rsa →
        (∃ value, signature.signatureValue.value = some value) ∧
          ∃ data, signedInfoCanonicalized signature.signedInfo = .ok data

/-- Each referenced element that is reached has a canonical form. -/
def TargetsCanonical (signature : Signature) (index : Dict String Located)
    (check : DsigReference → Except PyError Unit) : Prop :=
  ∀ front reference back, signature.signedInfo.references = front ++ reference :: back →
    (∀ earlier ∈ front, check earlier = .ok ()) → ∀ element, target index reference = some element →
      requireTransforms reference exclusiveC14N = .ok () →
        ∃ form, Libraries.canonicalForm element (inclusiveNamespaces reference) = some form

/-- What the signature of a signal from this document must not have wrong with it,
as far as the checks get. -/
structure Checkable (document : Node) (security : Security) (signature : Signature) (signer : Certificate) : Prop where
  token : ∀ token ∈ namedToken security signature, Decodes token
  value : embeddedCertificate security signature = .ok (some signer) → ValueReadable signature signer
  index : embeddedCertificate security signature = .ok (some signer) → verify signature signer = .ok () →
    (∀ node ∈ document.subtrees, wellNamed node = true) ∧ (identifiers document).Nodup
  targets : embeddedCertificate security signature = .ok (some signer) → verify signature signer = .ok () →
    ∀ index, indexElementsById (.root document) = .ok index → requireMessagingCoverage signature index = .ok () →
      TargetsCanonical signature index (verifyReceiptReference index)

/-- Every signature that is looked at is checkable. -/
def SignaturesCheckable (data : Bytes) (signer : Certificate) : Prop :=
  ∀ document envelope signal, readSignal data = .ok (document, envelope, signal) →
    requireReference { soapEnvelope := some envelope, originalMessageId := signal.bind (·.messageInfo.refToMessageId) } =
      .ok () →
      ∀ signature ∈ envelope.header.security.signature, Checkable document envelope.header.security signature signer

end Conditions

section Stages

theorem x509Certificate_ok {token : BinarySecurityToken} {certificate : Certificate} :
    token.x509Certificate = .ok certificate ↔
      token.valueType = x509V3 ∧ Base64.b64decode false token.value = .ok certificate.der := by
  unfold BinarySecurityToken.x509Certificate
  split
  · rename_i other
    simp [other]
  · rename_i same
    simp only [ne_eq, Decidable.not_not] at same
    simp only [bind_ok, mapError_ok, loadDerX509Certificate_ok, same, true_and, exists_eq_right']

/-- A token refuses in ways of its own just when it holds no certificate. -/
theorem x509Certificate_refuses {token : BinarySecurityToken} :
    OnlyRaises Refusal token.x509Certificate ↔ Decodes token := by
  constructor
  · intro only
    cases loaded : token.x509Certificate with
    | ok certificate =>
        obtain ⟨kind, decoded⟩ := x509Certificate_ok.mp loaded
        exact ⟨kind, certificate.der, decoded, certificate.loads⟩
    | error raised =>
        obtain ⟨message, rfl⟩ := only raised loaded
        unfold BinarySecurityToken.x509Certificate at loaded
        split at loaded
        · simp at loaded
        · rcases bind_error.mp loaded with undecoded | ⟨bytes, -, unloaded⟩
          · obtain ⟨inner, -, translated⟩ := mapError_error.mp undecoded
            simp at translated
          · unfold loadDerX509Certificate at unloaded
            split at unloaded <;> simp at unloaded
  · rintro ⟨kind, der, decoded, loads⟩ raised failed
    have loaded : token.x509Certificate = .ok ⟨der, loads⟩ := x509Certificate_ok.mpr ⟨kind, decoded⟩
    simp [loaded] at failed

theorem embeddedCertificate_refuses {security : Security} {signature : Signature} :
    OnlyRaises Refusal (embeddedCertificate security signature) ↔
      ∀ token ∈ namedToken security signature, Decodes token := by
  unfold embeddedCertificate namedToken
  simp only
  cases security.binarySecurityTokens.find? fun token => signatureTokenUri signature == some ("#" ++ token.bstId) with
  | none => simp
  | some token =>
      simp only [Option.mem_def, Option.some.injEq, forall_eq']
      rw [← x509Certificate_refuses]
      cases token.x509Certificate <;> simp [OnlyRaises, Except.map]

theorem requireExpectedSigner_ok {embedded : Option Certificate} {signer : Certificate} :
    requireExpectedSigner embedded signer = .ok () ↔ embedded = some signer := by
  unfold requireExpectedSigner
  cases embedded with
  | none => simp [refuse]
  | some certificate =>
      simp only [Option.some.injEq]
      split
      · rename_i other
        simp [refuse, other]
      · rename_i same
        simpa using same

theorem requireExpectedSigner_refuses (embedded : Option Certificate) (signer : Certificate) :
    OnlyRaises Refusal (requireExpectedSigner embedded signer) := by
  unfold requireExpectedSigner
  split
  · exact refusal_refuse _
  · split
    · exact refusal_refuse _
    · exact onlyRaises_ok

/-- Verifying a signature value raises only what it is meant to where the value can be read. -/
theorem verify_raises {allowed : PyError → Prop} {signature : Signature} {signer : Certificate}
    (transform : ∀ message, allowed (.unsupportedTransform message))
    (algorithm : ∀ message, allowed (.unsupportedSignatureAlgorithm message)) (invalid : allowed .invalidSignature)
    (unloaded : ∀ typeName message, ¬ allowed (.other typeName message))
    (missing : ∀ message, ¬ allowed (.valueError message)) (unformed : ¬ allowed .c14nError) :
    OnlyRaises allowed (verify signature signer) ↔ ValueReadable signature signer := by
  simp only [verify, onlyRaises_bind]
  unfold ValueReadable requireExclusiveCanonicalization
  by_cases exclusive : signature.signedInfo.canonicalizationMethod.algorithm = some exclusiveC14N
  · simp only [exclusive, ne_eq, not_true_eq_false, ↓reduceIte, onlyRaises_ok, true_and, forall_const]
    unfold signatureAlgorithmOf
    cases signatureAlgorithms signature.signedInfo.signatureMethod.algorithm with
    | none => simp [algorithm]
    | some hash =>
        simp only [onlyRaises_ok, Except.ok.injEq, forall_eq', true_and, Option.some.injEq]
        unfold requireRsaPublicKey Certificate.publicKey
        cases Libraries.publicKey signer.der with
        | none => simp [bind, Except.bind, unloaded]
        | some key =>
            cases key with
            | other typeName => simp [bind, Except.bind, algorithm]
            | rsa key =>
                unfold signatureBytes
                cases signature.signatureValue.value with
                | none => simp [bind, Except.bind, pure, Except.pure, missing]
                | some value =>
                    cases formed : signedInfoCanonicalized signature.signedInfo with
                    | error raised =>
                        obtain rfl : raised = .c14nError := by
                          unfold signedInfoCanonicalized canonicalize at formed
                          split at formed
                          · simp at formed
                          · split at formed
                            · simp at formed
                            · exact (Except.error.inj formed).symm
                        simp [bind, Except.bind, pure, Except.pure, unformed]
                    | ok data =>
                        have checked : OnlyRaises allowed
                            (if Libraries.rsaVerify key hash data value then pure () else .error .invalidSignature) := by
                          split
                          · exact onlyRaises_pure
                          · exact onlyRaises_error.mpr invalid
                        simpa [bind, Except.bind, pure, Except.pure] using checked
  · simp [exclusive, transform]

/-- Of what verifying a signature value may raise, the rest is translated. -/
theorem verify_refuses {signature : Signature} {signer : Certificate} :
    OnlyRaises Refusal ((verify signature signer).mapError ReceiptVerification.translateSignatureError) ↔
      ValueReadable signature signer := by
  rw [onlyRaises_mapError]
  exact verify_raises (fun _ => ⟨_, rfl⟩) (fun _ => ⟨_, rfl⟩) ⟨_, rfl⟩
    (by simp [translateSignatureError, Refusal]) (by simp [translateSignatureError, Refusal])
    (by simp [translateSignatureError, Refusal])

omit [Libraries] in
theorem insertIds_error {entries : List (String × Located)} {indexed : Dict String Located} {raised : PyError}
    (failed : insertIds indexed entries = .error raised) : ∃ error, raised = .receiptable error := by
  induction entries generalizing indexed with
  | nil => simp [insertIds] at failed
  | cons entry rest ih =>
      simp only [insertIds] at failed
      split at failed
      · exact ⟨_, (Except.error.inj failed).symm⟩
      · exact ih failed

theorem collectIds_error {nodes : List Located} {raised : PyError} (failed : collectIds nodes = .error raised) :
    ∃ message, raised = .valueError message := by
  induction nodes with
  | nil => simp [collectIds] at failed
  | cons n rest ih =>
      simp only [collectIds, bind_error, pure_error, and_false, exists_false, or_false] at failed
      rcases failed with here | ⟨_, -, later⟩
      · unfold nodeIds at here
        split at here
        · simp at here
        · split at here
          · exact ⟨_, (Except.error.inj here).symm⟩
          · simp at here
        · simp at here
      · exact ih later

/-- An index that cannot be made is never refused as such. -/
theorem index_refuses {document : Node} : OnlyRaises Refusal (indexElementsById (.root document)) ↔
    (∀ node ∈ document.subtrees, wellNamed node = true) ∧ (identifiers document).Nodup := by
  rw [← index_ok_iff]
  constructor
  · intro only
    cases indexed : indexElementsById (.root document) with
    | ok index => exact ⟨index, rfl⟩
    | error raised =>
        obtain ⟨message, rfl⟩ := only raised indexed
        exfalso
        rcases bind_error.mp indexed with uncollected | ⟨entries, -, uninserted⟩
        · obtain ⟨_, same⟩ := collectIds_error uncollected
          simp at same
        · obtain ⟨_, same⟩ := insertIds_error uninserted
          simp at same
  · rintro ⟨index, indexed⟩ raised failed
    simp [indexed] at failed

/-- Comparing a digest raises only what it is meant to where the element has a canonical
form, when it gets that far. -/
theorem digestMatches_raises {allowed : PyError → Prop} {reference : DsigReference} {element : Located}
    (transform : ∀ message, allowed (.unsupportedTransform message))
    (algorithm : ∀ message, allowed (.unsupportedDigestAlgorithm message)) (unformed : ¬ allowed .c14nError) :
    OnlyRaises allowed (digestMatches reference element) ↔ (requireTransforms reference exclusiveC14N = .ok () →
      ∃ form, Libraries.canonicalForm element (inclusiveNamespaces reference) = some form) := by
  have transforms : OnlyRaises allowed (requireTransforms reference exclusiveC14N) := by
    unfold requireTransforms
    simp only
    split
    · exact onlyRaises_error.mpr (transform _)
    · exact onlyRaises_ok
  have digests : ∀ form, OnlyRaises allowed (digestBytes reference form) := by
    intro form
    unfold digestBytes computeDigest
    split
    · exact onlyRaises_error.mpr (algorithm _)
    · exact onlyRaises_ok
  simp only [digestMatches, digestElement, onlyRaises_bind, transforms, digests, true_and, implies_true, and_true,
    onlyRaises_pure]
  unfold canonicalize
  cases Libraries.canonicalForm element (inclusiveNamespaces reference) with
  | none =>
      simp only [onlyRaises_error, unformed, reduceCtorEq, exists_false, imp_false]
      exact ⟨fun none => none (), fun none _ => none⟩
  | some form => simp

theorem verifyReceiptReference_refuses {index : Dict String Located} {reference : DsigReference} :
    OnlyRaises Refusal (verifyReceiptReference index reference) ↔
      ∀ element, target index reference = some element → requireTransforms reference exclusiveC14N = .ok () →
        ∃ form, Libraries.canonicalForm element (inclusiveNamespaces reference) = some form := by
  unfold verifyReceiptReference
  simp only
  cases target index reference with
  | none => simp
  | some element =>
      have outcome : ∀ matched, OnlyRaises Refusal (if matched = true then pure () else
          refuse s!"Receipt digest for {referenceUri reference} does not match the signed element" : Except PyError Unit) := by
        intro matched
        split
        · exact onlyRaises_pure
        · exact refusal_refuse _
      simp only [Option.some.injEq, forall_eq', onlyRaises_bind, onlyRaises_mapError, outcome, implies_true, and_true]
      exact digestMatches_raises (fun _ => ⟨_, rfl⟩) (fun _ => ⟨_, rfl⟩)
        (by simp [ReceiptVerification.translateReferenceError, Refusal])

omit [Libraries] in
theorem requireMessagingCoverage_refuses (signature : Signature) (index : Dict String Located) :
    OnlyRaises Refusal (requireMessagingCoverage signature index) := by
  unfold requireMessagingCoverage
  split
  · exact onlyRaises_ok
  · exact refusal_refuse _

theorem verifyReceiptSignature_refuses {envelope : Envelope} {document : Node} {signer : Certificate} :
    OnlyRaises Refusal (verifyReceiptSignature envelope (.root document) signer) ↔
      ∀ signature ∈ envelope.header.security.signature, Checkable document envelope.header.security signature signer := by
  unfold verifyReceiptSignature
  cases envelope.header.security.signature with
  | none => simp
  | some signature =>
      simp only [Option.mem_def, Option.some.injEq, forall_eq', onlyRaises_bind, embeddedCertificate_refuses,
        requireExpectedSigner_refuses, verify_refuses, index_refuses, mapError_ok,
        requireMessagingCoverage_refuses, true_and, onlyRaises_each, verifyReceiptReference_refuses]
      constructor
      · rintro ⟨token, rest⟩
        have expected := fun embedded => rest _ embedded () (requireExpectedSigner_ok.mpr rfl)
        refine ⟨token, ?_, ?_, ?_⟩
        · intro embedded
          exact (expected embedded).1
        · intro embedded verified
          exact ((expected embedded).2 () verified).1
        · intro embedded verified index indexed covered front reference back split passed
          exact ((expected embedded).2 () verified).2 index indexed () covered front reference back split passed
      · intro checkable
        refine ⟨checkable.token, ?_⟩
        rintro found embedded ⟨⟩ expected
        obtain rfl := requireExpectedSigner_ok.mp expected
        refine ⟨checkable.value embedded, ?_⟩
        rintro ⟨⟩ verified
        refine ⟨checkable.index embedded verified, ?_⟩
        rintro index indexed ⟨⟩ covered front reference back split passed
        exact checkable.targets embedded verified index indexed covered front reference back split passed

theorem requireReference_refuses {document : Node} {envelope : Envelope} {signal : Option SignalMessage}
    {data : Bytes} (read : readSignal data = .ok (document, envelope, signal)) :
    OnlyRaises Refusal (requireReference
      { soapEnvelope := some envelope, originalMessageId := signal.bind (·.messageInfo.refToMessageId) }) := by
  simp only [readSignal, bind_ok, pure_ok, Prod.mk.injEq] at read
  obtain ⟨_, -, _, -, _, named, rfl, rfl, rfl⟩ := read
  unfold requireReference AS4Receipt.error AS4Receipt.errors AS4Receipt.signalMessage
  simp only [named, onlyRaises_bind, onlyRaises_ok, onlyRaises_pure, implies_true, true_and]
  intro error _
  split
  · exact refusal_refuse _
  · exact onlyRaises_ok

end Stages

/-- A signal is refused in one way just where every signature that is looked at is
checkable. -/
theorem signal_refused_in_one_way_iff (data : Bytes) (signer : Certificate) :
    (∀ raised, AS4Receipt.parse data signer = .error raised → Refusal raised) ↔ SignaturesCheckable data signer := by
  change OnlyRaises Refusal (AS4Receipt.parse data signer) ↔ _
  unfold AS4Receipt.parse
  simp only [onlyRaises_bind, readSignal_refuses, true_and, mapError_ok, onlyRaises_pure, implies_true, and_true,
    verifyReceiptSignature_refuses]
  constructor
  · intro only document envelope signal read referenced
    exact (only (document, envelope, signal) read).2 () referenced
  · rintro checkable ⟨document, envelope, signal⟩ read
    refine ⟨requireReference_refuses read, ?_⟩
    rintro ⟨⟩ referenced
    exact checkable document envelope signal read referenced

section StrayToken

omit [Libraries] in
/-- The token of a signal that names it, of another type than a certificate. -/
def strayToken : BinarySecurityToken :=
  { encodingType := SignalBuilding.base64Binary, valueType := "urn:other", bstId := "T", value := "token" }

omit [Libraries] in
def straySignature : Signature :=
  { signedInfo :=
      { canonicalizationMethod := { algorithm := some exclusiveC14N }
        signatureMethod := { algorithm := SignalBuilding.dsigRsaSha256 } }
    signatureValue := {}
    keyInfo := { securityTokenReference := [{ reference := { uri := some "#T" } }] } }

omit [Libraries] in
/-- A receipt for a message, signed with the token. -/
def strayEnvelope : Envelope :=
  { header :=
      { security := { binarySecurityTokens := [strayToken], signature := some straySignature }
        messaging :=
          { signalMessages :=
              [{ messageInfo :=
                   { timestamp := answerTime, messageId := "answer", refToMessageId := some sentReferences.messageId } }] } }
    body := {} }

theorem strayEnvelope_admits : Envelope.codec.admits strayEnvelope := by
  simp [Envelope.codec, Header.codec, Security.codec, Messaging.codec, Body.codec, SignalMessage.codec,
    MessageInfo.codec, BinarySecurityToken.codec, Signature.codec, SignedInfo.codec, CanonicalizationMethod.codec,
    SignatureMethod.codec, SignatureValue.codec, KeyInfo.codec, SecurityTokenReference.codec, WsseReference.codec,
    stringText, strayEnvelope, straySignature, strayToken]

theorem strayEnvelope_readable {time : Datetime}
    (timed : Libraries.parseDatetime (strip (Libraries.isoformat answerTime)) = .ok time)
    (solid : strip (Libraries.isoformat answerTime) ≠ "") : Envelope.codec.readable strayEnvelope := by
  have stamped : (requiredText datetimeScalar "value").readable answerTime :=
    requiredText_readable.mpr ⟨solid, time, timed⟩
  simp [Envelope.codec, Header.codec, Security.codec, Messaging.codec, Body.codec, SignalMessage.codec,
    MessageInfo.codec, BinarySecurityToken.codec, Signature.codec, SignedInfo.codec, CanonicalizationMethod.codec,
    SignatureMethod.codec, SignatureValue.codec, KeyInfo.codec, SecurityTokenReference.codec, WsseReference.codec,
    stringText, strayEnvelope, straySignature, strayToken, stamped]
  refine ⟨⟨by decide, ⟨⟨?_, by decide⟩, ?_⟩, ?_⟩, by decide, ?_⟩
  · exact ⟨by decide, _, rfl⟩
  · exact .inl rfl
  · exact .inr ⟨true, boolScalar_rereads true⟩
  · exact .inl rfl

/-- The signature is read back as one that names the token. -/
theorem stray_carried {n : Located} {security security' : Security} (stray : security.signature = some straySignature)
    (read : Security.codec.reread n security security') :
    ∃ signature, security'.signature = some signature ∧ signatureTokenUri signature = some "#T" := by
  have signed := (Security.rereads read).2.2.2
  rw [stray] at signed
  generalize security'.signature = found at signed
  cases signed with
  | @some _ signature below =>
      obtain ⟨child, -, -, signatureRead⟩ := below
      refine ⟨signature, rfl, ?_⟩
      have uris := (Signature.rereads signatureRead).2.2
      rw [show straySignature.keyInfo.securityTokenReference.map (fun token => written token.reference.uri) =
        [some "#T"] by simp [straySignature, written]] at uris
      obtain ⟨token, rest, found, head, -⟩ := List.map_eq_cons_iff.mp uris
      simp [signatureTokenUri, found, head]

/-- The token escapes as what it is. -/
theorem stray_escapes {data : Bytes} {time : Datetime} (signer : Certificate)
    (parsed : Libraries.parseXml data = some (Envelope.codec.element (soap12 "Envelope") strayEnvelope))
    (timed : Libraries.parseDatetime (strip (Libraries.isoformat answerTime)) = .ok time)
    (solid : strip (Libraries.isoformat answerTime) ≠ "") :
    AS4Receipt.parse data signer = .error (.unsupportedSecurityTokenType "urn:other") := by
  obtain ⟨reads, kept⟩ := rereads_element Envelope.lawful strayEnvelope_admits
    (n := .root (Envelope.codec.element (soap12 "Envelope") strayEnvelope)) rfl
  obtain ⟨envelope, read⟩ := reads.mp (strayEnvelope_readable timed solid)
  obtain ⟨⟨header, -, -, headerRead⟩, -⟩ := Envelope.rereads (kept envelope read)
  obtain ⟨⟨security, -, -, securityRead⟩, messaging, -, -, messagingRead⟩ := Header.rereads headerRead
  have tokens := (Security.rereads securityRead).1
  obtain ⟨-, signals, -⟩ := Messaging.rereads messagingRead
  obtain ⟨signal, one⟩ : ∃ signal, envelope.header.messaging.signalMessages = [signal] :=
    List.length_eq_one_iff.mp signals.length_eq.symm
  have named : signal.messageInfo.refToMessageId = some (strip sentReferences.messageId) := by
    obtain ⟨_, same⟩ := (List.forall₂_cons.mp (one ▸ signals)).1
    obtain ⟨⟨_, info⟩, -⟩ := SignalMessage.rereads same
    exact (MessageInfo.rereads info).2.2
  have silent : signal.errors = [] := by
    obtain ⟨_, same⟩ := (List.forall₂_cons.mp (one ▸ signals)).1
    exact List.forall₂_nil_left_iff.mp (SignalMessage.rereads same).2.2
  obtain ⟨signature, carried, uri⟩ := stray_carried rfl securityRead
  have refused : embeddedCertificate envelope.header.security signature =
      .error (.unsupportedSecurityTokenType "urn:other") := by
    simp [embeddedCertificate, tokens, strayEnvelope, strayToken, uri, BinarySecurityToken.x509Certificate, x509V3,
      Except.map]
  have opened : readSignal data =
      .ok (Envelope.codec.element (soap12 "Envelope") strayEnvelope, envelope, some signal) := by
    simp only [readSignal, bind_ok, pure_ok, parseXml_ok, Prod.mk.injEq]
    exact ⟨_, parsed, envelope, by simp [Envelope.modelValidateEtree, read, Except.mapError], some signal,
      by simp [Messaging.signalMessage, one, Messaging.onlyOne], rfl, rfl, rfl⟩
  have solid : strip sentReferences.messageId ≠ "" := by decide
  simp [AS4Receipt.parse, opened, Except.mapError, requireReference, solid, AS4Receipt.error, AS4Receipt.errors,
    AS4Receipt.signalMessage, Messaging.signalMessage, one, Messaging.onlyOne, silent, named,
    verifyReceiptSignature, carried, refused, bind, Except.bind, pure, Except.pure]

omit [Libraries] in
/-- A signal whose token is of another type is not refused as a signal. -/
theorem stray_token_not_refused :
    letI := recorded []
    let document := Envelope.codec.element (soap12 "Envelope") strayEnvelope
    letI := recorded [document]
    ∃ raised, AS4Receipt.parse (plainText document) (receiverCredentials [document]).certificate = .error raised ∧
      ¬ Refusal raised := by
  intro document
  let _ := recorded [document]
  refine ⟨.unsupportedSecurityTokenType "urn:other", @stray_escapes _ _ answerTime _ ?_ ?_ ?_, ?_⟩
  · change [document].find? _ = _
    rw [List.find?_cons_of_pos (by simp)]
    rfl
  · decide
  · decide
  · simp [Refusal]

end StrayToken

end SignalRefusals
