import AS4.SignalReadings
import AS4.MessageReadings
import AS4.ReceivingRuns

/-!
A signal the library builds is one it reads: whatever the signal says, its envelope
is accepted from the party that built it, and read back as it was written.
-/

namespace BuiltSignals
open ElementTree ElementCodec ElementCodec.Codec FallibleSteps PythonData AS4Libraries AS4Errors SignatureModel
  MessagingModel EnvelopeModel Verification MessageParsing ReceiptVerification SignalBuilding RecordLaws RecordReadings
  WrittenIdentifiers SignedReadings SignalReadings WrittenEnvelope Serialisation RecordedExchange ReceivingRuns

variable [Libraries]

section Shape

/-- A reference of the local party over an element, from its canonical form. -/
def referenceTo (identifier : String) (form : Bytes) : DsigReference where
  transforms := ⟨[{ algorithm := some exclusiveC14N }]⟩
  digestMethod := ⟨xmlencSha256⟩
  digestValue := ⟨Base64.b64encode (Libraries.digest .sha256 form)⟩
  uri := some ("#" ++ identifier)

def signalInfo (references : AS4References) (messagingForm bodyForm : Bytes) : SignedInfo :=
  signedInfoOver [referenceTo references.messagingId messagingForm, referenceTo references.bodyId bodyForm]

def signalSignature (references : AS4References) (info : SignedInfo) (value : Bytes) : Signature where
  signedInfo := { info with etreeElement := some (Located.root (SignedInfo.codec.element (ds "SignedInfo") info)) }
  signatureValue := { value := some value }
  keyInfo :=
    { keyInfoId := some references.keyInfoId
      securityTokenReference :=
        [{ securityTokenReferenceId := some references.signatureSecurityTokenReferenceId
           reference := { uri := some ("#" ++ references.signatureBstId), valueType := some x509V3 } }] }
  signatureId := some references.signatureId

/-- The envelope of a signal, from what was signed and the signature. -/
def signalEnvelope (localParty : AS4InternalParty) (references : AS4References) (signal : SignalMessage)
    (info : SignedInfo) (value : Bytes) : Envelope where
  header :=
    { security :=
        { binarySecurityTokens := [getLocalBinarySecurityToken localParty references]
          signature := some (signalSignature references info value) }
      messaging := receiptMessaging references signal }
  body := { bodyId := some references.bodyId }

variable {localParty : AS4InternalParty} {references : AS4References} {signal : SignalMessage} {envelope : Envelope}

/-- What is signed, in canonical form, and the signature over it. -/
theorem signalSoapEnvelope_ok : signalSoapEnvelope localParty references signal = .ok envelope ↔
    ∃ messagingForm bodyForm infoForm value,
      Libraries.canonicalForm (.root (Messaging.codec.element (eb3 "Messaging") (receiptMessaging references signal))) [] =
          some messagingForm ∧
        Libraries.canonicalForm (.root (Body.codec.element (soap12 "Body") { bodyId := some references.bodyId })) [] =
          some bodyForm ∧
        Libraries.canonicalForm
          (.root (SignedInfo.codec.element (ds "SignedInfo") (signalInfo references messagingForm bodyForm))) [] =
          some infoForm ∧
        localParty.credentials.privateKey.sign infoForm = .ok value ∧
        signalEnvelope localParty references signal (signalInfo references messagingForm bodyForm) value = envelope := by
  simp only [signalSoapEnvelope, getMessagingDigestReference, getBodyDigestReference, getSignature, bind_ok, pure_ok,
    referenceForElement_ok]
  constructor
  · rintro ⟨_, ⟨messagingForm, messagingTaken, rfl⟩, _, ⟨bodyForm, bodyTaken, rfl⟩, _,
      ⟨infoForm, infoTaken, value, signed, rfl⟩, rfl⟩
    exact ⟨messagingForm, bodyForm, infoForm, value, messagingTaken, bodyTaken, canonicalize_ok.mp infoTaken, signed, rfl⟩
  · rintro ⟨messagingForm, bodyForm, infoForm, value, messagingTaken, bodyTaken, infoTaken, signed, rfl⟩
    exact ⟨_, ⟨messagingForm, messagingTaken, rfl⟩, _, ⟨bodyForm, bodyTaken, rfl⟩, _,
      ⟨infoForm, canonicalize_ok.mpr infoTaken, value, signed, rfl⟩, rfl⟩

end Shape

section Laws
variable {localParty : AS4InternalParty} {references : AS4References} {signal : SignalMessage}
  {messagingForm bodyForm value : Bytes}

theorem signalEnvelope_admits (admitted : SignalMessage.codec.admits signal) :
    Envelope.codec.admits
      (signalEnvelope localParty references signal (signalInfo references messagingForm bodyForm) value) := by
  simp [Envelope.codec, Header.codec, Security.codec, Messaging.codec, Body.codec, BinarySecurityToken.codec,
    Signature.codec, SignedInfo.codec, CanonicalizationMethod.codec, SignatureMethod.codec, SignatureValue.codec,
    KeyInfo.codec, SecurityTokenReference.codec, WsseReference.codec, DsigReference.codec, Transforms.codec,
    Transform.codec, DigestMethod.codec, DigestValue.codec, stringText, signalEnvelope, signalSignature, signalInfo,
    signedInfoOver, referenceTo, getLocalBinarySecurityToken, receiptMessaging, admitted]

theorem signalEnvelope_named (named : Named (SignalMessage.codec.element (eb3 "SignalMessage") signal)) :
    Named (Envelope.codec.element (soap12 "Envelope")
      (signalEnvelope localParty references signal (signalInfo references messagingForm bodyForm) value)) := by
  simp [named_written, Envelope.codec, Header.codec, Security.codec, Messaging.codec, Body.codec, BinarySecurityToken.codec,
    Signature.codec, SignedInfo.codec, CanonicalizationMethod.codec, SignatureMethod.codec, SignatureValue.codec,
    KeyInfo.codec, SecurityTokenReference.codec, WsseReference.codec, DsigReference.codec, Transforms.codec,
    Transform.codec, DigestMethod.codec, DigestValue.codec, stringText, signalEnvelope, signalSignature, signalInfo,
    signedInfoOver, referenceTo, getLocalBinarySecurityToken, receiptMessaging]
  exact (named_written _ _ _).mp named

/-- The ids of the references a signal carries, in document order. -/
def carriedIds (references : AS4References) : List String :=
  [references.signatureBstId, references.signatureId, references.keyInfoId,
    references.signatureSecurityTokenReferenceId, references.messagingId]

theorem signalEnvelope_identifiers (solid : ∀ id ∈ carriedIds references ++ [references.bodyId], id ≠ "") :
    identifiers (Envelope.codec.element (soap12 "Envelope")
        (signalEnvelope localParty references signal (signalInfo references messagingForm bodyForm) value)) =
      carriedIds references ++ identifiers (SignalMessage.codec.element (eb3 "SignalMessage") signal) ++
        [references.bodyId] := by
  simp only [carriedIds, List.mem_append, List.mem_cons, List.not_mem_nil, or_false, or_imp, forall_and, forall_eq] at solid
  have words : base64Binary ≠ "" ∧ x509V3 ≠ "" ∧ exclusiveC14N ≠ "" ∧ dsigRsaSha256 ≠ "" ∧ xmlencSha256 ≠ "" := by
    decide
  simp [identifiers_written, Envelope.codec, Header.codec, Security.codec, Messaging.codec, Body.codec,
    BinarySecurityToken.codec, Signature.codec, SignedInfo.codec, CanonicalizationMethod.codec, SignatureMethod.codec,
    SignatureValue.codec, KeyInfo.codec, SecurityTokenReference.codec, WsseReference.codec, DsigReference.codec,
    Transforms.codec, Transform.codec, DigestMethod.codec, DigestValue.codec, stringText, signalEnvelope, signalSignature,
    signalInfo, signedInfoOver, referenceTo, getLocalBinarySecurityToken, receiptMessaging, Scalar.string,
    Scalar.optional, solid, carriedIds, boolScalar, words, wsu, plain, QName.plain, soap12]

theorem signalEnvelope_readable (hashes : ∀ data, Libraries.digest .sha256 data ≠ [])
    (readable : SignalMessage.codec.readable signal)
    (certified : localParty.credentials.certificate.der ≠ [])
    (solid : ∀ id ∈ carriedIds references ++ [references.bodyId], id ≠ "") :
    Envelope.codec.readable
      (signalEnvelope localParty references signal (signalInfo references messagingForm bodyForm) value) := by
  simp only [carriedIds, List.mem_append, List.mem_cons, List.not_mem_nil, or_false, or_imp, forall_and, forall_eq] at solid
  have words : base64Binary ≠ "" ∧ x509V3 ≠ "" ∧ exclusiveC14N ≠ "" ∧ dsigRsaSha256 ≠ "" ∧ xmlencSha256 ≠ "" := by
    decide
  simp [Envelope.codec, Header.codec, Security.codec, Messaging.codec, Body.codec, BinarySecurityToken.codec,
    Signature.codec, SignedInfo.codec, CanonicalizationMethod.codec, SignatureMethod.codec, SignatureValue.codec,
    KeyInfo.codec, SecurityTokenReference.codec, WsseReference.codec, DsigReference.codec, Transforms.codec,
    Transform.codec, DigestMethod.codec, DigestValue.codec, stringText, signalEnvelope, signalSignature, signalInfo,
    signedInfoOver, referenceTo, getLocalBinarySecurityToken, receiptMessaging, readable, words, solid, certified,
    Base64.strip_b64encode, Base64.b64encode_eq_empty, signatureValue_readable, canonicalization_readable, flag_readable]
  exact ⟨⟨hashes _, hashes _⟩, .inr ⟨true, boolScalar_rereads true⟩⟩

end Laws

section Parsing
variable {localParty : AS4InternalParty} {references : AS4References} {signal : SignalMessage} {envelope : Envelope}

/-- The key of a party makes signatures its certificate verifies. -/
def KeyAgrees (localParty : AS4InternalParty) : Prop :=
  ∀ data value, localParty.credentials.privateKey.sign data = .ok value →
    value ≠ [] ∧ ∃ key, Libraries.publicKey localParty.credentials.certificate.der = some (.rsa key) ∧
      Libraries.rsaVerify key .sha256 data value = true

/-- The signal can be written and read, and nothing in its envelope has the id of
something else. -/
structure Legible (references : AS4References) (signal : SignalMessage) : Prop where
  admitted : SignalMessage.codec.admits signal
  readable : SignalMessage.codec.readable signal
  named : Named (SignalMessage.codec.element (eb3 "SignalMessage") signal)
  solid : ∀ id ∈ carriedIds references ++ [references.bodyId], id ≠ ""
  unique : (carriedIds references ++ identifiers (SignalMessage.codec.element (eb3 "SignalMessage") signal) ++
    [references.bodyId]).Nodup

theorem signal_signed (agrees : KeyAgrees localParty) (legible : Legible references signal)
    (made : signalSoapEnvelope localParty references signal = .ok envelope) :
    ∃ token signature messaging body,
      SignedSignal envelope localParty.credentials.certificate signal token signature messaging body := by
  obtain ⟨messagingForm, bodyForm, infoForm, value, messagingTaken, bodyTaken, infoTaken, signed, rfl⟩ :=
    signalSoapEnvelope_ok.mp made
  have solid := legible.solid
  simp only [carriedIds, List.mem_append, List.mem_cons, List.not_mem_nil, or_false, or_imp, forall_and, forall_eq] at solid
  obtain ⟨filled, key, keyed, verifies⟩ := agrees infoForm value signed
  refine ⟨getLocalBinarySecurityToken localParty references,
    signalSignature references (signalInfo references messagingForm bodyForm) value,
    (references.messagingId, Messaging.codec.element (eb3 "Messaging") (receiptMessaging references signal)),
    (references.bodyId, Body.codec.element (soap12 "Body") { bodyId := some references.bodyId }), ?_, rfl, rfl⟩
  refine ⟨by simp [findToken, signalEnvelope], rfl, rfl, rfl, rfl, rfl, rfl, ⟨[_, _], [], rfl, ?_, .nil⟩, ?_,
    key, infoForm, value, keyed, infoTaken, rfl, filled, verifies⟩
  · exact .cons (referenceForElement_ok.mpr ⟨_, messagingTaken, rfl⟩)
      (.cons (referenceForElement_ok.mpr ⟨_, bodyTaken, rfl⟩) .nil)
  · simp only [List.mem_cons, List.not_mem_nil, or_false, forall_eq_or_imp, forall_eq]
    exact ⟨messaging_carried rfl solid.1.2.2.2.2, body_carried rfl solid.2⟩

/-- A built signal is accepted from its builder, and names the message its signal
names. -/
theorem built_signal_parses (placeFree : PlaceFree) (hashes : ∀ data, Libraries.digest .sha256 data ≠ [])
    (agrees : KeyAgrees localParty) (certified : localParty.credentials.certificate.der ≠ [])
    (legible : Legible references signal) (made : signalSoapEnvelope localParty references signal = .ok envelope)
    {data : Bytes} (parsed : Libraries.parseXml data = some (Envelope.codec.element (soap12 "Envelope") envelope))
    (refers : signal.errors ≠ [] ∨ ∃ reference, signal.messageInfo.refToMessageId = some reference ∧ strip reference ≠ "") :
    ∃ envelope', Envelope.codec.reread (.root (Envelope.codec.element (soap12 "Envelope") envelope)) envelope envelope' ∧
      AS4Receipt.parse data localParty.credentials.certificate =
        .ok { soapEnvelope := some envelope', originalMessageId := signal.messageInfo.refToMessageId.map strip } := by
  obtain ⟨token, signature, messaging, body, whole⟩ := signal_signed agrees legible made
  obtain ⟨messagingForm, bodyForm, infoForm, value, -, -, -, -, rfl⟩ := signalSoapEnvelope_ok.mp made
  refine whole.parses placeFree parsed (signalEnvelope_admits legible.admitted)
    (signalEnvelope_readable hashes legible.readable certified legible.solid) (signalEnvelope_named legible.named) ?_ refers
  rw [signalEnvelope_identifiers legible.solid]
  exact legible.unique

end Parsing

section Answers

omit [Libraries] in
/-- The receiver's envelope around a signal. -/
def answerWith (signal : SignalMessage) : Envelope :=
  letI := signing []
  let info := signalInfo answerReferences
    (canonicalText (Messaging.codec.element (eb3 "Messaging") (receiptMessaging answerReferences signal)))
    (canonicalText (Body.codec.element (soap12 "Body") { bodyId := some answerReferences.bodyId }))
  signalEnvelope (answeringParty []) answerReferences signal info
    (0 :: canonicalText (SignedInfo.codec.element (ds "SignedInfo") info))

omit [Libraries] in
def answerDocument (signal : SignalMessage) : Node :=
  letI := signing []
  Envelope.codec.element (soap12 "Envelope") (answerWith signal)

omit [Libraries] in
theorem answerWith_made (documents : List Node) (signal : SignalMessage) :
    letI := signing documents
    signalSoapEnvelope (answeringParty documents) answerReferences signal = .ok (answerWith signal) := by
  let _ := signing documents
  exact signalSoapEnvelope_ok.mpr ⟨_, _, _, _, rfl, rfl, rfl, rfl, rfl⟩

omit [Libraries] in
theorem answerDocument_written (documents : List Node) (signal : SignalMessage) :
    letI := signing documents
    Envelope.codec.element (soap12 "Envelope") (answerWith signal) = answerDocument signal := rfl

omit [Libraries] in
theorem answeringParty_agrees (documents : List Node) :
    letI := signing documents
    KeyAgrees (answeringParty documents) := by
  intro data value signed
  obtain rfl : 0 :: data = value := Except.ok.inj signed
  exact ⟨List.cons_ne_nil _ _, _, rfl, beq_self_eq_true _⟩

omit [Libraries] in
/-- The receiver's own answers are accepted from it, where its signals are legible. -/
theorem answer_parses (documents : List Node) (signal : SignalMessage) {data : Bytes}
    (listed : documents.find? (fun document => plainText document == data) = some (answerDocument signal))
    (legible : letI := signing documents; Legible answerReferences signal)
    (refers : signal.errors ≠ [] ∨ ∃ reference, signal.messageInfo.refToMessageId = some reference ∧ strip reference ≠ "") :
    letI := signing documents
    ∃ envelope', Envelope.codec.reread (.root (answerDocument signal)) (answerWith signal) envelope' ∧
      AS4Receipt.parse data (answeringParty documents).credentials.certificate =
        .ok { soapEnvelope := some envelope', originalMessageId := signal.messageInfo.refToMessageId.map strip } :=
  @built_signal_parses (signing documents) (answeringParty documents) answerReferences signal (answerWith signal)
    (fun _ => rfl) (fun _ => List.cons_ne_nil _ _) (answeringParty_agrees documents) (List.cons_ne_nil _ _) legible
    (answerWith_made documents signal) data listed refers

omit [Libraries] in
theorem answer_listed (signal : SignalMessage) :
    [answerDocument signal].find? (fun document => plainText document == plainText (answerDocument signal)) =
      some (answerDocument signal) := List.find?_cons_of_pos (by simp)

end Answers

end BuiltSignals
