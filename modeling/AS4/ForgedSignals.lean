import AS4.SignatureWrapping
import AS4.ExchangeInvariants

/-!
Which signals count as signed by the peer. A signal is accepted when some element with
the tag of a messaging header is signed; what it says is read from the messaging header
in the SOAP header. An exchange cannot be moved by a signal its peer did not sign, as
long as the signals it takes in have their own messaging header signed.
-/

namespace ForgedSignals
open ElementTree ElementCodec ElementCodec.Codec FallibleSteps PythonData AS4Libraries AS4Errors SignatureModel RecordLaws
  RecordReadings MessagingModel EnvelopeModel Verification MessageParsing ReceiptVerification MessageBuilding Exchange
  StateMachine ExchangeInvariants SignatureWrapping Serialisation RecordedExchange WrittenEnvelope WrittenIdentifiers
  SignedReadings SignalReadings MessageReadings SignalBuilding ReceivingRuns RestoredSenders

variable [Libraries]

section Reading

/-- A signal that is read from a messaging header: where it stands and what verified. -/
structure SignalFrom (data : Bytes) (document : Node) (envelope : Envelope) (signature : Signature)
    (messaging : Located) : Prop where
  parsed : Libraries.parseXml data = some document
  validated : Envelope.codec.validate (.root document) = .ok envelope
  carried : envelope.header.security.signature = some signature
  readAt : envelope.header.messaging.etreeElement = some messaging

/-- The messaging header a signal is read from is named by its own signed info. -/
def NamesItsMessaging (data : Bytes) : Prop :=
  ∀ document envelope signature messaging, SignalFrom data document envelope signature messaging →
    SignatureWrapping.Named signature messaging

/-- The messaging header a signal is read from is the target of a reference that
matches, in a signed info that verified under this certificate. -/
def ReadsSigned (certificate : Certificate) (data : Bytes) : Prop :=
  ∃ document envelope signature messaging, SignalFrom data document envelope signature messaging ∧
    verify signature certificate = .ok () ∧ SignedTarget signature messaging

theorem verifyReceiptReference_ok {index : Dict String Located} {reference : DsigReference}
    (succeeded : verifyReceiptReference index reference = .ok ()) :
    ∃ element, target index reference = some element ∧ digestMatches reference element = .ok true := by
  simp only [verifyReceiptReference] at succeeded
  split at succeeded
  · exact absurd succeeded refuse_ne
  · rename_i element found
    simp only [bind_ok, mapError_ok] at succeeded
    obtain ⟨matched, digest, remaining⟩ := succeeded
    cases matched with
    | true => exact ⟨element, found, digest⟩
    | false => exact absurd remaining (by simp [refuse])

/-- What the verification of a signal checked. -/
theorem verifyReceiptSignature_ok {envelope : Envelope} {document : Node} {certificate : Certificate}
    (verified : verifyReceiptSignature envelope (.root document) certificate = .ok ()) :
    ∃ signature index, envelope.header.security.signature = some signature ∧ verify signature certificate = .ok () ∧
      indexElementsById (.root document) = .ok index ∧
        ∀ reference ∈ signature.signedInfo.references, verifyReceiptReference index reference = .ok () := by
  unfold verifyReceiptSignature at verified
  split at verified
  · exact absurd verified refuse_ne
  · rename_i signature carried
    simp only [bind_ok, mapError_ok] at verified
    obtain ⟨_, -, _, -, _, valid, index, indexed, _, -, checked⟩ := verified
    exact ⟨signature, index, carried, valid, indexed, each_ok.mp checked⟩

variable {data : Bytes} {certificate : Certificate} {receipt : AS4Receipt}

/-- An accepted signal was read from one messaging header of its document. -/
theorem parse_readAt (accepted : AS4Receipt.parse data certificate = .ok receipt) :
    ∃ document envelope signature messaging, SignalFrom data document envelope signature messaging ∧
      messaging.document = document ∧ receipt.soapEnvelope = some envelope ∧ verify signature certificate = .ok () ∧
        ∃ index, indexElementsById (.root document) = .ok index ∧
          ∀ reference ∈ signature.signedInfo.references, verifyReceiptReference index reference = .ok () := by
  obtain ⟨document, envelope, signal, parsed, validated, -, rfl, -, verified⟩ := parse_receipt_ok accepted
  obtain ⟨signature, index, carried, valid, indexed, checked⟩ := verifyReceiptSignature_ok verified
  obtain ⟨-, ⟨_, header, headerFound, headerRead⟩, -⟩ := Envelope.reads validated
  obtain ⟨-, _, messaging, messagingFound, messagingRead⟩ := Header.reads headerRead
  refine ⟨document, envelope, signature, messaging, ⟨parsed, validated, carried, (Messaging.reads messagingRead).1⟩, ?_, rfl,
    valid, index, indexed, checked⟩
  exact (lookupChildren_document messagingFound).trans (lookupChildren_document headerFound)

/-- An accepted signal says what its peer signed exactly when its signed info names the
messaging header it was read from. -/
theorem reads_signed_iff (accepted : AS4Receipt.parse data certificate = .ok receipt) :
    ReadsSigned certificate data ↔ NamesItsMessaging data := by
  obtain ⟨document, envelope, signature, messaging, source, inside, -, valid, index, indexed, checked⟩ := parse_readAt accepted
  have only : ∀ {document' envelope' signature' messaging'}, SignalFrom data document' envelope' signature' messaging' →
      signature' = signature ∧ messaging' = messaging := by
    intro document' envelope' signature' messaging' other
    obtain rfl := Option.some.inj (source.parsed.symm.trans other.parsed)
    obtain rfl := Except.ok.inj (source.validated.symm.trans other.validated)
    exact ⟨Option.some.inj (other.carried.symm.trans source.carried), Option.some.inj (other.readAt.symm.trans source.readAt)⟩
  constructor
  · rintro ⟨_, _, _, _, here, -, reference, member, toElement, named, -⟩ _ _ _ _ other
    obtain ⟨rfl, rfl⟩ := only here
    obtain ⟨rfl, rfl⟩ := only other
    exact ⟨reference, member, toElement, named⟩
  · intro names
    obtain ⟨reference, member, toElement, named⟩ := names _ _ _ _ source
    refine ⟨document, envelope, signature, messaging, source, valid, reference, member, toElement, named, ?_⟩
    obtain ⟨element, found, matched⟩ := verifyReceiptReference_ok (checked reference member)
    obtain rfl : messaging = element := index_unique indexed ⟨inside, named⟩ ((index_get indexed).mp found)
    exact matched

end Reading

section Exchanges

/-- The peer signed a messaging header that names this message. -/
def SignedFor (certificate : Certificate) (messageId : String) : Prop :=
  ∃ data document envelope signature messaging signal, SignalFrom data document envelope signature messaging ∧
    verify signature certificate = .ok () ∧ SignedTarget signature messaging ∧
      envelope.header.messaging.signalMessages = [signal] ∧ signal.messageInfo.refToMessageId = some messageId

/-- The exchange was acknowledged or rejected only by what its peer signed. -/
def NotForged (exchange : AS4SendingExchange) : Prop :=
  exchange.state = .acknowledged ∨ exchange.state = .rejected →
    SignedFor exchange.remoteParty.credentials.certificate exchange.messageId

/-- The signals that are taken in have their own messaging header named. -/
def TakesInNamed : Operation → AS4SendingExchange → Prop
  | .receiveSignal signalData, _ => NamesItsMessaging signalData
  | _, _ => True

theorem signedFor_named {certificate : Certificate} {messageId : String} (signed : SignedFor certificate messageId) :
    messageId ≠ "" := by
  obtain ⟨_, _, envelope, _, _, signal, source, -, -, only, names⟩ := signed
  obtain ⟨-, ⟨_, header, -, headerRead⟩, -⟩ := Envelope.reads source.validated
  obtain ⟨-, _, messaging, -, messagingRead⟩ := Header.reads headerRead
  have signals := (Messaging.reads messagingRead).2.1
  rw [only] at signals
  obtain ⟨child, -, signalRead⟩ := forall₂_source signals (List.mem_singleton_self signal)
  obtain ⟨_, info, -, infoRead⟩ := signal_messageInfo signalRead
  rintro rfl
  exact messageInfo_ref infoRead names

theorem judged_signed {exchange : AS4SendingExchange} {signalData : Bytes} {receipt : AS4Receipt}
    (read : AS4Receipt.parse signalData exchange.remoteParty.credentials.certificate = .ok receipt)
    (named : receipt.originalMessageId = some exchange.messageId) (names : NamesItsMessaging signalData) :
    SignedFor exchange.remoteParty.credentials.certificate exchange.messageId := by
  obtain ⟨document, envelope, signature, messaging, source, valid, signed⟩ := (reads_signed_iff read).mpr names
  obtain ⟨_, _, signal, parsed, validated, only, rfl, -⟩ := parse_receipt_ok read
  obtain rfl := Option.some.inj (source.parsed.symm.trans parsed)
  obtain rfl := Except.ok.inj (source.validated.symm.trans validated)
  obtain ⟨signal, rfl, refers⟩ := Option.bind_eq_some_iff.mp named
  exact ⟨signalData, document, envelope, signature, messaging, signal, source, valid, signed, only, refers⟩

/-- One call keeps an exchange from being moved by what its peer did not sign. -/
theorem step_notForged (operation : Operation) (exchange : AS4SendingExchange) (allowed : TakesInNamed operation exchange)
    (holds : NotForged exchange) : NotForged (step operation exchange) := by
  cases operation with
  | build builder draws =>
      rcases build_cases builder draws exchange with ⟨-, identifiers, after⟩ | ⟨_, message, _, _, _, after⟩
      · rw [after]
        exact holds
      · rw [after]
        intro state
        simp at state
  | markSent =>
      intro state
      simp [step, markSent] at state
  | receiveSignal signalData =>
      rcases receiveSignal_cases signalData exchange with ⟨-, after⟩ | ⟨receipt, state, unproven, judged, after⟩
      · rw [after]
        exact holds
      · rw [after]
        obtain ⟨read, named, -⟩ := judgeSignal_ok.mp judged
        exact fun _ => judged_signed read named allowed
  | restore localParty =>
      rcases restore_cases localParty exchange with after | ⟨message, receipt, -, -, after⟩
      · rw [after]
        exact holds
      · rw [after]
        intro state
        have signed := holds state
        -- The id that was signed is not empty, so restoring does not put another in its place.
        simpa [defaultMessageIds, signedFor_named signed] using signed

/-- Signals say what the peer signed just when they name their own messaging header;
and along every run that takes in only such signals, an exchange is acknowledged or
rejected only by what its peer signed about its message. -/
theorem no_forged_acknowledgement (localParty : AS4InternalParty) (remoteParty : AS4ExternalParty)
    (identifiers : AS4References) (required : Option (List ComparableReferenceFields)) (messageId messagingId : String)
    (operations : List Operation)
    (taken : Guarded step TakesInNamed (AS4SendingExchange.new localParty remoteParty identifiers required messageId messagingId)
      operations) :
    (∀ data certificate receipt, AS4Receipt.parse data certificate = .ok receipt →
      (ReadsSigned certificate data ↔ NamesItsMessaging data)) ∧
    ∀ first, first <+: operations → NotForged
      (run step (AS4SendingExchange.new localParty remoteParty identifiers required messageId messagingId) first) := by
  refine ⟨fun _ _ _ accepted => reads_signed_iff accepted, fun first reached => ?_⟩
  refine guarded_invariant step_notForged (guarded_initial reached taken) ?_
  intro state
  simp [AS4SendingExchange.new, defaultMessageIds] at state

end Exchanges

section Written
variable {envelope : Envelope} {certificate : Certificate} {token : BinarySecurityToken} {signature : Signature}
  {elements : List (String × Node)} {index : Dict String Located}

/-- A written signal is read from the messaging header that was written, and under the
signature that was made. -/
theorem written_source {data : Bytes} {document' : Node} {envelope' : Envelope} {signature' : Signature}
    {messaging' : Located} (placeFree : PlaceFree) (source : SignalFrom data document' envelope' signature' messaging')
    (written : document' = Envelope.codec.element (soap12 "Envelope") envelope)
    (admitted : Envelope.codec.admits envelope)
    (signed : Signed (Envelope.codec.element (soap12 "Envelope") envelope) envelope.header.security certificate token
      signature elements [])
    (indexed : indexElementsById (.root document') = .ok index) :
    messaging'.document = document' ∧
      messaging'.node = Messaging.codec.element (eb3 "Messaging") envelope.header.messaging ∧
        List.Forall₂ (MatchesElement index) elements signature'.signedInfo.references := by
  subst written
  obtain ⟨-, kept⟩ := rereads_element Envelope.lawful admitted
    (n := .root (Envelope.codec.element (soap12 "Envelope") envelope)) rfl
  obtain ⟨⟨header, below, -, headerRead⟩, -⟩ := Envelope.rereads (kept envelope' source.validated)
  obtain ⟨⟨security, -, -, securityRead⟩, messaging, belowHeader, node, messagingRead⟩ := Header.rereads headerRead
  obtain ⟨proven, proves⟩ := signed.proves placeFree securityRead indexed
  obtain rfl : signature' = proven := Option.some.inj (source.carried.symm.trans proves.signed)
  obtain rfl : messaging' = messaging := Option.some.inj (source.readAt.symm.trans (Messaging.rereads messagingRead).1)
  refine ⟨?_, node, ?_⟩
  · exact (Located.mem_children.mp belowHeader).1.trans (Located.mem_children.mp below).1
  · obtain ⟨overElements, overPayloads, listed, each, none⟩ := proves.references
    obtain rfl := List.forall₂_nil_left_iff.mp none
    rwa [listed, List.append_nil]

end Written

section Examples

/-- The signal with an empty X509Data names its own messaging header. -/
theorem emptyKeyData_names {signer : Certificate} {token : BinarySecurityToken} {signature : Signature} {signal : SignalMessage}
    {body : String × Node} {data : Bytes} (placeFree : PlaceFree)
    (whole : SignedSignal (emptyKeyDataEnvelope signer.der) signer signal token signature
      ("M", Messaging.codec.element (eb3 "Messaging") emptyKeyDataMessaging) body)
    (parsed : Libraries.parseXml data = some (Envelope.codec.element (soap12 "Envelope") (emptyKeyDataEnvelope signer.der))) :
    NamesItsMessaging data := by
  intro document envelope signature' messaging source
  obtain rfl := Option.some.inj (source.parsed.symm.trans parsed)
  obtain ⟨index, indexed⟩ := index_ok_iff.mpr ⟨@emptyKeyData_named _ signer.der, emptyKeyData_unique⟩
  obtain ⟨inside, node, each⟩ := written_source placeFree source rfl emptyKeyData_admits whole.signed indexed
  obtain ⟨reference, rest, ⟨n, toElement, found, same, -⟩, -, listed⟩ := List.forall₂_cons_left_iff.mp each
  refine ⟨reference, by simp [listed], toElement, ?_⟩
  have there := ((index_get indexed).mp found).2
  have alike : n.node = messaging.node := same.trans node.symm
  rwa [idsOf_node, alike, ← idsOf_node] at there

omit [Libraries] in
/-- That signal leaves the exchange where its peer put it. -/
theorem answer_not_forged :
    letI := signing []
    let document := Envelope.codec.element (soap12 "Envelope") (emptyKeyDataEnvelope [48, 1])
    letI := signing [document]
    let localParty := answeringParty [document]
    NotForged (run step (AS4SendingExchange.new localParty
        { identity := localParty.identity, credentials := ⟨localParty.credentials.certificate⟩ } sentReferences none "" "")
      [.receiveSignal (plainText document)]) := by
  intro document
  let _ := signing [document]
  intro localParty
  have parsed : Libraries.parseXml (plainText document) = some document := by
    change [document].find? _ = _
    rw [List.find?_cons_of_pos (by simp)]
  have placeFree : @PlaceFree (signing [document]) := fun _ => rfl
  have names := emptyKeyData_names placeFree (emptyKeyData_signed [document] ⟨[48, 1], rfl⟩) parsed
  exact (no_forged_acknowledgement localParty _ sentReferences none "" "" [.receiveSignal (plainText document)]
    ⟨names, trivial⟩).2 _ (List.prefix_refl _)

omit [Libraries] in
/-- A signal that answers a message with an error, whose signature is over another
messaging header. -/
def forgedMessaging : Messaging where
  signalMessages :=
    [{ messageInfo := { timestamp := answerTime, messageId := "answer", refToMessageId := some sentReferences.messageId }
       errors := [{ errorCode := "EBMS:0004", severity := "failure" }] }]
  messagingId := some "M"
  mustUnderstand := some true

omit [Libraries] in
def forgedInfo : SignedInfo :=
  signedInfoOver [referenceOver ("#" ++ "X") strayMessaging,
    referenceOver ("#" ++ "B") (Body.codec.element (soap12 "Body") wrappingBody)]

omit [Libraries] in
def forgedSignature : Signature :=
  letI := signing []
  { signedInfo := forgedInfo
    signatureValue := { value := some (0 :: canonicalText (SignedInfo.codec.element (ds "SignedInfo") forgedInfo)) }
    keyInfo := { securityTokenReference := [{ reference := { uri := some "#T" } }] } }

omit [Libraries] in
def forgedEnvelope (signer : Bytes) : Envelope where
  header :=
    { security := { binarySecurityTokens := [emptyKeyDataToken signer], signature := some forgedSignature }
      messaging := forgedMessaging }
  body := wrappingBody

theorem forged_admits {signer : Bytes} : Envelope.codec.admits (forgedEnvelope signer) := by
  simp [Envelope.codec, Header.codec, Security.codec, Messaging.codec, SignalMessage.codec,
    MessageInfo.codec, BinarySecurityToken.codec, Signature.codec, SignedInfo.codec, CanonicalizationMethod.codec,
    SignatureMethod.codec, SignatureValue.codec, KeyInfo.codec, SecurityTokenReference.codec, WsseReference.codec,
    DsigReference.codec, Transforms.codec, Transform.codec, DigestMethod.codec, DigestValue.codec, Error.codec,
    stringText, forgedEnvelope, forgedSignature, emptyKeyDataToken, forgedInfo, signedInfoOver,
    referenceOver, forgedMessaging, wrappingBody_admits]

theorem forged_named {signer : Bytes} :
    WrittenIdentifiers.Named (Envelope.codec.element (soap12 "Envelope") (forgedEnvelope signer)) := by
  simp [named_written, Envelope.codec, Header.codec, Security.codec, Messaging.codec, SignalMessage.codec,
    MessageInfo.codec, BinarySecurityToken.codec, Signature.codec, SignedInfo.codec, CanonicalizationMethod.codec,
    SignatureMethod.codec, SignatureValue.codec, KeyInfo.codec, SecurityTokenReference.codec, WsseReference.codec,
    DsigReference.codec, Transforms.codec, Transform.codec, DigestMethod.codec, DigestValue.codec, Error.codec,
    stringText, forgedEnvelope, forgedSignature, emptyKeyDataToken, forgedInfo, signedInfoOver,
    referenceOver, forgedMessaging]
  exact (named_written _ _ _).mp wrappingBody_named

theorem forged_unique {signer : Bytes} :
    (identifiers (Envelope.codec.element (soap12 "Envelope") (forgedEnvelope signer))).Nodup := by
  simp [identifiers_written, Envelope.codec, Header.codec, Security.codec, Messaging.codec, Body.codec, SignalMessage.codec,
    MessageInfo.codec, BinarySecurityToken.codec, Signature.codec, SignedInfo.codec, CanonicalizationMethod.codec,
    SignatureMethod.codec, SignatureValue.codec, KeyInfo.codec, SecurityTokenReference.codec, WsseReference.codec,
    DsigReference.codec, Transforms.codec, Transform.codec, DigestMethod.codec, DigestValue.codec, Error.codec,
    stringText, forgedEnvelope, forgedSignature, emptyKeyDataToken, forgedInfo, signedInfoOver,
    referenceOver, forgedMessaging, wrappingBody, strayMessaging, Scalar.string, Scalar.optional]
  decide

theorem forged_readable {signer : Bytes} (solid : signer ≠ []) (stamps : Stamps answerTime) :
    Envelope.codec.readable (forgedEnvelope signer) := by
  have stamped : (requiredText datetimeScalar "value").readable answerTime := requiredText_readable.mpr stamps
  have words : base64Binary ≠ "" ∧ x509V3 ≠ "" ∧ exclusiveC14N ≠ "" ∧ dsigRsaSha256 ≠ "" ∧ xmlencSha256 ≠ "" := by
    decide
  simp [Envelope.codec, Header.codec, Security.codec, Messaging.codec, SignalMessage.codec,
    MessageInfo.codec, BinarySecurityToken.codec, Signature.codec, SignedInfo.codec, CanonicalizationMethod.codec,
    SignatureMethod.codec, SignatureValue.codec, KeyInfo.codec, SecurityTokenReference.codec, WsseReference.codec,
    DsigReference.codec, Transforms.codec, Transform.codec, DigestMethod.codec, DigestValue.codec, Error.codec,
    stringText, forgedEnvelope, forgedSignature, emptyKeyDataToken, forgedInfo, signedInfoOver,
    referenceOver, forgedMessaging, stamped, words, Base64.strip_b64encode, Base64.b64encode_eq_empty, solid,
    signatureValue_readable, canonicalization_readable, flag_readable, wrappingBody_readable]
  exact ⟨.inr ⟨true, boolScalar_rereads true⟩, by decide, by decide⟩

omit [Libraries] in
theorem forged_signed (documents : List Node) (signer : @Certificate (signing documents)) :
    letI := signing documents
    SignedSignal (forgedEnvelope signer.der) signer
      { messageInfo := { timestamp := answerTime, messageId := "answer", refToMessageId := some sentReferences.messageId }
        errors := [{ errorCode := "EBMS:0004", severity := "failure" }] }
      (emptyKeyDataToken signer.der) forgedSignature
      ("X", strayMessaging) ("B", Body.codec.element (soap12 "Body") wrappingBody) := by
  let _ := signing documents
  refine ⟨⟨by simp [findToken, forgedEnvelope], rfl, rfl, rfl, rfl, rfl, rfl, ⟨[_, _], [], rfl, ?_, .nil⟩, ?_, ⟨signer.der⟩, _, _, rfl,
    rfl, rfl, by simp, beq_self_eq_true _⟩, rfl, rfl⟩
  · exact .cons (referenceForElement_ok.mpr ⟨_, rfl, rfl⟩) (.cons (referenceForElement_ok.mpr ⟨_, rfl, rfl⟩) .nil)
  · simp only [List.mem_cons, List.not_mem_nil, or_false, forall_eq_or_imp, forall_eq]
    refine ⟨carries_of_subtree ?_ (by decide), body_carried rfl (by decide)⟩
    exact subtrees_child Envelope.codec _ (forgedEnvelope signer.der) (List.mem_cons_of_mem _ List.mem_cons_self) stray_inBody

/-- No signed info of the forged signal is over its own messaging header. -/
theorem forged_unsigned {signer : Certificate} {token : BinarySecurityToken} {data : Bytes} {envelope : Envelope}
    {signature signature' : Signature} {messaging : Located} (placeFree : PlaceFree)
    (source : SignalFrom data (Envelope.codec.element (soap12 "Envelope") (forgedEnvelope signer.der)) envelope signature
      messaging)
    (signed : Signed (Envelope.codec.element (soap12 "Envelope") (forgedEnvelope signer.der))
      (forgedEnvelope signer.der).header.security signer token signature'
      [("X", strayMessaging), ("B", Body.codec.element (soap12 "Body") wrappingBody)] []) :
    ¬ SignedTarget signature messaging := by
  obtain ⟨index, indexed⟩ := index_ok_iff.mpr ⟨@forged_named _ signer.der, forged_unique⟩
  obtain ⟨inside, node, each⟩ := written_source placeFree source rfl forged_admits signed indexed
  rintro ⟨reference, member, -, carried, -⟩
  obtain ⟨entry, listed, n, -, found, same, -⟩ := forall₂_source each member
  obtain rfl : messaging = n := index_unique indexed ⟨inside, carried⟩ ((index_get indexed).mp found)
  have identified : identifiersOf messaging.node = ["M"] := by
    rw [node]
    rfl
  rw [same] at identified
  simp only [List.mem_cons, List.not_mem_nil, or_false] at listed
  rcases listed with rfl | rfl <;> exact absurd identified (by decide)

/-- An exchange that takes in the forged signal counts its message as rejected, and its
peer has signed nothing about that message. -/
theorem forged_moves {signer : Certificate} {token : BinarySecurityToken} {signature : Signature} {signal : SignalMessage}
    {data : Bytes} {exchange : AS4SendingExchange} (placeFree : PlaceFree) (stamps : Stamps answerTime) (solid : signer.der ≠ [])
    (whole : SignedSignal (forgedEnvelope signer.der) signer signal token signature ("X", strayMessaging)
      ("B", Body.codec.element (soap12 "Body") wrappingBody))
    (parsed : Libraries.parseXml data = some (Envelope.codec.element (soap12 "Envelope") (forgedEnvelope signer.der)))
    (alone : ∀ other document, Libraries.parseXml other = some document →
      document = Envelope.codec.element (soap12 "Envelope") (forgedEnvelope signer.der))
    (identified : exchange.messageId = sentReferences.messageId)
    (remote : exchange.remoteParty.credentials.certificate = signer) :
    (run step exchange [.receiveSignal data]).state = .rejected ∧ ¬ NotForged (run step exchange [.receiveSignal data]) := by
  obtain rfl := List.singleton_inj.mp whole.signals
  obtain ⟨envelope, reread, accepted⟩ := whole.parses placeFree parsed forged_admits (forged_readable solid stamps)
    forged_named forged_unique (.inl (List.cons_ne_nil _ _))
  have clean : strip sentReferences.messageId = sentReferences.messageId := by decide
  simp only [Option.map_some, clean] at accepted
  obtain ⟨⟨header, -, -, headerRead⟩, -⟩ := Envelope.rereads reread
  obtain ⟨-, _, -, -, messagingRead⟩ := Header.rereads headerRead
  obtain ⟨signal', one, _, signalRead⟩ := mem_single (Messaging.rereads messagingRead).2.1
  obtain ⟨-, -, errorsRead⟩ := SignalMessage.rereads signalRead
  obtain ⟨error, rest, here⟩ := List.exists_cons_of_length_pos (show 0 < signal'.errors.length by
    rw [← errorsRead.length_eq]
    decide)
  have faulty : AS4Receipt.error { soapEnvelope := some envelope, originalMessageId := some sentReferences.messageId } =
      .ok (some error) := by
    simp [AS4Receipt.error, AS4Receipt.errors, AS4Receipt.signalMessage, Messaging.signalMessage, one, Messaging.onlyOne,
      here, bind, Except.bind, pure, Except.pure]
  have judged := judgeSignal_ok.mpr ⟨remote ▸ accepted, congrArg some identified.symm,
    (by simp [verdict, faulty, bind, Except.bind, pure, Except.pure] : verdict exchange _ = .ok (.rejected, none))⟩
  have after : run step exchange [.receiveSignal data] =
      { exchange with
        receipt := some { soapEnvelope := some envelope, originalMessageId := some sentReferences.messageId }
        state := .rejected } := by
    simp only [run, step, receiveSignal, judged, leftBehind]
  rw [after]
  refine ⟨rfl, fun holds => ?_⟩
  obtain ⟨other, document, envelope', signature', messaging, _, source, -, signed, -⟩ := holds (.inr rfl)
  obtain rfl := alone other document source.parsed
  exact forged_unsigned placeFree source whole.signed signed

omit [Libraries] in
/-- A signal whose signature is over another messaging header than its own moves the
exchange. -/
theorem unsigned_rejection :
    letI := signing []
    let document := Envelope.codec.element (soap12 "Envelope") (forgedEnvelope [48, 1])
    letI := signing [document]
    let localParty := answeringParty [document]
    let exchange := AS4SendingExchange.new localParty
      { identity := localParty.identity, credentials := ⟨localParty.credentials.certificate⟩ } sentReferences none
    (run step exchange [.receiveSignal (plainText document)]).state = .rejected ∧
      ¬ NotForged (run step exchange [.receiveSignal (plainText document)]) := by
  intro document
  let _ := signing [document]
  intro localParty exchange
  have stamps : Stamps answerTime := ⟨by decide, answerTime, by decide⟩
  have parsed : Libraries.parseXml (plainText document) = some document := by
    change [document].find? _ = _
    rw [List.find?_cons_of_pos (by simp)]
  have placeFree : @PlaceFree (signing [document]) := fun _ => rfl
  have alone : ∀ other document', Libraries.parseXml other = some document' → document' = document := by
    intro other document' found
    exact List.mem_singleton.mp (List.mem_of_find?_eq_some (show [document].find? _ = some document' from found))
  have identified : exchange.messageId = sentReferences.messageId := by
    simp [exchange, AS4SendingExchange.new, defaultMessageIds]
  apply forged_moves placeFree stamps (by decide) (forged_signed [document] ⟨[48, 1], rfl⟩) parsed alone identified
  rfl

end Examples

end ForgedSignals
