import AS4.RestoredReceivers
import AS4.SignalReadings

/-!
A sending exchange that is stored and restored at any point. Everything it says and
does afterwards comes from fields that are stored, and from a message that was built
here, which loses nothing. Only a signal taken in from outside may fail to load again.
-/

namespace RestoredSenders
open ElementTree ElementCodec ElementCodec.Codec FallibleSteps PythonData AS4Libraries AS4Errors SignatureModel
  EncryptionModel MessagingModel EnvelopeModel Verification MessageParsing ReceiptVerification SignalBuilding
  MessageBuilding Exchange StateMachine ExchangeInvariants RecordReloads RecordedExchange Serialisation WrittenEnvelope
  RecordReadings SignedReadings SignalReadings WrittenIdentifiers ReceivingRuns RestoredReceivers

variable [Libraries]

section Calls

/-- The calls of a program that sends with the Peppol profile. -/
inductive SendingCall where
  | build (payload : Bytes) (args : PeppolAS4MessageBuilderArgs) (draws : Draws)
  | markSent
  | receiveSignal (signalData : Bytes)
  | restore (localParty : AS4InternalParty)

def SendingCall.operation : SendingCall → Operation
  | .build payload args draws =>
      .build (fun localParty remoteParty => buildMessage payload localParty remoteParty args draws) draws
  | .markSent => .markSent
  | .receiveSignal signalData => .receiveSignal signalData
  | .restore localParty => .restore localParty

def sendingStep (call : SendingCall) (exchange : AS4SendingExchange) : AS4SendingExchange := step call.operation exchange

end Calls

section Messages

theorem referenceForBytes_bare {uri transform : String} {content : Bytes} {reference : DsigReference}
    (made : referenceForBytes uri content transform = .ok reference) : DsigReference.codec.bare reference := by
  simp only [referenceForBytes, bind_ok, pure_ok] at made
  obtain ⟨digest, -, rfl⟩ := made
  simp [DsigReference.codec, Transforms.codec, Transform.codec, DigestMethod.codec, DigestValue.codec, stringText]

theorem getPayloadDigestReferences_bare {payloads : Dict String Bytes} {references : List DsigReference}
    (made : getPayloadDigestReferences payloads = .ok references) :
    ∀ reference ∈ references, DsigReference.codec.bare reference := by
  induction payloads generalizing references with
  | nil =>
      obtain rfl := Except.ok.inj made
      simp
  | cons payload rest ih =>
      simp only [getPayloadDigestReferences, bind_ok, pure_ok] at made
      obtain ⟨first, madeFirst, others, madeOthers, rfl⟩ := made
      simpa [referenceForBytes_bare madeFirst] using ih madeOthers

omit [Libraries] in
theorem dataTransform_settled (algorithm : Option String) :
    Transform.codec.storable { algorithm := algorithm } ∧ Transform.codec.bare { algorithm := algorithm } := by
  simp [Transform.codec]

theorem getEncryptedKey_settled (references : AS4References) (encryptedSessionKey : Bytes) :
    EncryptedKey.codec.storable (getEncryptedKey references encryptedSessionKey) ∧
      EncryptedKey.codec.bare (getEncryptedKey references encryptedSessionKey) := by
  simp [EncryptedKey.codec, EncryptedType.codec, EncryptionMethod.codec, DigestMethod.codec, MGF.codec, KeyInfo.codec,
    SecurityTokenReference.codec, WsseReference.codec, CipherData.codec, CipherValue.codec, ReferenceList.codec,
    XencReference.codec, getEncryptedKey, keyInfoFor]
  rintro value attachmentId dataId - rfl
  rfl

theorem encryptedDataFor_settled (encryptedKeyId attachmentId encryptedDataId : String) :
    EncryptedType.codec.storable (encryptedDataFor encryptedKeyId attachmentId encryptedDataId) ∧
      EncryptedType.codec.bare (encryptedDataFor encryptedKeyId attachmentId encryptedDataId) := by
  simp [EncryptedType.codec, EncryptionMethod.codec, KeyInfo.codec, SecurityTokenReference.codec, WsseReference.codec,
    CipherData.codec, CipherReference.codec, XencTransforms.codec, encryptedDataFor, keyInfoFor, dataTransform_settled]

omit [Libraries] in
theorem partFor_settled (attachmentId : String) :
    PartInfo.codec.storable (partFor attachmentId) ∧ PartInfo.codec.bare (partFor attachmentId) := by
  simp [PartInfo.codec, PartProperties.codec, Property.codec, stringText, partFor]

theorem getUserMessage_settled (localParty : AS4InternalParty) (remoteParty : AS4ExternalParty)
    (args : PeppolAS4MessageBuilderArgs) (draws : Draws) {references : AS4References}
    (attached : references.attachmentIdEncryptedDataIdMap ≠ []) :
    UserMessage.codec.storable (getUserMessage localParty remoteParty args references draws) ∧
      UserMessage.codec.bare (getUserMessage localParty remoteParty args references draws) := by
  simp [UserMessage.codec, MessageInfo.codec, PartyInfo.codec, Party.codec, PartyId.codec, CollaborationInfo.codec,
    AgreementRef.codec, Service.codec, MessageProperties.codec, Property.codec, PayloadInfo.codec, stringText,
    getUserMessage, attached]
  constructor
  · rintro part attachmentId dataId - rfl
    exact (partFor_settled attachmentId).1
  · rintro part attachmentId dataId - rfl
    exact (partFor_settled attachmentId).2

/-- A built envelope loads again and is the element it was, given an attachment. -/
theorem getSoapEnvelope_settled {localParty : AS4InternalParty} {remoteParty : AS4ExternalParty}
    {args : PeppolAS4MessageBuilderArgs} {references : AS4References} {draws : Draws} {encryptedSessionKey : Bytes}
    {compressedPayloads : Dict String Bytes} {envelope : Envelope}
    (made : getSoapEnvelope localParty remoteParty args references draws encryptedSessionKey compressedPayloads =
      .ok envelope) (attached : references.attachmentIdEncryptedDataIdMap ≠ []) :
    Envelope.codec.storable envelope ∧ Envelope.codec.bare envelope := by
  simp only [getSoapEnvelope, getSignedInfo, bind_ok, pure_ok] at made
  obtain ⟨info, ⟨messaging, madeMessaging, body, madeBody, payloads, madePayloads, rfl⟩, signature, signed, rfl⟩ := made
  have each : ∀ reference ∈ messaging :: body :: payloads, DsigReference.codec.bare reference := by
    simpa [referenceForElement_bare madeMessaging, referenceForElement_bare madeBody] using
      getPayloadDigestReferences_bare madePayloads
  obtain ⟨storable, bare⟩ := getSignature_settled signed each
  have user := getUserMessage_settled localParty remoteParty args draws attached
  constructor
  · simp [Envelope.codec, Header.codec, Security.codec, Messaging.codec, Body.codec, BinarySecurityToken.codec, stringText,
      messagingOver, getEncryptedData, getEncryptedKey_settled, storable, user]
    rintro data attachmentId dataId - rfl
    exact (encryptedDataFor_settled ..).1
  · simp [Envelope.codec, Header.codec, Security.codec, Messaging.codec, Body.codec, BinarySecurityToken.codec, stringText,
      messagingOver, getEncryptedData, getEncryptedKey_settled, bare, user]
    rintro data attachmentId dataId - rfl
    exact (encryptedDataFor_settled ..).2

omit [Libraries] in
/-- Afterwards there is an attachment, and only the attachments changed. -/
theorem encryptedDataAttachmentMapping_result (draws : Draws) (before : AS4References) :
    ∃ first attachments, encryptedDataAttachmentMapping draws before =
      .ok first { before with attachmentIdEncryptedDataIdMap := attachments } ∧ attachments ≠ [] := by
  simp only [encryptedDataAttachmentMapping, bind, EStateM.bind, get, getThe, MonadStateOf.get, EStateM.get]
  cases mapped : before.attachmentIdEncryptedDataIdMap with
  | cons first rest => exact ⟨first, first :: rest, by simp [← mapped, pure, EStateM.pure], by simp⟩
  | nil => exact ⟨_, _, rfl, by simp⟩

/-- A build either raises or hands out the ids of the references it was given; these
change in nothing but their attachments. -/
theorem buildMessage_cases (payload : Bytes) (localParty : AS4InternalParty) (remoteParty : AS4ExternalParty)
    (args : PeppolAS4MessageBuilderArgs) (draws : Draws) (before : AS4References) :
    (∃ raised attachments, buildMessage payload localParty remoteParty args draws before =
        .error raised { before with attachmentIdEncryptedDataIdMap := attachments }) ∨
      ∃ message attachments envelope, buildMessage payload localParty remoteParty args draws before =
          .ok message { before with attachmentIdEncryptedDataIdMap := attachments } ∧
        message.messageId = before.messageId ∧ message.messagingId = before.messagingId ∧
          message.soapEnvelope = some envelope ∧ Envelope.codec.storable envelope ∧ Envelope.codec.bare envelope := by
  simp only [buildMessage, bind, EStateM.bind]
  cases enveloped : envelopePayload args draws payload with
  | error raised => exact .inl ⟨raised, before.attachmentIdEncryptedDataIdMap, rfl⟩
  | ok document =>
      cases key : rsaPublicKey remoteParty.credentials with
      | error raised => exact .inl ⟨raised, before.attachmentIdEncryptedDataIdMap, rfl⟩
      | ok remoteKey =>
          obtain ⟨first, attachments, mapped, attached⟩ := encryptedDataAttachmentMapping_result draws before
          simp only [lift, mapped, get, getThe, MonadStateOf.get, EStateM.get]
          cases made : getSoapEnvelope localParty remoteParty args
              { before with attachmentIdEncryptedDataIdMap := attachments } draws
              (Libraries.rsaEncrypt remoteKey draws.oaepSeed draws.sessionKey)
              [(first.1, Libraries.gzipCompress document)] with
          | error raised => exact .inl ⟨raised, attachments, rfl⟩
          | ok envelope =>
              exact .inr ⟨_, attachments, envelope, rfl, rfl, rfl, rfl, getSoapEnvelope_settled made attached⟩

end Messages

section Restarts

/-- What an exchange raises. -/
def raisedBy {ε σ α : Type} : EStateM.Result ε σ α → Option ε
  | .ok _ _ => none
  | .error raised _ => some raised

/-- The restored exchange says and does what the stored one would. -/
structure Resumes (exchange restored : AS4SendingExchange) : Prop where
  state : restored.state = exchange.state
  messageId : restored.messageId = exchange.messageId
  messagingId : restored.messagingId = exchange.messagingId
  identifiers : restored.identifiers = exchange.identifiers
  signedReferences : restored.signedReferences = exchange.signedReferences
  requiredReferences : restored.requiredReferences = exchange.requiredReferences
  remoteParty : restored.remoteParty = exchange.remoteParty
  request : ∀ draws, restored.message.map (requestData · draws) = exchange.message.map (requestData · draws)
  raises : ∀ signalData, raisedBy (receiveSignal signalData restored) = raisedBy (receiveSignal signalData exchange)
  leaves : ∀ signalData, (leftBehind (receiveSignal signalData restored)).state =
    (leftBehind (receiveSignal signalData exchange)).state
  acknowledges : ∀ signalData, (leftBehind (receiveSignal signalData restored)).receipt.map (·.nonRepudiatedReferences) =
    (leftBehind (receiveSignal signalData exchange)).receipt.map (·.nonRepudiatedReferences)

/-- The exchange can be restored for the same local party, and resumes. -/
def SurvivesRestart (exchange : AS4SendingExchange) : Prop :=
  ∀ localParty : AS4InternalParty, exchange.localParty.identity.partyId = localParty.identity.partyId →
    ∃ restored, restore exchange localParty = .ok restored ∧ Resumes exchange restored

/-- What every sending exchange keeps to: its ids are those of its identifiers where
they are empty, and its message loses nothing. -/
structure Settled (exchange : AS4SendingExchange) : Prop where
  messageId : exchange.messageId = "" → exchange.identifiers.messageId = ""
  messagingId : exchange.messagingId = "" → exchange.identifiers.messagingId = ""
  message : ∀ message ∈ exchange.message, ∀ envelope ∈ message.soapEnvelope,
    Envelope.codec.storable envelope ∧ Envelope.codec.bare envelope

def ReceiptStorable (exchange : AS4SendingExchange) : Prop :=
  ∀ receipt ∈ exchange.receipt, ∀ envelope ∈ receipt.soapEnvelope, Envelope.codec.storable envelope

/-- A signal that will be recorded loads again: no list in it is empty that must not
be. -/
def TakesInStorable : SendingCall → AS4SendingExchange → Prop
  | .receiveSignal signalData, exchange => ∀ receipt,
      AS4Receipt.parse signalData exchange.remoteParty.credentials.certificate = .ok receipt →
        receipt.originalMessageId = some exchange.messageId →
          ∀ envelope ∈ receipt.soapEnvelope, Envelope.codec.storable envelope
  | _, _ => True

theorem defaultMessageIds_settled {exchange : AS4SendingExchange} (messageId : exchange.messageId = "" →
    exchange.identifiers.messageId = "") (messagingId : exchange.messagingId = "" →
    exchange.identifiers.messagingId = "") : defaultMessageIds exchange = exchange := by
  obtain ⟨localParty, remoteParty, message, messaging, identifiers⟩ := exchange
  simp only [defaultMessageIds, AS4SendingExchange.mk.injEq, and_true, true_and]
  constructor
  · split
    · rename_i empty
      exact (messageId empty).trans empty.symm
    · rfl
  · split
    · rename_i empty
      exact (messagingId empty).trans empty.symm
    · rfl

theorem sendingStep_settled (call : SendingCall) (exchange : AS4SendingExchange) (settled : Settled exchange) :
    Settled (sendingStep call exchange) := by
  obtain ⟨messageId, messagingId, message⟩ := settled
  cases call with
  | build payload args draws =>
      simp only [sendingStep, SendingCall.operation, step, build]
      rcases buildMessage_cases payload exchange.localParty exchange.remoteParty args draws exchange.identifiers with
        ⟨raised, attachments, failed⟩ | ⟨built, attachments, envelope, made, id, messaging, carried, storable, bare⟩
      · rw [failed]
        exact ⟨messageId, messagingId, message⟩
      · simp only [made]
        cases requested : requestData built draws with
        | error raised => exact ⟨messageId, messagingId, message⟩
        | ok request =>
            refine ⟨fun empty => id.symm.trans empty, fun empty => messaging.symm.trans empty, ?_⟩
            rintro message' ⟨⟩ envelope' here
            obtain rfl : envelope = envelope' := Option.some.inj (carried.symm.trans here)
            exact ⟨storable, bare⟩
  | markSent => exact ⟨messageId, messagingId, message⟩
  | receiveSignal signalData =>
      rcases receiveSignal_cases signalData exchange with ⟨-, after⟩ | ⟨receipt, state, unproven, -, after⟩
      · simp only [sendingStep, SendingCall.operation, after]
        exact ⟨messageId, messagingId, message⟩
      · simp only [sendingStep, SendingCall.operation, after]
        exact ⟨messageId, messagingId, message⟩
  | restore localParty =>
      rcases restore_cases localParty exchange with after | ⟨restored, receipt, messageKept, -, after⟩
      · simp only [sendingStep, SendingCall.operation, after]
        exact ⟨messageId, messagingId, message⟩
      · have same : defaultMessageIds { exchange with localParty := localParty, message := restored, receipt := receipt } =
            { exchange with localParty := localParty, message := restored, receipt := receipt } :=
          defaultMessageIds_settled messageId messagingId
        simp only [sendingStep, SendingCall.operation, after, same]
        refine ⟨messageId, messagingId, ?_⟩
        intro message' stored envelope here
        obtain ⟨before, -, loaded⟩ := reloadOptional_some messageKept stored
        exact reloadMessage_settled loaded envelope here

theorem reloadMessage_bare {message : AS4Message}
    (kept : ∀ envelope ∈ message.soapEnvelope, Envelope.codec.storable envelope ∧ Envelope.codec.bare envelope) :
    ∃ message', reloadMessage message = some message' ∧ ∀ draws, requestData message' draws = requestData message draws := by
  unfold reloadMessage
  cases stored : message.soapEnvelope with
  | none => exact ⟨message, rfl, fun _ => rfl⟩
  | some envelope =>
      obtain ⟨storable, bare⟩ := kept envelope stored
      obtain ⟨envelope', loaded⟩ := (Envelope.keeps.stored envelope).mp storable
      have same : Envelope.codec.dump envelope' = Envelope.codec.dump envelope :=
        (Envelope.keeps.written envelope envelope' loaded).mpr bare
      refine ⟨_, by simp only [loaded]; rfl, ?_⟩
      intro draws
      simp only [requestData, stored, Codec.element, same]

/-- A signal is judged by fields that are restored as they were. -/
theorem resumes_of_reload {exchange : AS4SendingExchange} {localParty : AS4InternalParty} {message : Option AS4Message}
    {receipt : Option AS4Receipt}
    (request : ∀ draws, message.map (requestData · draws) = exchange.message.map (requestData · draws))
    (acknowledged : receipt.map (·.nonRepudiatedReferences) = exchange.receipt.map (·.nonRepudiatedReferences)) :
    Resumes exchange { exchange with localParty := localParty, message := message, receipt := receipt } := by
  have judged : ∀ signalData, judgeSignal
      { exchange with localParty := localParty, message := message, receipt := receipt } signalData =
        judgeSignal exchange signalData := fun _ => rfl
  refine ⟨rfl, rfl, rfl, rfl, rfl, rfl, rfl, request, ?_, ?_, ?_⟩ <;> intro signalData <;>
    simp only [receiveSignal, judged] <;> cases judgeSignal exchange signalData with
    | error raised => first | rfl | exact acknowledged
    | ok outcome =>
        obtain ⟨taken, state, unproven⟩ := outcome
        cases unproven <;> rfl

/-- Of a settled exchange, only the receipt can keep it from being restored. -/
theorem survives_iff {exchange : AS4SendingExchange} (settled : Settled exchange) :
    SurvivesRestart exchange ↔ ReceiptStorable exchange := by
  constructor
  · intro survives receipt stored envelope carried
    obtain ⟨restored, succeeded, -⟩ := survives exchange.localParty rfl
    obtain ⟨-, restoredReceipt, -, receiptKept, -⟩ := restore_ok succeeded
    exact reloadReceipt_stored.mp (reloadOptional_stored receiptKept stored) envelope carried
  · intro storable localParty same
    obtain ⟨message, messageKept, request⟩ : ∃ message, reloadOptional reloadMessage exchange.message = some message ∧
        ∀ draws, message.map (requestData · draws) = exchange.message.map (requestData · draws) := by
      cases stored : exchange.message with
      | none => exact ⟨none, rfl, fun _ => rfl⟩
      | some message =>
          obtain ⟨message', loaded, data⟩ := reloadMessage_bare (settled.message message stored)
          exact ⟨some message', by simp [reloadOptional, loaded], fun draws => by simp [data]⟩
    obtain ⟨receipt, receiptKept, acknowledged⟩ : ∃ receipt,
        reloadOptional reloadReceipt exchange.receipt = some receipt ∧
          receipt.map (·.nonRepudiatedReferences) = exchange.receipt.map (·.nonRepudiatedReferences) := by
      cases stored : exchange.receipt with
      | none => exact ⟨none, rfl, rfl⟩
      | some receipt =>
          obtain ⟨receipt', loaded⟩ := reloadReceipt_stored.mpr (storable receipt stored)
          exact ⟨some receipt', by simp [reloadOptional, loaded], by simp [(receipt_reload loaded).2.2.2]⟩
    refine ⟨{ exchange with localParty := localParty, message := message, receipt := receipt }, ?_,
      resumes_of_reload request acknowledged⟩
    have ids : defaultMessageIds { exchange with localParty := localParty, message := message, receipt := receipt } =
        { exchange with localParty := localParty, message := message, receipt := receipt } :=
      defaultMessageIds_settled settled.messageId settled.messagingId
    simp [restore, same, messageKept, receiptKept, ids]

theorem sendingStep_storable_iff (call : SendingCall) {exchange : AS4SendingExchange}
    (storable : ReceiptStorable exchange) :
    ReceiptStorable (sendingStep call exchange) ↔ TakesInStorable call exchange := by
  cases call with
  | build payload args draws =>
      refine ⟨fun _ => trivial, fun _ => ?_⟩
      rcases build_cases (fun localParty remoteParty => buildMessage payload localParty remoteParty args draws) draws
        exchange with ⟨-, identifiers, after⟩ | ⟨identifiers, message, request, -, -, after⟩
      · simp only [sendingStep, SendingCall.operation, after]
        exact storable
      · simp only [sendingStep, SendingCall.operation, after]
        exact storable
  | markSent => exact ⟨fun _ => trivial, fun _ => storable⟩
  | receiveSignal signalData =>
      rcases receiveSignal_cases signalData exchange with ⟨⟨raised, failed⟩, after⟩ |
        ⟨receipt, state, unproven, judged, after⟩
      · simp only [sendingStep, SendingCall.operation, after]
        refine ⟨fun _ receipt read named => ?_, fun _ => storable⟩
        -- A signal that parses and names the message is always recorded.
        obtain ⟨state, unproven, given⟩ := verdict_of_parsed read exchange
        simp [judgeSignal_ok.mpr ⟨read, named, given⟩] at failed
      · obtain ⟨read, named, -⟩ := judgeSignal_ok.mp judged
        simp only [sendingStep, SendingCall.operation, after]
        constructor
        · intro recorded receipt' read' _
          obtain rfl : receipt = receipt' := Except.ok.inj (read.symm.trans read')
          exact recorded receipt rfl
        · rintro takesIn receipt' ⟨⟩
          exact takesIn receipt read named
  | restore localParty =>
      refine ⟨fun _ => trivial, fun _ => ?_⟩
      rcases restore_cases localParty exchange with after | ⟨message, receipt, -, receiptKept, after⟩
      · simpa only [sendingStep, SendingCall.operation, after] using storable
      · simp only [sendingStep, SendingCall.operation, after]
        intro receipt' stored envelope carried
        obtain ⟨before, -, loaded⟩ := reloadOptional_some receiptKept stored
        exact (reloadReceipt_settled loaded envelope carried).1

theorem new_settled (localParty : AS4InternalParty) (remoteParty : AS4ExternalParty) (identifiers : AS4References)
    (required : Option (List ComparableReferenceFields)) (messageId messagingId : String) :
    Settled (AS4SendingExchange.new localParty remoteParty identifiers required messageId messagingId) := by
  refine ⟨?_, ?_, by simp [AS4SendingExchange.new, defaultMessageIds]⟩
  · simp only [AS4SendingExchange.new, defaultMessageIds]
    split <;> simp_all
  · simp only [AS4SendingExchange.new, defaultMessageIds]
    split <;> simp_all

/-- A signal that is recorded and does not load again keeps the exchange from being
restored. -/
theorem unstorable_signal {exchange : AS4SendingExchange} (settled : Settled exchange) {signalData : Bytes}
    {receipt : AS4Receipt} {envelope : Envelope}
    (parsed : AS4Receipt.parse signalData exchange.remoteParty.credentials.certificate = .ok receipt)
    (named : receipt.originalMessageId = some exchange.messageId) (carries : receipt.soapEnvelope = some envelope)
    (lost : ¬ Envelope.codec.storable envelope) : ¬ SurvivesRestart (sendingStep (.receiveSignal signalData) exchange) := by
  rw [survives_iff (sendingStep_settled _ exchange settled)]
  intro storable
  obtain ⟨state, unproven, given⟩ := verdict_of_parsed parsed exchange
  rcases receiveSignal_cases signalData exchange with ⟨⟨raised, failed⟩, -⟩ | ⟨receipt', state', unproven', judged, after⟩
  · simp [judgeSignal_ok.mpr ⟨parsed, named, given⟩] at failed
  · obtain rfl : receipt = receipt' := Except.ok.inj (parsed.symm.trans (judgeSignal_ok.mp judged).1)
    simp only [sendingStep, SendingCall.operation, after] at storable
    exact lost (storable receipt rfl envelope carries)

/-- An exchange survives a restart at every point of just those runs in which every
signal it records loads again. -/
theorem survives_restart_iff (localParty : AS4InternalParty) (remoteParty : AS4ExternalParty)
    (identifiers : AS4References) (required : Option (List ComparableReferenceFields)) (messageId messagingId : String)
    (calls : List SendingCall) :
    (∀ sofar, sofar <+: calls → SurvivesRestart
      (run sendingStep (AS4SendingExchange.new localParty remoteParty identifiers required messageId messagingId) sofar)) ↔
      Guarded sendingStep TakesInStorable
        (AS4SendingExchange.new localParty remoteParty identifiers required messageId messagingId) calls := by
  have start : Settled (AS4SendingExchange.new localParty remoteParty identifiers required messageId messagingId) :=
    new_settled ..
  have settled : ∀ sofar, Settled
      (run sendingStep (AS4SendingExchange.new localParty remoteParty identifiers required messageId messagingId) sofar) :=
    fun sofar => run_invariant sendingStep_settled sofar start
  have unanswered : ReceiptStorable
      (AS4SendingExchange.new localParty remoteParty identifiers required messageId messagingId) := by
    simp [ReceiptStorable, AS4SendingExchange.new, defaultMessageIds]
  refine Iff.trans ?_ (guarded_iff (fun call exchange => sendingStep_storable_iff call) unanswered)
  exact forall₂_congr fun sofar _ => survives_iff (settled sofar)

end Restarts

section EmptyKeyData

omit [Libraries] in
/-- A reference of the receiver over an element. -/
def referenceOver (uri : String) (element : Node) : DsigReference where
  transforms := ⟨[{ algorithm := some exclusiveC14N }]⟩
  digestMethod := ⟨xmlencSha256⟩
  digestValue := ⟨Base64.b64encode (0 :: canonicalText element)⟩
  uri := some uri

omit [Libraries] in
def emptyKeyDataMessaging : Messaging where
  signalMessages :=
    [{ messageInfo :=
         { timestamp := answerTime, messageId := "answer", refToMessageId := some sentReferences.messageId } }]
  messagingId := some "M"
  mustUnderstand := some true

omit [Libraries] in
def emptyKeyDataInfo : SignedInfo :=
  letI := signing []
  signedInfoOver
    [referenceOver ("#" ++ "M") (Messaging.codec.element (eb3 "Messaging") emptyKeyDataMessaging),
     referenceOver ("#" ++ "B") (Body.codec.element (soap12 "Body") { bodyId := some "B" })]

omit [Libraries] in
/-- Its key info names the token, and has an X509Data with nothing in it beside. -/
def emptyKeyDataSignature : Signature :=
  letI := signing []
  { signedInfo := emptyKeyDataInfo
    signatureValue := { value := some (0 :: canonicalText (SignedInfo.codec.element (ds "SignedInfo") emptyKeyDataInfo)) }
    keyInfo := { x509Data := [{}], securityTokenReference := [{ reference := { uri := some "#T" } }] } }

omit [Libraries] in
def emptyKeyDataToken (signer : Bytes) : BinarySecurityToken := ⟨base64Binary, x509V3, "T", Base64.b64encode signer⟩

omit [Libraries] in
/-- A signal that answers the recorded message, signed by the holder of a certificate. -/
def emptyKeyDataEnvelope (signer : Bytes) : Envelope where
  header :=
    { security := { binarySecurityTokens := [emptyKeyDataToken signer], signature := some emptyKeyDataSignature }
      messaging := emptyKeyDataMessaging }
  body := { bodyId := some "B" }

omit [Libraries] in
theorem emptyKeyData_signed (documents : List Node) (signer : @Certificate (signing documents)) :
    letI := signing documents
    SignedSignal (emptyKeyDataEnvelope signer.der) signer
      { messageInfo := { timestamp := answerTime, messageId := "answer", refToMessageId := some sentReferences.messageId } }
      (emptyKeyDataToken signer.der) emptyKeyDataSignature
      ("M", Messaging.codec.element (eb3 "Messaging") emptyKeyDataMessaging)
      ("B", Body.codec.element (soap12 "Body") { bodyId := some "B" }) := by
  let _ := signing documents
  refine ⟨⟨by simp [findToken, emptyKeyDataEnvelope], rfl, rfl, rfl, rfl, rfl, rfl, ⟨[_, _], [], rfl, ?_, .nil⟩, ?_, ⟨signer.der⟩, _, _, rfl,
    rfl, rfl, by simp, beq_self_eq_true _⟩, rfl, rfl⟩
  · exact .cons (referenceForElement_ok.mpr ⟨_, rfl, rfl⟩) (.cons (referenceForElement_ok.mpr ⟨_, rfl, rfl⟩) .nil)
  · simp only [List.mem_cons, List.not_mem_nil, or_false, forall_eq_or_imp, forall_eq]
    exact ⟨messaging_carried rfl (by decide), body_carried rfl (by decide)⟩

theorem emptyKeyData_admits {signer : Bytes} : Envelope.codec.admits (emptyKeyDataEnvelope signer) := by
  simp [Envelope.codec, Header.codec, Security.codec, Messaging.codec, Body.codec, SignalMessage.codec,
    MessageInfo.codec, BinarySecurityToken.codec, Signature.codec, SignedInfo.codec, CanonicalizationMethod.codec,
    SignatureMethod.codec, SignatureValue.codec, KeyInfo.codec, SecurityTokenReference.codec, WsseReference.codec,
    DsigReference.codec, Transforms.codec, Transform.codec, DigestMethod.codec, DigestValue.codec, X509Data.codec,
    stringText, emptyKeyDataEnvelope, emptyKeyDataSignature, emptyKeyDataToken, emptyKeyDataInfo, signedInfoOver,
    referenceOver, emptyKeyDataMessaging]

theorem emptyKeyData_named {signer : Bytes} :
    Named (Envelope.codec.element (soap12 "Envelope") (emptyKeyDataEnvelope signer)) := by
  simp [named_written, Envelope.codec, Header.codec, Security.codec, Messaging.codec, Body.codec, SignalMessage.codec,
    MessageInfo.codec, BinarySecurityToken.codec, Signature.codec, SignedInfo.codec, CanonicalizationMethod.codec,
    SignatureMethod.codec, SignatureValue.codec, KeyInfo.codec, SecurityTokenReference.codec, WsseReference.codec,
    DsigReference.codec, Transforms.codec, Transform.codec, DigestMethod.codec, DigestValue.codec, X509Data.codec,
    stringText, emptyKeyDataEnvelope, emptyKeyDataSignature, emptyKeyDataToken, emptyKeyDataInfo, signedInfoOver,
    referenceOver, emptyKeyDataMessaging]

theorem emptyKeyData_unique {signer : Bytes} :
    (identifiers (Envelope.codec.element (soap12 "Envelope") (emptyKeyDataEnvelope signer))).Nodup := by
  simp [identifiers_written, Envelope.codec, Header.codec, Security.codec, Messaging.codec, Body.codec, SignalMessage.codec,
    MessageInfo.codec, BinarySecurityToken.codec, Signature.codec, SignedInfo.codec, CanonicalizationMethod.codec,
    SignatureMethod.codec, SignatureValue.codec, KeyInfo.codec, SecurityTokenReference.codec, WsseReference.codec,
    DsigReference.codec, Transforms.codec, Transform.codec, DigestMethod.codec, DigestValue.codec, X509Data.codec,
    stringText, emptyKeyDataEnvelope, emptyKeyDataSignature, emptyKeyDataToken, emptyKeyDataInfo, signedInfoOver,
    referenceOver, emptyKeyDataMessaging, Scalar.string, Scalar.optional]
  decide

theorem emptyKeyData_readable {signer : Bytes} (solid : signer ≠ []) (stamps : Stamps answerTime) :
    Envelope.codec.readable (emptyKeyDataEnvelope signer) := by
  have stamped : (requiredText datetimeScalar "value").readable answerTime := requiredText_readable.mpr stamps
  have words : base64Binary ≠ "" ∧ x509V3 ≠ "" ∧ exclusiveC14N ≠ "" ∧ dsigRsaSha256 ≠ "" ∧ xmlencSha256 ≠ "" := by
    decide
  have understood : (attributeOr boolScalar true (soap12 "mustUnderstand") "must_understand").readable true :=
    .inr ⟨true, boolScalar_rereads true⟩
  simp [Envelope.codec, Header.codec, Security.codec, Messaging.codec, Body.codec, SignalMessage.codec,
    MessageInfo.codec, BinarySecurityToken.codec, Signature.codec, SignedInfo.codec, CanonicalizationMethod.codec,
    SignatureMethod.codec, SignatureValue.codec, KeyInfo.codec, SecurityTokenReference.codec, WsseReference.codec,
    DsigReference.codec, Transforms.codec, Transform.codec, DigestMethod.codec, DigestValue.codec, X509Data.codec,
    stringText, emptyKeyDataEnvelope, emptyKeyDataSignature, emptyKeyDataToken, emptyKeyDataInfo, signedInfoOver,
    referenceOver, emptyKeyDataMessaging, stamped, words, understood, Base64.strip_b64encode, Base64.b64encode_eq_empty, solid,
    signatureValue_readable, canonicalization_readable, flag_readable]
  exact ⟨by decide, by decide⟩

/-- The empty X509Data is read, but what is read does not load again. -/
theorem emptyKeyData_unstorable {signer : Bytes} {n : Located} {envelope : Envelope}
    (read : Envelope.codec.reread n (emptyKeyDataEnvelope signer) envelope) : ¬ Envelope.codec.storable envelope := by
  obtain ⟨⟨header, -, -, headerRead⟩, -⟩ := Envelope.rereads read
  obtain ⟨⟨security, -, -, securityRead⟩, -⟩ := Header.rereads headerRead
  obtain ⟨-, -, -, signed⟩ := Security.rereads securityRead
  obtain ⟨signature, carried, _, -, -, signatureRead⟩ : ∃ signature, envelope.header.security.signature = some signature ∧
      Below security (Signature.codec.element (ds "Signature") emptyKeyDataSignature)
        fun child => Signature.codec.reread child emptyKeyDataSignature signature := by
    generalize envelope.header.security.signature = found at signed
    cases signed with
    | some below => exact ⟨_, rfl, below⟩
  simp only [Signature.codec, record_reread, pair_reread] at signatureRead
  obtain ⟨keyAt, keyRead⟩ := singular_rereads signatureRead.2.2.1
  simp only [KeyInfo.codec, record_reread, pair_reread, many_reread] at keyRead
  obtain ⟨data, rest, ⟨_, dataRead⟩, -, listed⟩ := List.forall₂_cons_left_iff.mp (forall₂_rereads keyRead.2.2.2.2.1)
  simp only [X509Data.codec, record_reread, pair_reread, manyMinOne_reread] at dataRead
  have none : data.x509Ski = [] := List.forall₂_nil_left_iff.mp dataRead.2.1
  intro storable
  simp only [Envelope.codec, Header.codec, Security.codec, record_storable, pair_storable, singular_storable,
    optional_storable] at storable
  have kept := storable.2.1.1.2.2.2.1 signature carried
  simp only [Signature.codec, KeyInfo.codec, record_storable, pair_storable, singular_storable, many_storable] at kept
  have stored := kept.2.2.1.2.2.2.2.1 data (by rw [listed]; simp)
  simp [X509Data.codec, none] at stored

/-- An exchange that took in that signal cannot be restored. -/
theorem emptyKeyData_lost {signer : Certificate} {data : Bytes} {signal : SignalMessage} {token : BinarySecurityToken}
    {signature : Signature} {messaging body : String × Node} {exchange : AS4SendingExchange} (settled : Settled exchange)
    (placeFree : PlaceFree) (stamps : Stamps answerTime) (solid : signer.der ≠ [])
    (whole : SignedSignal (emptyKeyDataEnvelope signer.der) signer signal token signature messaging body)
    (parsed : Libraries.parseXml data =
      some (Envelope.codec.element (soap12 "Envelope") (emptyKeyDataEnvelope signer.der)))
    (answers : signal.messageInfo.refToMessageId = some exchange.messageId)
    (clean : strip exchange.messageId = exchange.messageId) (named : exchange.messageId ≠ "")
    (remote : exchange.remoteParty.credentials.certificate = signer) :
    ¬ SurvivesRestart (run sendingStep exchange [.receiveSignal data]) := by
  obtain ⟨envelope, read, accepted⟩ := whole.parses placeFree parsed emptyKeyData_admits
    (emptyKeyData_readable solid stamps) emptyKeyData_named emptyKeyData_unique
    (.inr ⟨_, answers, by rwa [clean]⟩)
  rw [answers, Option.map_some, clean, ← remote] at accepted
  exact unstorable_signal settled accepted rfl rfl (emptyKeyData_unstorable read)

omit [Libraries] in
theorem empty_key_data_not_restored :
    letI := signing []
    let document := Envelope.codec.element (soap12 "Envelope") (emptyKeyDataEnvelope [48, 1])
    letI := signing [document]
    let localParty := answeringParty [document]
    ¬ SurvivesRestart (run sendingStep (AS4SendingExchange.new localParty
        { identity := localParty.identity, credentials := ⟨localParty.credentials.certificate⟩ } sentReferences none)
      [.receiveSignal (plainText document)]) := by
  intro document
  let _ := signing [document]
  intro localParty
  have stamps : Stamps answerTime := ⟨by decide, answerTime, by decide⟩
  have parsed : Libraries.parseXml (plainText document) = some document := by
    change [document].find? _ = _
    rw [List.find?_cons_of_pos (by simp)]
  have placeFree : @PlaceFree (signing [document]) := fun _ => rfl
  have identified : (AS4SendingExchange.new localParty
      { identity := localParty.identity, credentials := ⟨localParty.credentials.certificate⟩ } sentReferences none).messageId =
        sentReferences.messageId := by
    simp [AS4SendingExchange.new, defaultMessageIds]
  apply emptyKeyData_lost (new_settled ..) placeFree stamps (by decide) (emptyKeyData_signed [document] ⟨[48, 1], rfl⟩) parsed
  · rw [identified]
  · rw [identified]
    decide
  · rw [identified]
    decide
  · rfl

end EmptyKeyData

end RestoredSenders
