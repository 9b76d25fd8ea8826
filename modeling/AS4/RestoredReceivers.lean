import AS4.ReceivingRuns

/-!
A receiving exchange that is stored between receiving a message and answering it. The
signal it owes is written again from what was stored, so it is the same signal where
nothing of the message it repeats was left out.
-/

namespace RestoredReceivers
open ElementTree ElementCodec ElementCodec.Codec FallibleSteps PythonData AS4Libraries AS4Errors SignatureModel
  MessagingModel EnvelopeModel Verification MessageParsing ReceiptVerification SignalBuilding Exchange StateMachine
  CertifiedAccessPoint ExchangeInvariants RecordReloads RecordedExchange Serialisation WrittenEnvelope ReceivingRuns

variable [Libraries]

section Signals

omit [Libraries] in
theorem reference_storable (reference : DsigReference) : DsigReference.codec.storable reference := by
  simp [DsigReference.codec, Transforms.codec, Transform.codec, DigestMethod.codec, DigestValue.codec, stringText]

theorem referenceForElement_bare {uri : String} {element : Node} {reference : DsigReference}
    (made : referenceForElement uri element = .ok reference) : DsigReference.codec.bare reference := by
  simp only [referenceForElement, referenceForBytes, bind_ok, pure_ok] at made
  obtain ⟨form, -, digest, -, rfl⟩ := made
  simp [DsigReference.codec, Transforms.codec, Transform.codec, DigestMethod.codec, DigestValue.codec, stringText]

theorem getSignature_settled {localParty : AS4InternalParty} {references : AS4References}
    {signedReferences : List DsigReference} {signature : Signature}
    (signed : getSignature localParty references (signedInfoOver signedReferences) = .ok signature)
    (bare : ∀ reference ∈ signedReferences, DsigReference.codec.bare reference) :
    Signature.codec.storable signature ∧ Signature.codec.bare signature := by
  simp only [getSignature, bind_ok, pure_ok] at signed
  obtain ⟨form, -, value, -, rfl⟩ := signed
  simp [Signature.codec, SignedInfo.codec, CanonicalizationMethod.codec, SignatureMethod.codec, SignatureValue.codec,
    KeyInfo.codec, SecurityTokenReference.codec, WsseReference.codec,
    signedInfoOver, reference_storable]
  exact bare

theorem signalFor_settled (message : AS4Message) (references : AS4References) (now : Datetime) :
    SignalMessage.codec.storable (signalFor message references now) ∧
      ((message.parseError = none → ∀ reference ∈ message.signatureReferences, DsigReference.codec.bare reference) →
        SignalMessage.codec.bare (signalFor message references now)) := by
  cases outcome : message.parseError with
  | none =>
      simp [signalFor, outcome, getSuccessSignalMessage, SignalMessage.codec, MessageInfo.codec, Receipt.codec,
        NonRepudiationInformation.codec, MessagePartNRInformation.codec, stringText,
        reference_storable]
  | some error =>
      simp [signalFor, outcome, getErrorSignalMessage, errorOf, SignalMessage.codec, MessageInfo.codec, Error.codec,
        Description.codec, stringText]

/-- No list of the signal is one that must not be empty, and it has no content beside
its fields but what it repeats of the message. -/
theorem signal_storable {message : AS4Message} {localParty : AS4InternalParty} {references : AS4References}
    {now : Datetime} {receipt : AS4Receipt} (made : forMessage message localParty references now = .ok receipt) :
    ∃ envelope, receipt.soapEnvelope = some envelope ∧ Envelope.codec.storable envelope ∧
      ((message.parseError = none → ∀ reference ∈ message.signatureReferences, DsigReference.codec.bare reference) →
        Envelope.codec.bare envelope) := by
  simp only [forMessage, signalSoapEnvelope, bind_ok, pure_ok] at made
  obtain ⟨envelope, ⟨messaging, madeMessaging, body, madeBody, signature, signed, rfl⟩, rfl⟩ := made
  have both : ∀ reference ∈ [messaging, body], DsigReference.codec.bare reference := by
    simp [referenceForElement_bare madeMessaging, referenceForElement_bare madeBody]
  obtain ⟨storable, bare⟩ := getSignature_settled signed both
  obtain ⟨signalStorable, signalBare⟩ := signalFor_settled message references now
  refine ⟨_, rfl, ?_, ?_⟩
  · simp [Envelope.codec, Header.codec, Security.codec, Messaging.codec, Body.codec, BinarySecurityToken.codec,
      stringText, receiptMessaging, storable, signalStorable]
  · intro repeated
    simp [Envelope.codec, Header.codec, Security.codec, Messaging.codec, Body.codec, BinarySecurityToken.codec,
      stringText, receiptMessaging, bare, signalBare repeated]

end Signals

section Restarts

/-- Restored with the same local party, the exchange answers with the same bytes. -/
def SendsTheSameSignal (exchange : AS4ReceivingExchange) : Prop :=
  ∀ localParty : AS4InternalParty, exchange.localParty.identity.partyId = localParty.identity.partyId →
    ∃ restored, restoreReceiving exchange localParty = .ok restored ∧ buildSignal restored = buildSignal exchange

/-- A message of which nothing is lost that its signal needs: no list in it is empty
that must not be, and the references that an acceptance repeats have nothing inside
their transforms. -/
structure Repeatable (message : AS4Message) : Prop where
  stored : ∀ envelope ∈ message.soapEnvelope, Envelope.codec.storable envelope
  repeated : message.parseError = none → ∀ reference ∈ message.signatureReferences, DsigReference.codec.bare reference

/-- A call that records a message records one of which nothing is lost. -/
def RecordsRepeatable (event : ReceivingEvent) (exchange : AS4ReceivingExchange) : Prop :=
  ∀ message now received, arrives exchange event = some (message, now) →
    receiveMessage exchange message now = .ok received → Repeatable message

/-- What is stored loads again, and the signal as it was written. -/
structure Restorable (exchange : AS4ReceivingExchange) : Prop where
  message : ∀ message ∈ exchange.message, ∀ envelope ∈ message.soapEnvelope, Envelope.codec.storable envelope
  receipt : ∀ receipt ∈ exchange.receipt, ∀ envelope ∈ receipt.soapEnvelope,
    Envelope.codec.storable envelope ∧ Envelope.codec.bare envelope

theorem reloadMessage_stored {message : AS4Message} : (∃ message', reloadMessage message = some message') ↔
    ∀ envelope ∈ message.soapEnvelope, Envelope.codec.storable envelope := by
  unfold reloadMessage
  cases message.soapEnvelope with
  | none => simp
  | some envelope => simp [Envelope.keeps.stored envelope]

theorem reloadReceipt_stored {receipt : AS4Receipt} : (∃ receipt', reloadReceipt receipt = some receipt') ↔
    ∀ envelope ∈ receipt.soapEnvelope, Envelope.codec.storable envelope := by
  unfold reloadReceipt
  cases receipt.soapEnvelope with
  | none => simp
  | some envelope => simp [Envelope.keeps.stored envelope]

omit [Libraries] in
/-- What is stored and loaded again loads. -/
theorem reloadOptional_stored {α : Type} {reload : α → Option α} {before after : Option α} {value : α}
    (kept : reloadOptional reload before = some after) (stored : before = some value) :
    ∃ value', reload value = some value' := by
  subst stored
  obtain ⟨value', loaded, -⟩ := Option.map_eq_some_iff.mp kept
  exact ⟨value', loaded⟩

theorem reloadReceipt_storable {receipt : AS4Receipt}
    (kept : ∀ envelope ∈ receipt.soapEnvelope, Envelope.codec.storable envelope ∧ Envelope.codec.bare envelope) :
    ∃ receipt', reloadReceipt receipt = some receipt' ∧ getRequestData receipt' = getRequestData receipt := by
  unfold reloadReceipt
  cases stored : receipt.soapEnvelope with
  | none => exact ⟨receipt, rfl, rfl⟩
  | some envelope =>
      obtain ⟨storable, bare⟩ := kept envelope stored
      obtain ⟨envelope', loaded⟩ := (Envelope.keeps.stored envelope).mp storable
      have same : Envelope.codec.dump envelope' = Envelope.codec.dump envelope :=
        (Envelope.keeps.written envelope envelope' loaded).mpr bare
      refine ⟨_, by simp only [loaded]; rfl, ?_⟩
      simp only [getRequestData, stored, Codec.element, same]

theorem restorable_same_signal {exchange : AS4ReceivingExchange} (restorable : Restorable exchange) :
    SendsTheSameSignal exchange := by
  intro localParty same
  obtain ⟨message, messageLoaded⟩ : ∃ message, reloadOptional reloadMessage exchange.message = some message := by
    cases stored : exchange.message with
    | none => exact ⟨none, rfl⟩
    | some message =>
        obtain ⟨message', loaded⟩ := reloadMessage_stored.mpr (restorable.message message stored)
        exact ⟨some message', by simp [reloadOptional, loaded]⟩
  have signal : ∃ receipt, reloadOptional reloadReceipt exchange.receipt = some receipt ∧
      buildSignal { exchange with localParty := localParty, message := message, receipt := receipt } =
        buildSignal exchange := by
    cases stored : exchange.receipt with
    | none => exact ⟨none, rfl, by simp [buildSignal, stored]⟩
    | some receipt =>
        obtain ⟨receipt', loaded, data⟩ := reloadReceipt_storable (restorable.receipt receipt stored)
        exact ⟨some receipt', by simp [reloadOptional, loaded], by simp [buildSignal, stored, data]⟩
  obtain ⟨receipt, receiptLoaded, data⟩ := signal
  exact ⟨_, restoreReceiving_ok.mpr ⟨same, message, receipt, messageLoaded, receiptLoaded, rfl⟩, data⟩

theorem restored_storable {exchange restored : AS4ReceivingExchange} {localParty : AS4InternalParty}
    (succeeded : restoreReceiving exchange localParty = .ok restored) :
    ∀ message ∈ exchange.message, ∀ envelope ∈ message.soapEnvelope, Envelope.codec.storable envelope := by
  intro message stored envelope carried
  obtain ⟨-, restoredMessage, -, messageKept, -⟩ := restoreReceiving_ok.mp succeeded
  exact reloadMessage_stored.mp (reloadOptional_stored messageKept stored) envelope carried

omit [Libraries] in
theorem reloadOptional_some {α : Type} {reload : α → Option α} {before after : Option α} {value' : α}
    (kept : reloadOptional reload before = some after) (found : after = some value') :
    ∃ value, before = some value ∧ reload value = some value' := by
  have related := reloadOptional_rel kept
  subst found
  cases related with
  | some loaded => exact ⟨_, rfl, loaded⟩

theorem reloadMessage_settled {before after : AS4Message} (loaded : reloadMessage before = some after) :
    ∀ envelope ∈ after.soapEnvelope, Envelope.codec.storable envelope ∧ Envelope.codec.bare envelope := by
  intro envelope carried
  unfold reloadMessage at loaded
  split at loaded
  · rename_i absent
    obtain rfl := Option.some.inj loaded
    simp [absent] at carried
  · obtain ⟨envelope', kept, rfl⟩ := Option.map_eq_some_iff.mp loaded
    obtain rfl : envelope' = envelope := Option.some.inj carried
    exact Envelope.keeps.settled _ _ kept

theorem reloadReceipt_settled {before after : AS4Receipt} (loaded : reloadReceipt before = some after) :
    ∀ envelope ∈ after.soapEnvelope, Envelope.codec.storable envelope ∧ Envelope.codec.bare envelope := by
  intro envelope carried
  unfold reloadReceipt at loaded
  split at loaded
  · rename_i absent
    obtain rfl := Option.some.inj loaded
    simp [absent] at carried
  · obtain ⟨envelope', kept, rfl⟩ := Option.map_eq_some_iff.mp loaded
    obtain rfl : envelope' = envelope := Option.some.inj carried
    exact Envelope.keeps.settled _ _ kept

theorem restore_restorable {exchange restored : AS4ReceivingExchange} {localParty : AS4InternalParty}
    (succeeded : restoreReceiving exchange localParty = .ok restored) : Restorable restored := by
  obtain ⟨-, message, receipt, messageKept, receiptKept, rfl⟩ := restoreReceiving_ok.mp succeeded
  constructor
  · intro message' stored envelope carried
    obtain ⟨before, -, loaded⟩ := reloadOptional_some messageKept stored
    exact (reloadMessage_settled loaded envelope carried).1
  · intro receipt' stored envelope carried
    obtain ⟨before, -, loaded⟩ := reloadOptional_some receiptKept stored
    exact reloadReceipt_settled loaded envelope carried

theorem receivingStep_restorable (event : ReceivingEvent) (exchange : AS4ReceivingExchange)
    (repeatable : RecordsRepeatable event exchange) (restorable : Restorable exchange) :
    Restorable (receivingStep event exchange) := by
  cases arrived : arrives exchange event with
  | none =>
      rcases receivingStep_silent arrived with unchanged | ⟨localParty, rfl⟩
      · rwa [unchanged]
      · simp only [receivingStep]
        cases restored : restoreReceiving exchange localParty with
        | error raised => exact restorable
        | ok result => exact restore_restorable restored
  | some call =>
      obtain ⟨message, now⟩ := call
      rw [receivingStep_arrives arrived]
      cases taken : receiveMessage exchange message now with
      | error raised => exact restorable
      | ok received =>
          obtain ⟨stored, repeated⟩ := repeatable message now received arrived taken
          obtain ⟨receipt, made, recorded, -⟩ := receiveMessage_ok taken
          obtain ⟨signal, carried, storable, bare⟩ := signal_storable made
          change Restorable received
          rw [recorded]
          refine ⟨?_, ?_⟩
          · rintro message' same envelope here
            obtain rfl : message = message' := Option.some.inj same
            exact stored envelope here
          · rintro receipt' same envelope here
            obtain rfl : receipt = receipt' := Option.some.inj same
            obtain rfl : signal = envelope := Option.some.inj (carried.symm.trans here)
            exact ⟨storable, bare repeated⟩

omit [Libraries] in
/-- A message with no property in its message properties. -/
def noProperties (documents : List Node) : @AS4Message (signing documents) :=
  letI := signing documents
  { messageId := "message"
    soapEnvelope := some
      { header :=
          { security := { binarySecurityTokens := [⟨base64Binary, x509V3, "T", "token"⟩] }
            messaging :=
              { userMessages := [{ plainUserMessage answerTime with messageProperties := some {} }]
                messagingId := some "M" } }
        body := {} } }

end Restarts

end RestoredReceivers
