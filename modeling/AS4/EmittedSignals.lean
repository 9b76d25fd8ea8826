import AS4.BuiltSignals
import AS4.EarlyReadings
import AS4.RepeatedReferences

/-!
The signal that answers a message, read back by the party that sent it. Text is read
without the white space around it, and neither empty text nor an empty attribute is
written, so what a signal says survives just where it was trimmed and filled in.
-/

namespace EmittedSignals
open ElementTree ElementCodec ElementCodec.Codec FallibleSteps PythonData AS4Libraries AS4Errors SignatureModel
  MessagingModel EnvelopeModel Verification MessageParsing ReceiptVerification SignalBuilding AcceptedMessage RecordLaws
  RecordReadings WrittenIdentifiers WrittenEnvelope SignedReadings SignalReadings BuiltSignals RepeatedReferences
  Serialisation RecordedExchange ReceivingRuns LooseMessages AcceptedDelivery

variable [Libraries]

section Contents
variable {message : AS4Message} {exception : BaseAS4ReceiptableError} {references : AS4References} {now : Datetime}
  {messageId : String} {repeated : List DsigReference}

/-- A string that is read back as it was written, as text. -/
def Trimmed (s : String) : Prop := strip s = s ∧ s ≠ ""

omit [Libraries] in
theorem trimmed_of_chars {s : String} (kept : stripChars s.toList = s.toList) (solid : s ≠ "") : Trimmed s :=
  ⟨by rw [strip, kept, String.ofList_toList], solid⟩

omit [Libraries] in
/-- An attribute under another name is no identifier. -/
theorem fragment_unidentified {name value : String} (other : name ≠ "Id") :
    attributeIds (attributeFragment (plain name) value).attributes = [] := by
  have shown : (plain name).localName = name := rfl
  rw [attributeFragment_attributes]
  split <;> simp [shown, other]

omit [Libraries] in
theorem error_unidentified {error : MessagingModel.Error} :
    identifiers (Error.codec.element (eb3 "Error") error) = [] := by
  have described : ∀ description : Description,
      identifiers (Description.codec.element (eb3 "Description") description) = [] := by
    intro description
    have lang : attributeIds (attributeFragment (xmlNamespace "lang") (langScalar.encode description.lang)).attributes =
        [] := by
      rw [attributeFragment_attributes]
      split <;> simp [xmlNamespace]
    simp [identifiers_written, Description.codec, stringText, -attributeFragment_attributes, lang]
  have detailed : ∀ detail, identifiers ((stringText "value").element (eb3 "ErrorDetail") detail) = [] := by
    intro detail
    simp [identifiers_written, stringText]
  obtain ⟨description, detail, category, ref, code, origin, severity, short⟩ := error
  cases description <;> cases detail <;>
    simp [identifiers_written, Error.codec, -attributeFragment_attributes, fragment_unidentified, described, detailed]

theorem info_unidentified {info : MessageInfo} :
    identifiers (MessageInfo.codec.element (eb3 "MessageInfo") info) = [] := by
  have silent : ∀ (tag : QName) (s : String), identifiers ((stringText "value").element tag s) = [] := by
    intro tag s
    simp [identifiers_written, stringText]
  have timed : ∀ (tag : QName) (time : Datetime),
      identifiers ((requiredText datetimeScalar "value").element tag time) = [] := by
    intro tag time
    simp [identifiers_written]
  obtain ⟨timestamp, messageId, refToMessageId⟩ := info
  rw [identifiers_written]
  cases refToMessageId <;> simp [MessageInfo.codec, silent, timed]

theorem info_named {info : MessageInfo} : Named (MessageInfo.codec.element (eb3 "MessageInfo") info) := by
  obtain ⟨timestamp, messageId, refToMessageId⟩ := info
  cases refToMessageId <;> simp [named_written, MessageInfo.codec, stringText]

/-- What an error signal brings into its envelope. -/
theorem errorSignal_plain (exception : BaseAS4ReceiptableError) (messageId : String) (references : AS4References)
    (now : Datetime) :
    SignalMessage.codec.admits (getErrorSignalMessage exception messageId references now) ∧
      Named (SignalMessage.codec.element (eb3 "SignalMessage") (getErrorSignalMessage exception messageId references now)) ∧
        identifiers (SignalMessage.codec.element (eb3 "SignalMessage")
          (getErrorSignalMessage exception messageId references now)) = [] := by
  refine ⟨?_, ?_, ?_⟩
  · simp [SignalMessage.codec, MessageInfo.codec, Error.codec, Description.codec, stringText, getErrorSignalMessage, errorOf]
  · cases known : knownMessageId messageId <;>
      simp [named_written, SignalMessage.codec, MessageInfo.codec, Error.codec, Description.codec, stringText,
        getErrorSignalMessage, errorOf, known]
  · rw [identifiers_written]
    simp [SignalMessage.codec, getErrorSignalMessage, info_unidentified, error_unidentified]

theorem errorSignal_readable (stamps : Stamps now) :
    SignalMessage.codec.readable (getErrorSignalMessage exception messageId references now) ↔
      strip references.messageId ≠ "" ∧ (messageId ≠ "" → strip messageId ≠ "") ∧
        strip exception.errorClass.description ≠ "" ∧ strip exception.detail ≠ "" ∧
          exception.errorClass.errorCode ≠ "" ∧ exception.errorClass.severity ≠ "" := by
  have stamped : (requiredText datetimeScalar "value").readable now := requiredText_readable.mpr stamps
  have unspoken : (attributeOr langScalar none (xmlNamespace "lang") "lang").readable none := by
    simp [attributeOr, langScalar, Scalar.optional]
  have described : Description.codec.readable { value := exception.errorClass.description } ↔
      strip exception.errorClass.description ≠ "" := by
    simp [Description.codec, stringText, unspoken]
  have faulted : Error.codec.readable (errorOf exception messageId) ↔
      strip exception.errorClass.description ≠ "" ∧ strip exception.detail ≠ "" ∧
        exception.errorClass.errorCode ≠ "" ∧ exception.errorClass.severity ≠ "" := by
    simp [Error.codec, stringText, errorOf, described]
  simp only [SignalMessage.codec, getErrorSignalMessage, record_readable, withWildcard_readable, pair_readable,
    singular_readable, many_readable, List.forall_mem_singleton, faulted]
  by_cases unknown : messageId = ""
  · simp [MessageInfo.codec, stringText, knownMessageId, unknown, stamped]
  · simp [MessageInfo.codec, stringText, knownMessageId, unknown, stamped, and_assoc]

omit [Libraries] in
/-- The parts of a receipt bring in the references, one each. -/
theorem parts_identifiers :
    identifiersIn (repeated.map fun reference => MessagePartNRInformation.codec.element
        (ebbpsig "MessagePartNRInformation") ⟨[reference]⟩) =
      identifiersIn (repeated.map (DsigReference.codec.element (ds "Reference"))) := by
  induction repeated with
  | nil => rfl
  | cons reference rest ih =>
      have one : identifiers (MessagePartNRInformation.codec.element (ebbpsig "MessagePartNRInformation") ⟨[reference]⟩) =
          identifiers (DsigReference.codec.element (ds "Reference") reference) := by
        rw [identifiers_written]
        simp [MessagePartNRInformation.codec]
      simp only [List.map_cons, identifiersIn_cons, one, ih]

theorem parts_named : NamedIn (repeated.map fun reference => MessagePartNRInformation.codec.element
      (ebbpsig "MessagePartNRInformation") ⟨[reference]⟩) ↔
    NamedIn (repeated.map (DsigReference.codec.element (ds "Reference"))) := by
  induction repeated with
  | nil => simp
  | cons reference rest ih =>
      have one : Named (MessagePartNRInformation.codec.element (ebbpsig "MessagePartNRInformation") ⟨[reference]⟩) ↔
          Named (DsigReference.codec.element (ds "Reference") reference) := by
        rw [named_written]
        simp [MessagePartNRInformation.codec]
      simp only [List.map_cons, namedIn_cons, one, ih]

/-- What a receipt brings into its envelope are the references it repeats. -/
theorem receiptSignal_repeats (messageId : String) (references : AS4References) (now : Datetime)
    (admits : ∀ reference ∈ repeated, DsigReference.codec.admits reference) :
    SignalMessage.codec.admits (getSuccessSignalMessage messageId repeated references now) ∧
      (NamedIn (repeated.map (DsigReference.codec.element (ds "Reference"))) →
        Named (SignalMessage.codec.element (eb3 "SignalMessage") (getSuccessSignalMessage messageId repeated references now))) ∧
        identifiers (SignalMessage.codec.element (eb3 "SignalMessage")
          (getSuccessSignalMessage messageId repeated references now)) =
            identifiersIn (repeated.map (DsigReference.codec.element (ds "Reference"))) := by
  refine ⟨?_, fun named => ?_, ?_⟩
  · simpa [SignalMessage.codec, MessageInfo.codec, Receipt.codec, NonRepudiationInformation.codec,
      MessagePartNRInformation.codec, stringText, getSuccessSignalMessage] using admits
  · have parts := parts_named.mpr named
    have evident : Named (Receipt.codec.element (eb3 "Receipt")
        { nonRepudiationInformation := some ⟨repeated.map fun reference => ⟨[reference]⟩⟩ }) := by
      simpa [named_written, Receipt.codec, NonRepudiationInformation.codec, Function.comp_def] using parts
    rw [named_written]
    simpa [SignalMessage.codec, getSuccessSignalMessage, info_named] using evident
  · have evidence : ∀ information, identifiers
        (Receipt.codec.element (eb3 "Receipt") { nonRepudiationInformation := some information }) =
          identifiersIn (information.messagePartNrInformation.map
            (MessagePartNRInformation.codec.element (ebbpsig "MessagePartNRInformation"))) := by
      intro information
      rw [identifiers_written]
      simp only [Receipt.codec, record_dump, withWildcard_dump, optional_dump_some]
      rw [identifiersIn_cons, identifiers_written]
      simp [NonRepudiationInformation.codec]
    rw [← parts_identifiers, identifiers_written]
    simp [SignalMessage.codec, getSuccessSignalMessage, info_unidentified, evidence, Function.comp_def]

theorem receiptSignal_readable (stamps : Stamps now) :
    SignalMessage.codec.readable (getSuccessSignalMessage messageId repeated references now) ↔
      strip references.messageId ≠ "" ∧ strip messageId ≠ "" ∧
        ∀ reference ∈ repeated, DsigReference.codec.readable reference := by
  have stamped : (requiredText datetimeScalar "value").readable now := requiredText_readable.mpr stamps
  simp [SignalMessage.codec, MessageInfo.codec, Receipt.codec, NonRepudiationInformation.codec,
    MessagePartNRInformation.codec, stringText, getSuccessSignalMessage, stamped, and_assoc]

end Contents

section Meaning
variable {message : AS4Message} {references : AS4References} {now : Datetime}

/-- The error of a signal is the one that was raised. -/
structure SaysError (error : MessagingModel.Error) (exception : BaseAS4ReceiptableError) : Prop where
  errorCode : error.errorCode = exception.errorClass.errorCode
  severity : error.severity = exception.errorClass.severity
  category : error.category = some exception.errorClass.category
  shortDescription : error.shortDescription = some exception.errorClass.shortDescription
  description : error.description.map (·.value) = some exception.errorClass.description
  detail : error.errorDetail = some exception.detail

/-- A signal refers to the message it answers, and repeats why it was rejected or what
of it was signed. -/
def SaysWhatWasMeant (message : AS4Message) (receipt : AS4Receipt) : Prop :=
  receipt.originalMessageId = knownMessageId message.messageId ∧
    match message.parseError with
    | some exception => ∃ error, receipt.errors = .ok [error] ∧ SaysError error exception
    | none => receipt.nonRepudiatedReferences = .ok message.signedReferences

/-- What the signal of a message has to say can be written and read. -/
def Answerable (message : AS4Message) : Prop :=
  (message.messageId ≠ "" → strip message.messageId ≠ "") ∧
    match message.parseError with
    | some exception => strip exception.errorClass.description ≠ "" ∧ strip exception.detail ≠ "" ∧
        exception.errorClass.errorCode ≠ "" ∧ exception.errorClass.severity ≠ ""
    | none => ∀ reference ∈ message.signatureReferences, Rereadable reference

/-- And is the same when it is read: its text is trimmed, and no attribute is empty. -/
def Survives (message : AS4Message) : Prop :=
  strip message.messageId = message.messageId ∧
    match message.parseError with
    | some exception => Trimmed exception.errorClass.description ∧ Trimmed exception.detail ∧
        exception.errorClass.errorCode ≠ "" ∧ exception.errorClass.severity ≠ "" ∧
          exception.errorClass.category ≠ "" ∧ exception.errorClass.shortDescription ≠ ""
    | none => ∀ reference ∈ message.signatureReferences, Rereadable reference

theorem Survives.answerable (survives : Survives message) : Answerable message := by
  obtain ⟨same, rest⟩ := survives
  refine ⟨fun known => same.symm ▸ known, ?_⟩
  cases rejected : message.parseError with
  | none => simpa only [rejected] using rest
  | some exception =>
      simp only [rejected] at rest
      obtain ⟨⟨description, described⟩, ⟨detail, detailed⟩, code, severity, -⟩ := rest
      exact ⟨description.symm ▸ described, detail.symm ▸ detailed, code, severity⟩

end Meaning

section Emitting
variable {cls : MessageClass} {context : AS4ParseContext} {soapBytes : Bytes} {mimeAttachments : Dict String Bytes}
  {message : AS4Message} {localParty : AS4InternalParty} {references : AS4References} {now : Datetime}

/-- Ids drawn for a signal differ from each other and from those of the message. -/
structure Fresh (references : AS4References) (soapBytes : Bytes) : Prop where
  named : strip references.messageId ≠ ""
  solid : ∀ id ∈ carriedIds references ++ [references.bodyId], id ≠ ""
  distinct : (carriedIds references ++ [references.bodyId]).Nodup
  unused : ∀ document, Libraries.parseXml soapBytes = some document →
    ∀ id ∈ carriedIds references ++ [references.bodyId], id ∉ identifiers document

omit [Libraries] in
/-- Identifiers apart from two lists of fresh ones keep them distinct. -/
theorem fresh_nodup {before between after : List String} (distinct : (before ++ after).Nodup) (unique : between.Nodup)
    (apart : ∀ id ∈ before ++ after, id ∉ between) : (before ++ between ++ after).Nodup := by
  have moved : (before ++ between ++ after).Perm (before ++ after ++ between) := by
    rw [List.append_assoc, List.append_assoc]
    exact List.perm_append_comm.append_left before
  rw [moved.nodup_iff]
  exact List.nodup_append'.mpr ⟨distinct, unique, fun id drawn carried => apart id drawn carried⟩

/-- The references an accepted message was signed with can all be written again. -/
theorem accepted_repeats {reading : Reading} (accepts : Accepts context soapBytes mimeAttachments message reading) :
    (∀ reference ∈ message.signatureReferences, DsigReference.codec.admits reference ∧
      ∃ n, DsigReference.codec.validate n = .ok reference) ∧
      (Named reading.document →
        NamedIn (message.signatureReferences.map (DsigReference.codec.element (ds "Reference")))) ∧
        (identifiersIn (message.signatureReferences.map (DsigReference.codec.element (ds "Reference")))).Sublist
          (identifiers reading.document) := by
  cases carried : reading.envelope.header.security.signature with
  | none => simp [AS4Message.signatureReferences, accepts.stored, carried]
  | some signature =>
      have listed : message.signatureReferences = signature.signedInfo.references := by
        simp [AS4Message.signatureReferences, accepts.stored, carried]
      rw [listed]
      exact signature_repeats accepts.validated carried

/-- Nothing in the signal of a message keeps it from being written, and it brings in no
identifier that the message has not. -/
theorem signalFor_plain (parsed : parse cls context soapBytes mimeAttachments = .ok message) (fresh : Fresh references soapBytes) :
    SignalMessage.codec.admits (signalFor message references now) ∧
      Named (SignalMessage.codec.element (eb3 "SignalMessage") (signalFor message references now)) ∧
        (carriedIds references ++
          identifiers (SignalMessage.codec.element (eb3 "SignalMessage") (signalFor message references now)) ++
            [references.bodyId]).Nodup := by
  cases rejected : message.parseError with
  | some exception =>
      simp only [signalFor, rejected]
      obtain ⟨admits, named, quiet⟩ := errorSignal_plain exception message.messageId references now
      exact ⟨admits, named, by simpa only [quiet, List.append_nil] using fresh.distinct⟩
  | none =>
      simp only [signalFor, rejected]
      obtain ⟨reading, accepts⟩ := parse_accepts parsed rejected
      obtain ⟨wellNamed, unique⟩ := index_ok_iff.mp ⟨_, accepts.indexed⟩
      obtain ⟨admits, named, within⟩ := accepted_repeats accepts
      obtain ⟨signalAdmits, signalNamed, same⟩ := receiptSignal_repeats message.messageId references now
        fun reference member => (admits reference member).1
      refine ⟨signalAdmits, signalNamed (named wellNamed), ?_⟩
      rw [same]
      exact fresh_nodup fresh.distinct (within.nodup unique) fun id drawn carried =>
        fresh.unused _ accepts.parsed id drawn (within.subset carried)

/-- An accepted message has an id. -/
theorem accepted_known {reading : Reading} (accepts : Accepts context soapBytes mimeAttachments message reading) :
    message.messageId ≠ "" := by
  obtain ⟨-, known, -⟩ := SignatureWrapping.preValidate_ok accepts.identified
  exact known

theorem signalFor_readable (parsed : parse cls context soapBytes mimeAttachments = .ok message) (stamps : Stamps now)
    (fresh : Fresh references soapBytes) :
    SignalMessage.codec.readable (signalFor message references now) ↔ Answerable message := by
  cases rejected : message.parseError with
  | some exception => simp only [signalFor, Answerable, rejected, errorSignal_readable stamps, fresh.named, ne_eq,
      not_false_eq_true, true_and]
  | none =>
      obtain ⟨reading, accepts⟩ := parse_accepts parsed rejected
      have known := accepted_known accepts
      have each : (∀ reference ∈ message.signatureReferences, DsigReference.codec.readable reference) ↔
          ∀ reference ∈ message.signatureReferences, Rereadable reference := by
        refine forall₂_congr fun reference member => ?_
        obtain ⟨n, read⟩ := ((accepted_repeats accepts).1 reference member).2
        exact reference_readable read
      simp only [signalFor, Answerable, rejected, receiptSignal_readable stamps, fresh.named, ne_eq, not_false_eq_true,
        true_and, known, true_implies, each]

/-- A signal that can be read is legible. -/
theorem signalFor_legible (parsed : parse cls context soapBytes mimeAttachments = .ok message) (stamps : Stamps now)
    (fresh : Fresh references soapBytes) (answerable : Answerable message) :
    Legible references (signalFor message references now) := by
  obtain ⟨admits, named, unique⟩ := signalFor_plain parsed fresh
  exact ⟨admits, (signalFor_readable parsed stamps fresh).mpr answerable, named, fresh.solid, unique⟩

/-- It refers to a message, or reports an error. -/
theorem signalFor_refers (parsed : parse cls context soapBytes mimeAttachments = .ok message) (answerable : Answerable message) :
    (signalFor message references now).errors ≠ [] ∨
      ∃ reference, (signalFor message references now).messageInfo.refToMessageId = some reference ∧ strip reference ≠ "" := by
  cases rejected : message.parseError with
  | some exception => exact .inl (by simp [signalFor, rejected, getErrorSignalMessage])
  | none =>
      obtain ⟨reading, accepts⟩ := parse_accepts parsed rejected
      exact .inr ⟨message.messageId, by simp [signalFor, rejected, getSuccessSignalMessage],
        answerable.1 (accepted_known accepts)⟩

omit [Libraries] in
theorem known_read_back {id : String} : (knownMessageId id).map strip = knownMessageId id ↔ strip id = id := by
  by_cases unknown : id = ""
  · simp [knownMessageId, unknown, show strip "" = "" from by decide]
  · simp [knownMessageId, unknown]

omit [Libraries] in
theorem written_same {s : String} : written (some s) = some s ↔ s ≠ "" := by
  by_cases empty : s = ""
  · simp [empty, written_empty]
  · simp [empty, written_some]

omit [Libraries] in
/-- The error of a rejection, read back. -/
theorem error_faithful_iff {exception : BaseAS4ReceiptableError} {id : String} {n : Located} {error : MessagingModel.Error}
    (read : Error.codec.reread n (errorOf exception id) error) :
    SaysError error exception ↔
      strip exception.errorClass.description = exception.errorClass.description ∧ strip exception.detail = exception.detail ∧
        exception.errorClass.category ≠ "" ∧ exception.errorClass.shortDescription ≠ "" := by
  obtain ⟨description, detail, category, code, severity, short⟩ := Error.rereads read
  have described : error.description.map (·.value) = some (strip exception.errorClass.description) := description
  have detailed : error.errorDetail = some (strip exception.detail) := detail
  have categorised : error.category = written (some exception.errorClass.category) := category
  have shortened : error.shortDescription = written (some exception.errorClass.shortDescription) := short
  constructor
  · intro faithful
    refine ⟨?_, ?_, ?_, ?_⟩
    · exact Option.some.inj (described.symm.trans faithful.description)
    · exact Option.some.inj (detailed.symm.trans faithful.detail)
    · exact written_same.mp (categorised.symm.trans faithful.category)
    · exact written_same.mp (shortened.symm.trans faithful.shortDescription)
  · rintro ⟨sameDescription, sameDetail, category', short'⟩
    exact ⟨code, severity, categorised.trans (written_same.mpr category'), shortened.trans (written_same.mpr short'),
      by rw [described, sameDescription], by rw [detailed, sameDetail]⟩

omit [Libraries] in
/-- What a receipt repeats is what was signed, however it is written. -/
theorem repeated_same {references : List DsigReference} {parts : List MessagePartNRInformation}
    (read : List.Forall₂ (fun part part' => List.Forall₂ (fun reference reference' =>
        ∃ child, DsigReference.codec.reread child reference reference')
      part.references part'.references) (references.map fun reference => (⟨[reference]⟩ : MessagePartNRInformation)) parts) :
    (acknowledgedReferences ⟨parts⟩).map ComparableReferenceFields.fromReference =
      references.map ComparableReferenceFields.fromReference := by
  induction references generalizing parts with
  | nil =>
      rw [List.forall₂_nil_left_iff.mp read]
      rfl
  | cons reference rest ih =>
      obtain ⟨part, parts', one, others, rfl⟩ := List.forall₂_cons_left_iff.mp read
      obtain ⟨reference', none, ⟨child, reread⟩, nothing, only⟩ := List.forall₂_cons_left_iff.mp one
      obtain rfl := List.forall₂_nil_left_iff.mp nothing
      have remaining := ih others
      simp only [acknowledgedReferences] at remaining
      simp [acknowledgedReferences, only, reference_same reread, remaining]

/-- Read back, a signal that can be read means the same just when it survives. -/
theorem signal_faithful_iff (answerable : Answerable message) (known : message.parseError = none → message.messageId ≠ "")
    {n : Located} {envelope envelope' : Envelope} (signals : envelope.header.messaging.signalMessages = [signalFor message references now])
    (read : Envelope.codec.reread n envelope envelope') :
    SaysWhatWasMeant message
        { soapEnvelope := some envelope',
          originalMessageId := (signalFor message references now).messageInfo.refToMessageId.map strip } ↔
      Survives message := by
  obtain ⟨⟨_, -, -, headerRead⟩, -⟩ := Envelope.rereads read
  obtain ⟨-, _, -, -, messagingRead⟩ := Header.rereads headerRead
  obtain ⟨signal, one, _, signalRead⟩ := MessageReadings.mem_single (signals ▸ (Messaging.rereads messagingRead).2.1)
  obtain ⟨-, receiptRead, errorsRead⟩ := SignalMessage.rereads signalRead
  have listed : ∀ named, AS4Receipt.signalMessage { soapEnvelope := some envelope', originalMessageId := named } =
      .ok (some signal) := by
    intro named
    simp [AS4Receipt.signalMessage, Messaging.signalMessage, one, Messaging.onlyOne]
  cases rejected : message.parseError with
  | some exception =>
      simp only [signalFor, rejected, getErrorSignalMessage] at errorsRead ⊢
      obtain ⟨error, none, ⟨child, errorRead⟩, nothing, only⟩ := List.forall₂_cons_left_iff.mp errorsRead
      obtain rfl := List.forall₂_nil_left_iff.mp nothing
      have answered := answerable.2
      simp only [rejected] at answered
      obtain ⟨described, detailed, code, severity⟩ := answered
      have solid : ∀ {text : String}, strip text ≠ "" → (strip text = text ↔ Trimmed text) := fun filled =>
        ⟨fun same => ⟨same, same ▸ filled⟩, And.left⟩
      simp only [SaysWhatWasMeant, Survives, rejected, known_read_back, AS4Receipt.errors, listed, only, bind, Except.bind,
        pure, Except.pure, Option.map_some, Option.getD_some, Except.ok.injEq, List.cons.injEq, and_true,
        exists_eq_left', error_faithful_iff errorRead, solid described, solid detailed, ne_eq, code, severity,
        not_false_eq_true, true_and]
  | none =>
      simp only [signalFor, rejected, getSuccessSignalMessage] at receiptRead ⊢
      obtain ⟨content, carried, _, contentRead⟩ : ∃ content, signal.receipt = some content ∧ ∃ child,
          Receipt.codec.reread child ⟨some ⟨message.signatureReferences.map fun reference => ⟨[reference]⟩⟩, []⟩ content := by
        generalize signal.receipt = found at receiptRead
        cases receiptRead with
        | some kept => exact ⟨_, rfl, kept⟩
      obtain ⟨information, informed, _, informationRead⟩ := Receipt.rereads rfl contentRead
      have repeated := repeated_same (NonRepudiationInformation.rereads informationRead)
      have acknowledged : ∀ named, AS4Receipt.nonRepudiatedReferences
          { soapEnvelope := some envelope', originalMessageId := named } = .ok message.signedReferences := by
        intro named
        simp [AS4Receipt.nonRepudiatedReferences, AS4Receipt.receipt, listed, carried, informed, bind, Except.bind, pure,
          Except.pure, repeated, AS4Message.signedReferences]
      have rereadable := answerable.2
      simp only [rejected] at rereadable
      have identified : knownMessageId message.messageId = some message.messageId := by simp [knownMessageId, known rejected]
      simp only [SaysWhatWasMeant, Survives, rejected, acknowledged, identified, Option.map_some, Option.some.injEq]
      exact ⟨fun same => ⟨same.1, rereadable⟩, fun same => ⟨same.1, trivial⟩⟩

omit message in
/-- A signal that was accepted can be read. -/
theorem accepted_readable {signal : SignalMessage} {messagingForm bodyForm value data : Bytes} {certificate : Certificate}
    {receipt : AS4Receipt} (admitted : SignalMessage.codec.admits signal)
    (found : Libraries.parseXml data = some (Envelope.codec.element (soap12 "Envelope")
      (signalEnvelope localParty references signal (signalInfo references messagingForm bodyForm) value)))
    (accepted : AS4Receipt.parse data certificate = .ok receipt) : SignalMessage.codec.readable signal := by
  obtain ⟨document, envelope, _, here, validated, -⟩ := ExchangeInvariants.parse_receipt_ok accepted
  obtain rfl := Option.some.inj (found.symm.trans here)
  have readable := (rereads_element Envelope.lawful (signalEnvelope_admits admitted) (n := .root _) rfl).1.mpr ⟨envelope, validated⟩
  simp only [Envelope.codec, Header.codec, Messaging.codec, record_readable, pair_readable, singular_readable,
    withWildcard_readable, many_readable, signalEnvelope, receiptMessaging, List.forall_mem_singleton] at readable
  exact readable.2.1.2.1.2.1

/-- The signal of a message is accepted from whoever makes it and means what was meant
just when it survives being written and read. -/
theorem emitted_signal_iff (placeFree : PlaceFree) (hashes : ∀ data, Libraries.digest .sha256 data ≠ [])
    (cls : MessageClass) (context : AS4ParseContext) (soapBytes : Bytes) (mimeAttachments : Dict String Bytes)
    (message : AS4Message) (parsed : parse cls context soapBytes mimeAttachments = .ok message)
    (localParty : AS4InternalParty) (agrees : KeyAgrees localParty)
    (certified : localParty.credentials.certificate.der ≠ [])
    (references : AS4References) (fresh : Fresh references soapBytes) (now : Datetime) (stamps : Stamps now)
    (receipt : AS4Receipt) (made : forMessage message localParty references now = .ok receipt)
    (headers : Dict String String) (data : Bytes) (sent : getRequestData receipt = .ok (headers, data))
    (faithful : ∀ envelope, receipt.soapEnvelope = some envelope →
      Libraries.parseXml (Libraries.tostring (Envelope.codec.element (soap12 "Envelope") envelope)) =
        some (Envelope.codec.element (soap12 "Envelope") envelope)) :
    (∃ receipt', AS4Receipt.parse data localParty.credentials.certificate = .ok receipt' ∧
      SaysWhatWasMeant message receipt') ↔ Survives message := by
  simp only [forMessage, bind_ok, pure_ok] at made
  obtain ⟨envelope, built, rfl⟩ := made
  obtain ⟨-, rfl⟩ := Prod.mk.inj (Except.ok.inj sent)
  have found := faithful envelope rfl
  have known : message.parseError = none → message.messageId ≠ "" := by
    intro accepted
    obtain ⟨_, accepts⟩ := parse_accepts parsed accepted
    exact accepted_known accepts
  have signals : envelope.header.messaging.signalMessages = [signalFor message references now] := by
    obtain ⟨_, _, _, _, -, -, -, -, rfl⟩ := signalSoapEnvelope_ok.mp built
    rfl
  have answers : Answerable message → ∃ envelope',
      Envelope.codec.reread (.root (Envelope.codec.element (soap12 "Envelope") envelope)) envelope envelope' ∧
        AS4Receipt.parse (Libraries.tostring (Envelope.codec.element (soap12 "Envelope") envelope))
            localParty.credentials.certificate =
          .ok { soapEnvelope := some envelope',
                originalMessageId := (signalFor message references now).messageInfo.refToMessageId.map strip } :=
    fun answerable => built_signal_parses placeFree hashes agrees certified (signalFor_legible parsed stamps fresh answerable)
      built found (signalFor_refers parsed answerable)
  constructor
  · rintro ⟨receipt', accepted, same⟩
    have readable : SignalMessage.codec.readable (signalFor message references now) := by
      obtain ⟨_, _, _, _, -, -, -, -, rfl⟩ := signalSoapEnvelope_ok.mp built
      exact accepted_readable (signalFor_plain parsed fresh).1 found accepted
    have answerable := (signalFor_readable parsed stamps fresh).mp readable
    obtain ⟨envelope', read, again⟩ := answers answerable
    obtain rfl := Except.ok.inj (accepted.symm.trans again)
    exact (signal_faithful_iff answerable known signals read).mp same
  · intro survives
    obtain ⟨envelope', read, accepted⟩ := answers survives.answerable
    exact ⟨_, accepted, (signal_faithful_iff survives.answerable known signals read).mpr survives⟩

end Emitting

section Rejections

/-- A message that is addressed to nobody. -/
def unaddressed (messageId : String) : Node :=
  .element (soap12 "Envelope") [] [.element (soap12 "Header") [] [.element (eb3 "Messaging") [(wsu "Id", "M")]
    [.element (eb3 "UserMessage") [] [.element (eb3 "MessageInfo") []
      [.element (eb3 "MessageId") [] [.text messageId]]]]]]

def unaddressedError : BaseAS4ReceiptableError := partyToNotFound.new "Missing PartyInfo/To element in UserMessage"

def unaddressedMessage (messageId : String) : AS4Message :=
  { messageId := messageId, messagingId := "M", parseError := some unaddressedError }

omit [Libraries] in
theorem unaddressedError_trimmed : Trimmed unaddressedError.errorClass.description ∧ Trimmed unaddressedError.detail :=
  ⟨trimmed_of_chars (by decide +kernel) (by decide), trimmed_of_chars (by decide +kernel) (by decide)⟩

/-- It is rejected under the id it was sent with. -/
theorem unaddressed_rejected {cls : MessageClass} {context : AS4ParseContext} {soapBytes : Bytes}
    {mimeAttachments : Dict String Bytes} {messageId : String} (solid : messageId ≠ "")
    (found : Libraries.parseXml soapBytes = some (unaddressed messageId)) :
    parse cls context soapBytes mimeAttachments = .ok (unaddressedMessage messageId) := by
  have identified : preValidate (.root (unaddressed messageId)) = .ok (messageId, "M") := by
    have text : (Located.root (unaddressed messageId)).findText messageIdPath = some messageId := by
      have here : pathNodes messageIdPath (unaddressed messageId) = [.element (eb3 "MessageId") [] [.text messageId]] := rfl
      rw [findText_nodes]
      simp only [Located.root, here]
      simp [Node.leadingText, Node.content, leadingText]
    have placed := find_nodes messagingPath (.root (unaddressed messageId))
    obtain ⟨messaging, reached, node⟩ := Option.map_eq_some_iff.mp (placed.trans (b := some _) rfl)
    have carried : messaging.node.attribute (wsu "Id") = some "M" := by
      rw [node]
      rfl
    simp [preValidate, text, reached, carried, solid]
  have nobody : (Located.root (unaddressed messageId)).find partyToPath = none := by
    have missed := find_nodes partyToPath (.root (unaddressed messageId))
    exact Option.map_eq_none_iff.mp (missed.trans rfl)
  have refused : parseSteps cls context soapBytes mimeAttachments {} = .error (.receiptable unaddressedError)
      { messageId := messageId, messagingId := "M" } := by
    have read := parseXml_ok.mpr found
    simp only [parseSteps, read, identified, nobody, getAddressedTo, raise, unaddressedError, bind, EStateM.bind, lift, modify,
      modifyGet, MonadStateOf.modifyGet, EStateM.modifyGet]
  simp [parse, refused, caught, unaddressedMessage]

/-- What it is answered with. -/
def unaddressedSignal (messageId : String) : SignalMessage :=
  letI := signing []
  getErrorSignalMessage unaddressedError messageId answerReferences answerTime

def unaddressedDocuments (messageId : String) : List Node :=
  [unaddressed messageId, answerDocument (unaddressedSignal messageId)]

omit [Libraries] in
theorem unaddressed_listed (messageId : String) :
    (unaddressedDocuments messageId).find? (fun document => plainText document == plainText (unaddressed messageId)) =
      some (unaddressed messageId) :=
  List.find?_cons_of_pos (beq_self_eq_true _)

omit [Libraries] in
theorem unaddressedSignal_listed {messageId : String}
    (apart : plainText (unaddressed messageId) ≠ plainText (answerDocument (unaddressedSignal messageId))) :
    (unaddressedDocuments messageId).find?
        (fun document => plainText document == plainText (answerDocument (unaddressedSignal messageId))) =
      some (answerDocument (unaddressedSignal messageId)) := by
  rw [unaddressedDocuments, List.find?_cons_of_neg (by simpa using apart)]
  exact List.find?_cons_of_pos (beq_self_eq_true _)

theorem unaddressed_fresh {soapBytes : Bytes} {messageId : String}
    (found : Libraries.parseXml soapBytes = some (unaddressed messageId)) : Fresh answerReferences soapBytes := by
  refine ⟨by decide, by decide, by decide, fun document here => ?_⟩
  obtain rfl := Option.some.inj (here.symm.trans found)
  have ids : identifiers (unaddressed messageId) = ["M"] := rfl
  rw [ids]
  decide

omit [Libraries] in
/-- What it is answered with is sent as it stands. -/
theorem unaddressed_answered (messageId : String) :
    letI := signing (unaddressedDocuments messageId)
    forMessage (unaddressedMessage messageId) (answeringParty (unaddressedDocuments messageId)) answerReferences answerTime =
      .ok { soapEnvelope := some (answerWith (unaddressedSignal messageId)), references := some answerReferences } := by
  let _ := signing (unaddressedDocuments messageId)
  simp only [forMessage, bind_ok, pure_ok]
  exact ⟨_, answerWith_made (unaddressedDocuments messageId) (unaddressedSignal messageId), rfl⟩

omit [Libraries] in
theorem unaddressed_sent (messageId : String) :
    letI := signing (unaddressedDocuments messageId)
    getRequestData { soapEnvelope := some (answerWith (unaddressedSignal messageId)), references := some answerReferences } =
      .ok (receiptHeaders, plainText (answerDocument (unaddressedSignal messageId))) := by
  let _ := signing (unaddressedDocuments messageId)
  simp only [getRequestData, answerDocument_written]
  rfl

omit [Libraries] in
/-- White space around a message id is lost in the answer, which refers to no message
that was sent. -/
theorem padded_id_lost :
    let documents := unaddressedDocuments " message"
    letI := signing documents
    ∃ message receipt headers data receipt',
      parse .as4 (looseContext documents) (plainText (unaddressed " message")) [] = .ok message ∧
        forMessage message (answeringParty documents) answerReferences answerTime = .ok receipt ∧
          getRequestData receipt = .ok (headers, data) ∧
            AS4Receipt.parse data (answeringParty documents).credentials.certificate = .ok receipt' ∧
              receipt'.originalMessageId = some "message" ∧ ¬ SaysWhatWasMeant message receipt' := by
  intro documents
  let _ := signing documents
  have apart : plainText (unaddressed " message") ≠ plainText (answerDocument (unaddressedSignal " message")) := by
    have inside : (plainText (unaddressed " message"))[79]? ≠ (plainText (answerDocument (unaddressedSignal " message")))[79]? := by
      decide +kernel
    exact fun same => inside (congrArg (fun bytes : Bytes => bytes[79]?) same)
  have rejected := @unaddressed_rejected (signing documents) .as4 (looseContext documents)
    (plainText (unaddressed " message")) [] " message" (by decide) (unaddressed_listed _)
  have answerable : Answerable (unaddressedMessage " message") := by
    refine ⟨fun _ => by decide, ?_⟩
    obtain ⟨⟨described, solid⟩, detailed, filled⟩ := unaddressedError_trimmed
    exact ⟨described.symm ▸ solid, detailed.symm ▸ filled, by decide, by decide⟩
  have legible := signalFor_legible rejected (recorded_stamps documents).1 (unaddressed_fresh (unaddressed_listed _)) answerable
  obtain ⟨envelope, -, parsed⟩ := answer_parses documents (unaddressedSignal " message") (unaddressedSignal_listed apart)
    legible (.inl (List.cons_ne_nil _ _))
  refine ⟨_, _, _, _, _, rejected, unaddressed_answered " message", unaddressed_sent " message", parsed, rfl, ?_⟩
  have lost : some (strip " message") ≠ some " message" := by decide
  rintro ⟨refers, -⟩
  exact lost refers

omit [Libraries] in
theorem plain_id_answered :
    let documents := unaddressedDocuments "message"
    letI := signing documents
    ∃ message receipt headers data, parse .as4 (looseContext documents) (plainText (unaddressed "message")) [] = .ok message ∧
      forMessage message (answeringParty documents) answerReferences answerTime = .ok receipt ∧
        getRequestData receipt = .ok (headers, data) ∧
          ∃ receipt', AS4Receipt.parse data (answeringParty documents).credentials.certificate = .ok receipt' ∧
            SaysWhatWasMeant message receipt' := by
  intro documents
  let _ := signing documents
  have apart : plainText (unaddressed "message") ≠ plainText (answerDocument (unaddressedSignal "message")) := by
    have inside : (plainText (unaddressed "message"))[79]? ≠ (plainText (answerDocument (unaddressedSignal "message")))[79]? := by
      decide +kernel
    exact fun same => inside (congrArg (fun bytes : Bytes => bytes[79]?) same)
  have rejected := @unaddressed_rejected (signing documents) .as4 (looseContext documents)
    (plainText (unaddressed "message")) [] "message" (by decide) (unaddressed_listed _)
  have survives : Survives (unaddressedMessage "message") := by
    refine ⟨by decide, ?_⟩
    exact ⟨unaddressedError_trimmed.1, unaddressedError_trimmed.2, by decide, by decide, by decide, by decide⟩
  have meant := emitted_signal_iff (fun _ => rfl) (fun _ => List.cons_ne_nil _ _) .as4 (looseContext documents)
    (plainText (unaddressed "message")) [] (unaddressedMessage "message") rejected (answeringParty documents)
    (answeringParty_agrees documents) (List.cons_ne_nil _ _) answerReferences (unaddressed_fresh (unaddressed_listed _))
    answerTime (recorded_stamps documents).1 _ (unaddressed_answered "message") _ _
    (unaddressed_sent "message") fun envelope carried => by
      obtain rfl := Option.some.inj carried
      exact unaddressedSignal_listed apart
  exact ⟨_, _, _, _, rejected, unaddressed_answered "message", unaddressed_sent "message", meant.mpr survives⟩

end Rejections

end EmittedSignals
