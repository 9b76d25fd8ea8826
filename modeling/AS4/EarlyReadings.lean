import AS4.NonRepudiation
import AS4.PayloadCoverage
import AS4.SignatureWrapping
import AS4.LooseMessages

/-!
Two readers of one document. What a message or a signal refers to is looked up by
path in the tree before, or without, validating it, and read again with the model.
The path takes the text as it stands and goes by qualified names; the model strips
it, and falls back on the name of the field.
-/

namespace EarlyReadings
open ElementTree ElementCodec ElementCodec.Codec FallibleSteps PythonData AS4Libraries AS4Errors SignatureModel
  MessagingModel EnvelopeModel Verification MessageParsing ReceiptVerification SignalBuilding AcceptedMessage
  ReferenceVerification SignatureWrapping RecordReadings RecordLaws WrittenIdentifiers WrittenEnvelope MessageReadings ExchangeInvariants RecordedExchange
  ReceivingRuns BuiltSignals Serialisation DeliveredMessage AcceptedDelivery LooseMessages

section Paths
variable {n m found : Located} {tag : QName} {name key : String} {steps : List (QName × String)}

/-- What the model's reader reaches through a chain of fields. -/
def fieldPath : List (QName × String) → Located → List Located
  | [], n => [n]
  | (tag, name) :: rest, n => (foundChildren n tag name).flatMap (fieldPath rest)

theorem foundChildren_tagged (member : m ∈ n.childrenTagged tag) : m ∈ foundChildren n tag name := by
  rw [foundChildren, lookupChildren_alias member]
  exact member

theorem foundChildren_only (looked : lookupChildren n tag name = some (key, [m])) : foundChildren n tag name = [m] := by
  rw [foundChildren, looked]
  rfl

theorem fieldPath_only {rest : List (QName × String)} (only : foundChildren n tag name = [m]) :
    fieldPath ((tag, name) :: rest) n = fieldPath rest m := by
  simp [fieldPath, only]

/-- The reader of the model reaches what the path does. -/
theorem findAll_fieldPath (member : m ∈ Located.findAll (steps.map (·.1)) n) : m ∈ fieldPath steps n := by
  induction steps generalizing n with
  | nil => exact member
  | cons step rest ih =>
      obtain ⟨child, tagged, below⟩ := List.mem_flatMap.mp member
      exact List.mem_flatMap.mpr ⟨child, foundChildren_tagged tagged, ih below⟩

theorem find_fieldPath (reached : n.find (steps.map (·.1)) = some m) : m ∈ fieldPath steps n :=
  findAll_fieldPath (List.mem_of_head? reached)

/-- Where the reader of the model reaches one element, the path finds that one or
nothing. -/
theorem find_only_field (only : fieldPath steps n = [m]) (reached : n.find (steps.map (·.1)) = some found) : found = m :=
  List.mem_singleton.mp (only ▸ find_fieldPath reached)

theorem find_no_field (unread : fieldPath steps n = []) : n.find (steps.map (·.1)) = none := by
  cases reached : n.find (steps.map (·.1)) with
  | none => rfl
  | some found => exact absurd (unread ▸ find_fieldPath reached) List.not_mem_nil

/-- No element the path reaches has white space around its text. -/
def Unpadded (path : List QName) (n : Located) : Prop :=
  ∀ m ∈ Located.findAll path n, strip m.node.leadingText = m.node.leadingText

theorem findAll_append (first second : List QName) (n : Located) :
    Located.findAll (first ++ second) n = (Located.findAll first n).flatMap (Located.findAll second) := by
  induction first generalizing n with
  | nil => simp [Located.findAll]
  | cons tag rest ih =>
      simp only [List.cons_append, Located.findAll, List.flatMap_assoc]
      exact List.flatMap_congr fun child _ => ih child

end Paths

section Messages
variable [Libraries]

omit [Libraries] in
theorem strippedText_some {n : Located} {s : String} (stripped : strippedText n = some s) : strip n.node.leadingText = s := by
  unfold strippedText at stripped
  split at stripped
  · simp at stripped
  · exact Option.some.inj stripped

/-- The message id of a message info is the stripped text of one element. -/
theorem messageInfo_messageId {n : Located} {info : MessageInfo} (read : MessageInfo.codec.validate n = .ok info) :
    ∃ child, foundChildren n (eb3 "MessageId") "message_id" = [child] ∧ info.messageId = strip child.node.leadingText := by
  simp only [MessageInfo.codec, record_ok, pair_ok, singular_ok] at read
  obtain ⟨⟨timestamp, messageId, ref⟩, ⟨-, ⟨_, child, looked, text⟩, -⟩, rfl⟩ := read
  obtain ⟨s, stripped, same⟩ := requiredText_ok.mp text
  obtain rfl : s = messageId := Except.ok.inj same
  exact ⟨child, foundChildren_only looked, (strippedText_some stripped).symm⟩

/-- The same for the message it refers to, where there is one. -/
theorem messageInfo_refToMessageId {n : Located} {info : MessageInfo} (read : MessageInfo.codec.validate n = .ok info) :
    (info.refToMessageId = none ∧ foundChildren n (eb3 "RefToMessageId") "ref_to_message_id" = []) ∨
      ∃ child, foundChildren n (eb3 "RefToMessageId") "ref_to_message_id" = [child] ∧
        info.refToMessageId = some (strip child.node.leadingText) := by
  simp only [MessageInfo.codec, record_ok, pair_ok] at read
  obtain ⟨⟨timestamp, messageId, ref⟩, ⟨-, -, refRead⟩, rfl⟩ := read
  cases ref with
  | none =>
      refine .inl ⟨rfl, ?_⟩
      rw [foundChildren, optional_none.mp refRead]
      rfl
  | some ref =>
      obtain ⟨_, child, looked, text⟩ := optional_some.mp refRead
      obtain ⟨s, stripped, same⟩ := requiredText_ok.mp text
      obtain rfl : s = ref := Except.ok.inj same
      exact .inr ⟨child, foundChildren_only looked, congrArg some (strippedText_some stripped).symm⟩

theorem userMessage_fields {n : Located} {user : UserMessage} (read : UserMessage.codec.validate n = .ok user) :
    (∃ info, foundChildren n (eb3 "MessageInfo") "message_info" = [info] ∧
        MessageInfo.codec.validate info = .ok user.messageInfo) ∧
      ∃ parties, foundChildren n (eb3 "PartyInfo") "party_info" = [parties] ∧
        ∃ addressee, foundChildren parties (eb3 "To") "party_to" = [addressee] ∧
          Party.codec.validate addressee = .ok user.partyInfo.partyTo := by
  simp only [UserMessage.codec, PartyInfo.codec, record_ok, pair_ok, singular_ok] at read
  obtain ⟨⟨info, parties, _⟩, ⟨⟨_, infoAt, infoLooked, infoRead⟩, ⟨_, partiesAt, partiesLooked, ⟨sender, addressee⟩,
    ⟨-, _, toAt, toLooked, toRead⟩, rfl⟩, -⟩, rfl⟩ := read
  exact ⟨⟨infoAt, foundChildren_only infoLooked, infoRead⟩, partiesAt, foundChildren_only partiesLooked, toAt,
    foundChildren_only toLooked, toRead⟩

theorem messaging_identified {n : Located} {messaging : Messaging} {identifier : String}
    (read : Messaging.codec.validate n = .ok messaging) (carried : n.node.attribute (wsu "Id") = some identifier) :
    messaging.messagingId = some identifier := by
  simp only [Messaging.codec, record_ok, withWildcard_ok, pair_ok] at read
  obtain ⟨⟨⟨element, signals, users, id, mustUnderstand⟩, content⟩, ⟨⟨-, -, -, idRead, -⟩, -⟩, rfl⟩ := read
  simp only [optionalAttribute, attributeOr, carried, lookupScalar_direct] at idRead
  exact (Except.ok.inj idRead).symm

variable {cls : MessageClass} {context : AS4ParseContext} {soapBytes : Bytes} {mimeAttachments : Dict String Bytes}
  {message : AS4Message}

/-- The ids taken from the tree are those of the validated message. -/
structure AgreesEarly (message : AS4Message) (envelope : Envelope) (user : UserMessage) : Prop where
  messageId : message.messageId = user.messageInfo.messageId
  messagingId : envelope.header.messaging.messagingId = some message.messagingId
  addressedTo : message.addressedTo = some (AS4PartyIdentity.fromParty user.partyInfo.partyTo)

/-- What both readers take the ids of an accepted message from. -/
theorem accepted_early {reading : Reading} (accepts : Accepts context soapBytes mimeAttachments message reading) :
    reading.envelope.header.messaging.messagingId = some message.messagingId ∧
      message.addressedTo = some (AS4PartyIdentity.fromParty reading.userMessage.partyInfo.partyTo) ∧
        ∃ n ∈ Located.findAll messageIdPath (.root reading.document),
          (∀ m ∈ Located.findAll messageIdPath (.root reading.document), m = n) ∧
            message.messageId = n.node.leadingText ∧
              reading.userMessage.messageInfo.messageId = strip n.node.leadingText := by
  obtain ⟨messaging, body, source⟩ := SignatureWrapping.accepted_readFrom accepts
  have users := (Messaging.reads source.messagingRead).2.2
  rw [requireUserMessage_ok.mp accepts.hasUserMessage] at users
  obtain ⟨userAt, rest, userRead, none, found⟩ := List.forall₂_cons_right_iff.mp users
  obtain rfl := List.forall₂_nil_right_iff.mp none
  obtain ⟨⟨info, infoFound, infoRead⟩, parties, partiesFound, addressee, addresseeFound, addresseeRead⟩ :=
    userMessage_fields userRead
  obtain ⟨n, nFound, text⟩ := messageInfo_messageId infoRead
  have below : Located.findAll messageIdPath (.root reading.document) =
      Located.findAll [eb3 "UserMessage", eb3 "MessageInfo", eb3 "MessageId"] messaging := by
    rw [messageIdPath, findAll_append, source.onlyMessaging, List.flatMap_singleton]
  have only : fieldPath [(eb3 "UserMessage", "user_messages"), (eb3 "MessageInfo", "message_info"),
      (eb3 "MessageId", "message_id")] messaging = [n] := by
    rw [fieldPath_only found, fieldPath_only infoFound, fieldPath_only nFound]
    rfl
  obtain ⟨m, reached, shown⟩ := Option.map_eq_some_iff.mp source.messageId
  obtain rfl : m = n := find_only_field only reached
  refine ⟨messaging_identified source.messagingRead source.messagingId, ?_, m, ?_, ?_, shown.symm, text⟩
  · obtain ⟨element, reached, party, read, kept⟩ := source.addressedTo
    have only : fieldPath [(eb3 "UserMessage", "user_messages"), (eb3 "PartyInfo", "party_info"), (eb3 "To", "party_to")]
        messaging = [addressee] := by
      rw [fieldPath_only found, fieldPath_only partiesFound, fieldPath_only addresseeFound]
      rfl
    obtain rfl : element = addressee := find_only_field only reached
    rw [kept, Except.ok.inj (read.symm.trans addresseeRead)]
  · rw [below]
    exact List.mem_of_head? reached
  · rw [below]
    intro other member
    exact List.mem_singleton.mp (only ▸ findAll_fieldPath member)

/-- The ids taken before validation are those of the model just when no white space is
around the text of the MessageId. -/
theorem early_ids_agree_iff (cls : MessageClass) (context : AS4ParseContext) (soapBytes : Bytes)
    (mimeAttachments : Dict String Bytes) (message : AS4Message)
    (parsed : parse cls context soapBytes mimeAttachments = .ok message) (accepted : message.parseError = none) :
    ∃ document envelope user, Libraries.parseXml soapBytes = some document ∧ message.soapEnvelope = some envelope ∧
      envelope.header.messaging.userMessages = [user] ∧
        (AgreesEarly message envelope user ↔ Unpadded messageIdPath (.root document)) := by
  obtain ⟨reading, accepts⟩ := parse_accepts parsed accepted
  obtain ⟨identified, addressed, n, reached, only, taken, text⟩ := accepted_early accepts
  refine ⟨reading.document, reading.envelope, reading.userMessage, accepts.parsed, accepts.stored,
    requireUserMessage_ok.mp accepts.hasUserMessage, ?_⟩
  constructor
  · rintro ⟨same, -, -⟩ m member
    rw [only m member, ← text, ← same, taken]
  · intro unpadded
    exact ⟨taken.trans ((unpadded n reached).symm.trans text.symm), identified, addressed⟩

omit [Libraries] in
/-- A message with this id, unsigned and unencrypted. -/
def barePart (messageId : String) : Node :=
  letI := signing []
  Envelope.codec.element (soap12 "Envelope") (looseEnvelope messageId (bareSecurity [48, 2]) ([none].map deliveredPart))

omit [Libraries] in
theorem bare_accepted (documents : List Node) (messageId : String) (solid : messageId ≠ "") (named : strip messageId ≠ "")
    {data : Bytes} (listed : documents.find? (fun document => plainText document == data) = some (barePart messageId)) :
    letI := signing documents
    ∃ message envelope user, parse .as4 (looseContext documents) data deliveredAttachments = .ok message ∧
      message.parseError = none ∧ message.messageId = messageId ∧ message.soapEnvelope = some envelope ∧
        requireUserMessage envelope = .ok user ∧ user.messageInfo.messageId = strip messageId := by
  have passed : letI := signing documents
      ∀ parts, List.Forall₂ (fun part part' => ∃ child, PartInfo.codec.reread child part part') ([none].map deliveredPart)
        parts → ∀ fields : AS4Message, fields.decryptedData = [] →
          decompressParts (looseContext documents) deliveredAttachments parts fields =
            .ok () { fields with decryptedData := [] } := by
    intro parts read fields decrypted
    rw [@decompressParts_unnamed (signing documents) _ _ _ (unnamed_parts (by simp) read), ← decrypted]
  obtain ⟨message, envelope, user, parsed, sound, same, -, stored, -, carries, stripped, -⟩ :=
    @unsigned_accepted (signing documents) (looseContext documents) data messageId (bareSecurity [48, 2]) ["T"] [none]
      deliveredAttachments [] [] (recorded_stamps documents).1 named solid
      (@bareSecurity_writes (signing documents) [48, 2] (by simp)) (by decide) listed rfl rfl
      (fun _ _ read => @nothing_decrypted (signing documents) _ _ _ _ _ rfl rfl read) passed
  exact ⟨message, envelope, user, parsed, sound, same, stored, carries, stripped⟩

omit [Libraries] in
/-- White space around a message id stays in the one that signals refer to. -/
theorem padded_message_id :
    letI := signing [barePart " message"]
    ∃ message envelope user, parse .as4 (looseContext [barePart " message"]) (plainText (barePart " message"))
        deliveredAttachments = .ok message ∧ message.parseError = none ∧ message.soapEnvelope = some envelope ∧
      envelope.header.messaging.userMessages = [user] ∧ ¬ AgreesEarly message envelope user := by
  obtain ⟨message, envelope, user, parsed, sound, same, stored, carries, stripped⟩ :=
    bare_accepted [barePart " message"] " message" (by decide) (by decide) (alone_listed _)
  refine ⟨message, envelope, user, parsed, sound, stored, ?_, ?_⟩
  · exact requireUserMessage_ok.mp carries
  · intro agrees
    have ids := @AgreesEarly.messageId (signing [barePart " message"]) _ _ _ agrees
    rw [same, stripped] at ids
    exact absurd ids (by decide)

omit [Libraries] in
/-- Without it both readers agree. -/
theorem plain_message_id :
    letI := signing [barePart "message"]
    ∃ message document envelope user, parse .as4 (looseContext [barePart "message"]) (plainText (barePart "message"))
        deliveredAttachments = .ok message ∧ message.soapEnvelope = some envelope ∧
      envelope.header.messaging.userMessages = [user] ∧
        (AgreesEarly message envelope user ↔ Unpadded messageIdPath (.root document)) := by
  obtain ⟨message, _, _, parsed, sound, -⟩ :=
    bare_accepted [barePart "message"] "message" (by decide) (by decide) (alone_listed _)
  obtain ⟨document, envelope, user, -, stored, carries, agrees⟩ :=
    @early_ids_agree_iff (signing [barePart "message"]) _ _ _ _ message parsed sound
  exact ⟨message, document, envelope, user, parsed, stored, carries, agrees⟩

end Messages

section Signals
variable [Libraries]

theorem messaging_signalMessages {messaging : Messaging} (plain : messaging.wildcardContent = []) :
    elementsTagged (eb3 "SignalMessage") (Messaging.codec.element (eb3 "Messaging") messaging).content =
      messaging.signalMessages.map (SignalMessage.codec.element (eb3 "SignalMessage")) := by
  rw [elementsTagged_written _ _ _ _ plain]
  change elementsTagged _ ([] ++ (messaging.signalMessages.map (SignalMessage.codec.element (eb3 "SignalMessage")) ++
    (messaging.userMessages.map (UserMessage.codec.element (eb3 "UserMessage")) ++ ([] ++ [])))) = _
  simp +decide [elementsTagged_append, elementsTagged_map]

theorem signal_messageInfo_written {signal : SignalMessage} (plain : signal.wildcardContent = []) :
    elementsTagged (eb3 "MessageInfo") (SignalMessage.codec.element (eb3 "SignalMessage") signal).content =
      [MessageInfo.codec.element (eb3 "MessageInfo") signal.messageInfo] := by
  rw [elementsTagged_written _ _ _ _ plain]
  change elementsTagged _ (MessageInfo.codec.element (eb3 "MessageInfo") signal.messageInfo ::
    (signal.pullRequest.toList.map (PullRequest.codec.element (eb3 "PullRequest")) ++
      (signal.receipt.toList.map (Receipt.codec.element (eb3 "Receipt")) ++
        signal.errors.map (Error.codec.element (eb3 "Error"))))) = _
  simp +decide [elementsTagged_cons, elementsTagged_append, elementsTagged_map]

theorem messageInfo_reference_written {info : MessageInfo} {reference : String}
    (refers : info.refToMessageId = some reference) :
    ∃ node, elementsTagged (eb3 "RefToMessageId") (MessageInfo.codec.element (eb3 "MessageInfo") info).content = [node] ∧
      node.leadingText = reference := by
  refine ⟨(stringText "value").element (eb3 "RefToMessageId") reference, ?_, ?_⟩
  · rw [elementsTagged_written _ _ _ _ rfl]
    change elementsTagged _ ((requiredText datetimeScalar "value").element (eb3 "Timestamp") info.timestamp ::
      (stringText "value").element (eb3 "MessageId") info.messageId ::
      (info.refToMessageId.toList.map ((stringText "value").element (eb3 "RefToMessageId")))) = _
    simp +decide [elementsTagged_cons, refers]
  · change leadingText (textNode reference ++ [] ++ []) = _
    rw [List.append_nil]
    exact leadingText_append_of_text _ _ rfl

/-- The message a written signal refers to, as the path finds it. -/
theorem reference_written {envelope : Envelope} {signal : SignalMessage} {reference : String}
    (plain : envelope.header.messaging.wildcardContent = []) (only : envelope.header.messaging.signalMessages = [signal])
    (closed : signal.wildcardContent = []) (refers : signal.messageInfo.refToMessageId = some reference) :
    (pathNodes (messagingPath ++ [eb3 "SignalMessage", eb3 "MessageInfo", eb3 "RefToMessageId"])
      (Envelope.codec.element (soap12 "Envelope") envelope)).head?.map (·.leadingText) = some reference := by
  obtain ⟨node, here, shown⟩ := messageInfo_reference_written refers
  change (pathNodes [soap12 "Header", eb3 "Messaging", eb3 "SignalMessage", eb3 "MessageInfo", eb3 "RefToMessageId"]
    (Envelope.codec.element (soap12 "Envelope") envelope)).head?.map (·.leadingText) = some reference
  have oneSignal : elementsTagged (eb3 "SignalMessage")
      (Messaging.codec.element (eb3 "Messaging") envelope.header.messaging).content =
        [SignalMessage.codec.element (eb3 "SignalMessage") signal] := by
    rw [messaging_signalMessages plain, only]
    rfl
  rw [pathNodes_only (envelope_header _), pathNodes_only (header_messaging _), pathNodes_only oneSignal,
    pathNodes_only (signal_messageInfo_written closed), pathNodes_only here]
  simp [pathNodes, shown]

variable {data : Bytes} {signer : Certificate} {receipt : AS4Receipt}

/-- `AS4Profile.correlate_signal` -/
def correlateSignal (signalData : Bytes) : Option String := peekOriginalMessageId signalData

/-- The fields the model reads the message a signal refers to from. -/
def referenceFields : List (QName × String) :=
  [(soap12 "Header", "header"), (eb3 "Messaging", "messaging"), (eb3 "SignalMessage", "signal_messages"),
    (eb3 "MessageInfo", "message_info"), (eb3 "RefToMessageId", "ref_to_message_id")]

/-- The RefToMessageId the model reads has its qualified name, like all above it, and
no white space around its text. -/
def Correlates (document : Node) : Prop :=
  ∀ n ∈ fieldPath referenceFields (.root document),
    n ∈ Located.findAll (referenceFields.map (·.1)) (.root document) ∧ strip n.node.leadingText = n.node.leadingText

/-- An accepted signal refers to the stripped text of one element, or to no message. -/
theorem parsed_reference (parsed : AS4Receipt.parse data signer = .ok receipt) :
    ∃ document, Libraries.parseXml data = some document ∧
      ((receipt.originalMessageId = none ∧ fieldPath referenceFields (.root document) = []) ∨
        ∃ n, fieldPath referenceFields (.root document) = [n] ∧
          receipt.originalMessageId = some (strip n.node.leadingText)) := by
  obtain ⟨document, envelope, signal, found, validated, listed, rfl, -⟩ := parse_receipt_ok parsed
  refine ⟨document, found, ?_⟩
  obtain ⟨-, ⟨_, header, headerFound, headerRead⟩, -⟩ := Envelope.reads validated
  obtain ⟨-, _, messaging, messagingFound, messagingRead⟩ := Header.reads headerRead
  have signals := (Messaging.reads messagingRead).2.1
  rw [listed] at signals
  have below : fieldPath referenceFields (.root document) =
      fieldPath [(eb3 "SignalMessage", "signal_messages"), (eb3 "MessageInfo", "message_info"),
        (eb3 "RefToMessageId", "ref_to_message_id")] messaging := by
    rw [referenceFields, fieldPath_only (foundChildren_only headerFound), fieldPath_only (foundChildren_only messagingFound)]
  rw [below]
  cases signal with
  | none =>
      have none := List.forall₂_nil_right_iff.mp signals
      exact .inl ⟨rfl, by simp [fieldPath, none]⟩
  | some signal =>
      obtain ⟨signalAt, rest, signalRead, none, one⟩ := List.forall₂_cons_right_iff.mp signals
      obtain rfl := List.forall₂_nil_right_iff.mp none
      obtain ⟨_, info, infoFound, infoRead⟩ := signal_messageInfo signalRead
      rw [fieldPath_only one, fieldPath_only (foundChildren_only infoFound)]
      rcases messageInfo_refToMessageId infoRead with ⟨absent, unread⟩ | ⟨n, only, text⟩
      · exact .inl ⟨absent, by simp [fieldPath, unread]⟩
      · exact .inr ⟨n, by simp [fieldPath, only], text⟩

/-- Looking the message up by path agrees with the parsed signal just when the element
it is read from is found by its name and carries no white space. -/
theorem correlation_agrees_iff (data : Bytes) (signer : Certificate) (receipt : AS4Receipt)
    (parsed : AS4Receipt.parse data signer = .ok receipt) :
    ∃ document, Libraries.parseXml data = some document ∧
      (correlateSignal data = receipt.originalMessageId ↔ Correlates document) := by
  obtain ⟨document, found, cases'⟩ := parsed_reference parsed
  refine ⟨document, found, ?_⟩
  have peeked : correlateSignal data =
      ((Located.root document).find (referenceFields.map (·.1))).map (·.node.leadingText) := by
    simp only [correlateSignal, peekOriginalMessageId, found, Option.bind_some]
    rfl
  rw [peeked]
  rcases cases' with ⟨absent, unread⟩ | ⟨n, only, text⟩
  · rw [absent, find_no_field unread]
    exact iff_of_true rfl fun n member => absurd (unread ▸ member) List.not_mem_nil
  · rw [text, Correlates, only, List.forall_mem_singleton]
    constructor
    · intro agrees
      obtain ⟨m, reached, same⟩ := Option.map_eq_some_iff.mp agrees
      obtain rfl : m = n := find_only_field only reached
      exact ⟨List.mem_of_head? reached, same.symm⟩
    · rintro ⟨reached, unpadded⟩
      obtain ⟨m, first⟩ : ∃ m, (Located.root document).find (referenceFields.map (·.1)) = some m :=
        Option.isSome_iff_exists.mp (by rw [Located.find, List.isSome_head?]; simp [List.ne_nil_of_mem reached])
      obtain rfl : m = n := find_only_field only first
      rw [first, Option.map_some, unpadded]

omit [Libraries] in
/-- The receiver's receipt for a message is accepted from it. -/
theorem emptyReceipt_parses (reference : String) (solid : strip reference ≠ "") :
    letI := signing [answerDocument (NonRepudiation.emptyReceipt reference)]
    ∃ receipt, AS4Receipt.parse (plainText (answerDocument (NonRepudiation.emptyReceipt reference)))
        (answeringParty [answerDocument (NonRepudiation.emptyReceipt reference)]).credentials.certificate = .ok receipt ∧
      receipt.originalMessageId = some (strip reference) := by
  have legible := @NonRepudiation.emptyReceipt_legible (signing [answerDocument (NonRepudiation.emptyReceipt reference)])
    reference (recorded_stamps _).1 solid
  obtain ⟨envelope, -, parsed⟩ := answer_parses _ (NonRepudiation.emptyReceipt reference) (answer_listed _) legible
    (.inr ⟨reference, rfl, solid⟩)
  exact ⟨_, parsed, rfl⟩

omit [Libraries] in
/-- Looked up by path, it is the text as it was written. -/
theorem emptyReceipt_peeked (reference : String) :
    letI := signing [answerDocument (NonRepudiation.emptyReceipt reference)]
    correlateSignal (plainText (answerDocument (NonRepudiation.emptyReceipt reference))) = some reference := by
  let _ := signing [answerDocument (NonRepudiation.emptyReceipt reference)]
  have found : Libraries.parseXml (plainText (answerDocument (NonRepudiation.emptyReceipt reference))) =
      some (answerDocument (NonRepudiation.emptyReceipt reference)) := answer_listed _
  simp only [correlateSignal, peekOriginalMessageId, found, Option.bind_some]
  rw [findText_nodes]
  exact reference_written rfl rfl rfl rfl

omit [Libraries] in
/-- A signal whose reference has a line break after it is looked up under another id
than it is accepted for. -/
theorem padded_reference_missed :
    letI := signing [answerDocument (NonRepudiation.emptyReceipt "message\n")]
    ∃ receipt, AS4Receipt.parse (plainText (answerDocument (NonRepudiation.emptyReceipt "message\n")))
        (answeringParty [answerDocument (NonRepudiation.emptyReceipt "message\n")]).credentials.certificate = .ok receipt ∧
      correlateSignal (plainText (answerDocument (NonRepudiation.emptyReceipt "message\n"))) ≠ receipt.originalMessageId := by
  obtain ⟨receipt, parsed, named⟩ := emptyReceipt_parses "message\n" (by decide)
  refine ⟨receipt, parsed, ?_⟩
  rw [emptyReceipt_peeked, named]
  decide

omit [Libraries] in
theorem plain_reference_found :
    letI := signing [answerDocument (NonRepudiation.emptyReceipt "message")]
    ∃ receipt document, AS4Receipt.parse (plainText (answerDocument (NonRepudiation.emptyReceipt "message")))
        (answeringParty [answerDocument (NonRepudiation.emptyReceipt "message")]).credentials.certificate = .ok receipt ∧
      (correlateSignal (plainText (answerDocument (NonRepudiation.emptyReceipt "message"))) = receipt.originalMessageId ↔
        Correlates document) := by
  obtain ⟨receipt, parsed, -⟩ := emptyReceipt_parses "message" (by decide)
  obtain ⟨document, -, agrees⟩ := @correlation_agrees_iff (signing [answerDocument (NonRepudiation.emptyReceipt "message")])
    _ _ receipt parsed
  exact ⟨receipt, document, parsed, agrees⟩

end Signals

end EarlyReadings
