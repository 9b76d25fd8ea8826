import AS4.MessageParsing
import AS4.RecordReadings

/-!
Envelopes the library wrote itself: where the paths lead that the parser follows
before it reads the whole envelope, and what it reads there.
-/

namespace WrittenEnvelope
open ElementTree ElementCodec ElementCodec.Codec FallibleSteps PythonData AS4Libraries AS4Errors SignatureModel
  MessagingModel EnvelopeModel Verification MessageParsing RecordLaws RecordReadings

section Paths

/-- The nodes a path of tags leads to, in document order. -/
def pathNodes : List QName → Node → List Node
  | [], node => [node]
  | tag :: rest, node => (elementsTagged tag node.content).flatMap (pathNodes rest)

theorem findAll_nodes (tags : List QName) (n : Located) :
    (Located.findAll tags n).map (·.node) = pathNodes tags n.node := by
  induction tags generalizing n with
  | nil => rfl
  | cons tag rest ih =>
      rw [Located.findAll, pathNodes, ← n.childrenTagged_nodes, List.map_flatMap, List.flatMap_map]
      exact List.flatMap_congr fun child _ => ih child

theorem find_nodes (tags : List QName) (n : Located) : (n.find tags).map (·.node) = (pathNodes tags n.node).head? := by
  rw [Located.find, ← List.head?_map, findAll_nodes]

theorem findText_nodes (tags : List QName) (n : Located) :
    n.findText tags = (pathNodes tags n.node).head?.map (·.leadingText) := by
  rw [Located.findText, ← find_nodes, Option.map_map]
  rfl

theorem pathNodes_only {tag : QName} {rest : List QName} {node child : Node}
    (only : elementsTagged tag node.content = [child]) : pathNodes (tag :: rest) node = pathNodes rest child := by
  simp [pathNodes, only]

end Paths

section Children
variable [Libraries]

omit [Libraries] in
/-- The children with a tag that a closed record wrote. -/
theorem elementsTagged_written {α : Type} (c : Codec α) (tag inside : QName) (value : α)
    (closed : (c.dump value).wildcard = []) :
    elementsTagged inside (c.element tag value).content = elementsTagged inside (c.dump value).children := by
  change elementsTagged inside (textNode (c.dump value).text ++ (c.dump value).children ++ (c.dump value).wildcard) = _
  rw [closed, List.append_nil, elementsTagged_append, elementsTagged_textNode, List.nil_append]

omit [Libraries] in
theorem elementsTagged_cons {α : Type} (c : Codec α) (tag inside : QName) (value : α) (rest : List Node) :
    elementsTagged inside (c.element tag value :: rest) =
      (if tag = inside then [c.element tag value] else []) ++ elementsTagged inside rest := by
  have tagged : (c.element tag value).Tagged inside ↔ tag = inside := by
    simp [Codec.element, Fragment.toElement, Node.Tagged, Node.tag?]
  by_cases same : tag = inside
  · rw [if_pos same, elementsTagged, List.filter_cons_of_pos (by simpa using tagged.mpr same)]
    rfl
  · rw [if_neg same, elementsTagged, List.filter_cons_of_neg (by simpa using mt tagged.mp same)]
    rfl

omit [Libraries] in
@[simp] theorem elementsTagged_nil (tag : QName) : elementsTagged tag [] = [] := rfl

omit [Libraries] in
theorem elementsTagged_map {α : Type} (c : Codec α) (tag inside : QName) (values : List α) :
    elementsTagged inside (values.map (c.element tag)) = if tag = inside then values.map (c.element tag) else [] := by
  induction values with
  | nil => simp
  | cons value rest ih =>
      rw [List.map_cons, elementsTagged_cons, ih]
      split <;> simp

theorem envelope_header (envelope : Envelope) :
    elementsTagged (soap12 "Header") (Envelope.codec.element (soap12 "Envelope") envelope).content =
      [Header.codec.element (soap12 "Header") envelope.header] := by
  rw [elementsTagged_written _ _ _ _ rfl]
  change elementsTagged _ [Header.codec.element (soap12 "Header") envelope.header,
    Body.codec.element (soap12 "Body") envelope.body] = _
  simp +decide [elementsTagged_cons]

theorem header_messaging (header : Header) :
    elementsTagged (eb3 "Messaging") (Header.codec.element (soap12 "Header") header).content =
      [Messaging.codec.element (eb3 "Messaging") header.messaging] := by
  rw [elementsTagged_written _ _ _ _ rfl]
  change elementsTagged _ [Security.codec.element (wsse "Security") header.security,
    Messaging.codec.element (eb3 "Messaging") header.messaging] = _
  simp +decide [elementsTagged_cons]

theorem messaging_userMessages {messaging : Messaging} (plain : messaging.wildcardContent = []) :
    elementsTagged (eb3 "UserMessage") (Messaging.codec.element (eb3 "Messaging") messaging).content =
      messaging.userMessages.map (UserMessage.codec.element (eb3 "UserMessage")) := by
  rw [elementsTagged_written _ _ _ _ plain]
  change elementsTagged _ ([] ++ (messaging.signalMessages.map (SignalMessage.codec.element (eb3 "SignalMessage")) ++
    (messaging.userMessages.map (UserMessage.codec.element (eb3 "UserMessage")) ++ ([] ++ [])))) = _
  simp +decide [elementsTagged_append, elementsTagged_map]

theorem userMessage_children (user : UserMessage) (inside : QName) :
    elementsTagged inside (UserMessage.codec.element (eb3 "UserMessage") user).content =
      elementsTagged inside (MessageInfo.codec.element (eb3 "MessageInfo") user.messageInfo ::
        PartyInfo.codec.element (eb3 "PartyInfo") user.partyInfo ::
        CollaborationInfo.codec.element (eb3 "CollaborationInfo") user.collaborationInfo ::
        (user.messageProperties.toList.map (MessageProperties.codec.element (eb3 "MessageProperties")) ++
          (user.payloadInfo.toList.map (PayloadInfo.codec.element (eb3 "PayloadInfo")) ++ []))) :=
  elementsTagged_written _ _ _ _ rfl

theorem userMessage_messageInfo (user : UserMessage) :
    elementsTagged (eb3 "MessageInfo") (UserMessage.codec.element (eb3 "UserMessage") user).content =
      [MessageInfo.codec.element (eb3 "MessageInfo") user.messageInfo] := by
  simp +decide [userMessage_children, elementsTagged_cons, elementsTagged_append, elementsTagged_map]

theorem userMessage_partyInfo (user : UserMessage) :
    elementsTagged (eb3 "PartyInfo") (UserMessage.codec.element (eb3 "UserMessage") user).content =
      [PartyInfo.codec.element (eb3 "PartyInfo") user.partyInfo] := by
  simp +decide [userMessage_children, elementsTagged_cons, elementsTagged_append, elementsTagged_map]

theorem messageInfo_messageId (info : MessageInfo) :
    ∃ node, elementsTagged (eb3 "MessageId") (MessageInfo.codec.element (eb3 "MessageInfo") info).content = [node] ∧
      node.leadingText = info.messageId := by
  refine ⟨(stringText "value").element (eb3 "MessageId") info.messageId, ?_, ?_⟩
  · rw [elementsTagged_written _ _ _ _ rfl]
    change elementsTagged _ ((requiredText datetimeScalar "value").element (eb3 "Timestamp") info.timestamp ::
      (stringText "value").element (eb3 "MessageId") info.messageId ::
      (info.refToMessageId.toList.map ((stringText "value").element (eb3 "RefToMessageId")))) = _
    simp +decide [elementsTagged_cons, elementsTagged_map]
  · change leadingText (textNode info.messageId ++ [] ++ []) = _
    rw [List.append_nil]
    exact leadingText_append_of_text _ _ rfl

omit [Libraries] in
theorem partyInfo_to (parties : PartyInfo) :
    elementsTagged (eb3 "To") (PartyInfo.codec.element (eb3 "PartyInfo") parties).content =
      [Party.codec.element (eb3 "To") parties.partyTo] := by
  rw [elementsTagged_written _ _ _ _ rfl]
  change elementsTagged _ [Party.codec.element (eb3 "From") parties.partyFrom,
    Party.codec.element (eb3 "To") parties.partyTo] = _
  simp +decide [elementsTagged_cons]

end Children

section Prevalidation
variable [Libraries] {envelope : Envelope} {user : UserMessage}

/-- The messaging header is found where it was written. -/
theorem find_messaging (envelope : Envelope) :
    ((Located.root (Envelope.codec.element (soap12 "Envelope") envelope)).find messagingPath).map (·.node) =
      some (Messaging.codec.element (eb3 "Messaging") envelope.header.messaging) := by
  rw [find_nodes]
  change (pathNodes [soap12 "Header", eb3 "Messaging"] (Envelope.codec.element (soap12 "Envelope") envelope)).head? = _
  rw [pathNodes_only (envelope_header envelope), pathNodes_only (header_messaging envelope.header)]
  rfl

theorem pathNodes_userMessage (plain : envelope.header.messaging.wildcardContent = [])
    (only : envelope.header.messaging.userMessages = [user]) (rest : List QName) :
    pathNodes (messagingPath ++ eb3 "UserMessage" :: rest) (Envelope.codec.element (soap12 "Envelope") envelope) =
      pathNodes rest (UserMessage.codec.element (eb3 "UserMessage") user) := by
  change pathNodes (soap12 "Header" :: eb3 "Messaging" :: eb3 "UserMessage" :: rest) _ = _
  rw [pathNodes_only (envelope_header envelope), pathNodes_only (header_messaging envelope.header)]
  exact pathNodes_only (by rw [messaging_userMessages plain, only]; rfl)

/-- A written user message has the ids a signal needs. -/
theorem preValidate_written {messagingId : String} (plain : envelope.header.messaging.wildcardContent = [])
    (only : envelope.header.messaging.userMessages = [user])
    (identified : envelope.header.messaging.messagingId = some messagingId)
    (named : user.messageInfo.messageId ≠ "") (placed : messagingId ≠ "") :
    preValidate (.root (Envelope.codec.element (soap12 "Envelope") envelope)) =
      .ok (user.messageInfo.messageId, messagingId) := by
  have text : (Located.root (Envelope.codec.element (soap12 "Envelope") envelope)).findText messageIdPath =
      some user.messageInfo.messageId := by
    obtain ⟨node, here, shown⟩ := messageInfo_messageId user.messageInfo
    rw [findText_nodes]
    change (pathNodes (messagingPath ++ eb3 "UserMessage" :: [eb3 "MessageInfo", eb3 "MessageId"])
      (Envelope.codec.element (soap12 "Envelope") envelope)).head?.map (·.leadingText) = _
    rw [pathNodes_userMessage plain only, pathNodes_only (userMessage_messageInfo user), pathNodes_only here]
    simp [pathNodes, shown]
  obtain ⟨messaging, found, node⟩ := Option.map_eq_some_iff.mp (find_messaging envelope)
  have carried : messaging.node.attribute (wsu "Id") = some messagingId := by
    rw [node]
    simp [Node.attribute, Node.attrib, Codec.element, Fragment.toElement, Messaging.codec, record, withWildcard, pair,
      etreeElement, many, optionalAttribute, attributeOr, Fragment.append, attributeFragment, Scalar.optional,
      Scalar.string, identified, placed]
  simp [preValidate, text, found, carried, named, placed]

/-- The party a written user message is addressed to, as it is read back. -/
theorem getAddressedTo_written (plain : envelope.header.messaging.wildcardContent = [])
    (only : envelope.header.messaging.userMessages = [user]) (roled : strip user.partyInfo.partyTo.role ≠ "") :
    getAddressedTo ((Located.root (Envelope.codec.element (soap12 "Envelope") envelope)).find partyToPath) =
      .ok ⟨strip user.partyInfo.partyTo.partyId.value, written user.partyInfo.partyTo.partyId.typeValue⟩ := by
  have node : ((Located.root (Envelope.codec.element (soap12 "Envelope") envelope)).find partyToPath).map (·.node) =
      some (Party.codec.element (eb3 "To") user.partyInfo.partyTo) := by
    rw [find_nodes]
    change (pathNodes (messagingPath ++ eb3 "UserMessage" :: [eb3 "PartyInfo", eb3 "To"])
      (Envelope.codec.element (soap12 "Envelope") envelope)).head? = _
    rw [pathNodes_userMessage plain only, pathNodes_only (userMessage_partyInfo user),
      pathNodes_only (partyInfo_to user.partyInfo)]
    rfl
  obtain ⟨element, found, node⟩ := Option.map_eq_some_iff.mp node
  obtain ⟨reads, kept⟩ := rereads_element Party.lawful
    (show Party.codec.admits user.partyInfo.partyTo by simp [Party.codec, PartyId.codec, stringText]) node
  obtain ⟨party, read⟩ := reads.mp (by simp [Party.codec, PartyId.codec, stringText, roled])
  obtain rfl := Party.rereads (kept party read)
  simp [getAddressedTo, found, read, Except.mapError, AS4PartyIdentity.fromParty, bind, Except.bind, pure, Except.pure]

end Prevalidation

section Samples
variable [Libraries]

omit [Libraries] in
/-- A user message with nothing but what every user message has. -/
def plainUserMessage (time : Datetime) : UserMessage where
  messageInfo := { timestamp := time, messageId := "message" }
  partyInfo := ⟨⟨⟨"sender", none⟩, initiator⟩, ⟨⟨"receiver", none⟩, responder⟩⟩
  collaborationInfo := { service := ⟨"service", none⟩, action := "action", conversationId := "conversation" }

omit [Libraries] in
def plainEnvelope (time : Datetime) (security : Security) : Envelope where
  header := { security := security, messaging := { userMessages := [plainUserMessage time], messagingId := some "M" } }
  body := {}

/-- A time that is read back after it was written. -/
def Stamps (time : Datetime) : Prop :=
  strip (Libraries.isoformat time) ≠ "" ∧ ∃ time', Libraries.parseDatetime (strip (Libraries.isoformat time)) = .ok time'

variable {time : Datetime} {security : Security}

theorem plainEnvelope_admits (admitted : Security.codec.admits security) :
    Envelope.codec.admits (plainEnvelope time security) := by
  simp [Envelope.codec, Header.codec, Messaging.codec, Body.codec, UserMessage.codec, MessageInfo.codec, PartyInfo.codec,
    Party.codec, PartyId.codec, CollaborationInfo.codec, Service.codec, stringText, plainEnvelope, plainUserMessage,
    admitted]

theorem plainEnvelope_readable (stamps : Stamps time) (readable : Security.codec.readable security) :
    Envelope.codec.readable (plainEnvelope time security) := by
  have stamped : (requiredText datetimeScalar "value").readable time := requiredText_readable.mpr stamps
  have understood : (optionalAttribute boolScalar (soap12 "mustUnderstand")
      "w3_org_2003_05_soap_envelope_must_understand").readable none := .inl rfl
  have texts : strip "message" ≠ "" ∧ strip initiator ≠ "" ∧ strip responder ≠ "" ∧ strip "service" ≠ "" ∧
      strip "action" ≠ "" ∧ strip "conversation" ≠ "" := by decide
  simp [Envelope.codec, Header.codec, Messaging.codec, Body.codec, UserMessage.codec, MessageInfo.codec, PartyInfo.codec,
    Party.codec, PartyId.codec, CollaborationInfo.codec, Service.codec, stringText, plainEnvelope, plainUserMessage,
    readable, stamped, understood, texts]

/-- A plain envelope is read with the security header it was written with, and with
its one user message. -/
theorem plainEnvelope_reads (stamps : Stamps time) (admitted : Security.codec.admits security)
    (readable : Security.codec.readable security) :
    ∃ envelope, Envelope.codec.validate
        (.root (Envelope.codec.element (soap12 "Envelope") (plainEnvelope time security))) = .ok envelope ∧
      (∃ child, Security.codec.reread child security envelope.header.security) ∧
        ∃ user, envelope.header.messaging.userMessages = [user] ∧
          ∃ child, UserMessage.codec.reread child (plainUserMessage time) user := by
  obtain ⟨reads, kept⟩ := rereads_element Envelope.lawful
    (show Envelope.codec.admits (plainEnvelope time security) from plainEnvelope_admits admitted)
    (n := .root (Envelope.codec.element (soap12 "Envelope") (plainEnvelope time security))) rfl
  obtain ⟨envelope, read⟩ := reads.mp (plainEnvelope_readable stamps readable)
  obtain ⟨⟨header, -, -, headerRead⟩, -⟩ := Envelope.rereads (kept envelope read)
  obtain ⟨⟨securityAt, -, -, securityRead⟩, messaging, -, -, messagingRead⟩ := Header.rereads headerRead
  obtain ⟨-, -, users⟩ := Messaging.rereads messagingRead
  obtain ⟨user, one⟩ : ∃ user, envelope.header.messaging.userMessages = [user] :=
    List.length_eq_one_iff.mp users.length_eq.symm
  exact ⟨envelope, read, ⟨securityAt, securityRead⟩, user, one, (List.forall₂_cons.mp (one ▸ users)).1⟩

theorem plainEnvelope_identified :
    preValidate (.root (Envelope.codec.element (soap12 "Envelope") (plainEnvelope time security))) =
      .ok ("message", "M") :=
  @preValidate_written _ (plainEnvelope time security) (plainUserMessage time) _ rfl rfl rfl
    (show "message" ≠ "" by decide) (by decide)

theorem plainEnvelope_addressed :
    getAddressedTo ((Located.root (Envelope.codec.element (soap12 "Envelope") (plainEnvelope time security))).find
      partyToPath) = .ok ⟨strip "receiver", none⟩ :=
  @getAddressedTo_written _ (plainEnvelope time security) (plainUserMessage time) rfl rfl
    (show strip responder ≠ "" by decide)

end Samples

end WrittenEnvelope
