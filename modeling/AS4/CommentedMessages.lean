import AS4.TwinReadings
import AS4.EarlyReadings

/-!
What is signed and what is read. The canonical form of an element drops comments, so a
comment put into a signed message leaves every digest and signature as it was; the text
of an element is read up to the first comment. What two such messages say is the same
just where no comment cuts the text of one of them short.
-/

namespace CommentedMessages
open ElementTree ElementCodec ElementCodec.Codec FallibleSteps PythonData AS4Libraries SignatureModel MessagingModel
  EnvelopeModel MessageParsing AcceptedMessage ReferenceVerification Comments TwinReadings EarlyReadings
  DeliveredMessage LooseMessages RecordedExchange ReceivingRuns Serialisation

section Records
variable [Libraries]

/-- The texts an element is read from, by the fields that lead to it. -/
abbrev Fields := List (QName × String)

theorem agree_messageInfo : Agree MessageInfo.codec (fun info info' => info.messageId = info'.messageId)
    (SameTexts [(eb3 "MessageId", "message_id")]) := by
  refine (agree_record (fun _ => rfl) (agree_pair agree_any (agree_pair (agree_singular agree_requiredText) agree_any))).congr
    ?_ ?_
  · simp
  · simp [Unread, SameTexts]

omit [Libraries] in
/-- A party keeps its id and its type. -/
theorem agree_party : Agree Party.codec (fun party party' => party.partyId = party'.partyId)
    (SameTexts [(eb3 "PartyId", "party_id")]) := by
  have identified : Agree PartyId.codec Eq (SameTexts []) := by
    refine (agree_record (fun _ => rfl) (agree_pair agree_textOr agree_attribute)).congr ?_ ?_
    · rintro ⟨value, typeValue⟩ ⟨value', typeValue'⟩
      simp
    · simp [Unread]
  refine (agree_record (fun _ => rfl) (agree_pair (agree_singular identified) agree_any)).congr ?_ ?_
  · simp
  · simp [Unread, SameTexts]

omit [Libraries] in
theorem agree_partyInfo : Agree PartyInfo.codec
    (fun info info' => info.partyFrom.partyId = info'.partyFrom.partyId ∧ info.partyTo.partyId = info'.partyTo.partyId)
    (fun n n' => SameTexts [(eb3 "From", "party_from"), (eb3 "PartyId", "party_id")] n n' ∧
      SameTexts [(eb3 "To", "party_to"), (eb3 "PartyId", "party_id")] n n') :=
  agree_record (fun _ => rfl) (agree_pair (agree_singular agree_party) (agree_singular agree_party))

omit [Libraries] in
theorem agree_collaborationInfo : Agree CollaborationInfo.codec
    (fun info info' => info.conversationId = info'.conversationId)
    (SameTexts [(eb3 "ConversationId", "conversation_id")]) := by
  refine (agree_record (fun _ => rfl) (agree_pair agree_any (agree_pair agree_any (agree_pair agree_any
    (agree_singular agree_requiredText))))).congr ?_ ?_
  · simp
  · simp [Unread, SameTexts]

omit [Libraries] in
theorem agree_property : Agree Property.codec Eq (SameTexts []) := by
  refine (agree_record (fun _ => rfl) (agree_pair agree_attribute (agree_pair agree_requiredText
    agree_requiredAttribute))).congr ?_ ?_
  · rintro ⟨propertyType, value, name⟩ ⟨propertyType', value', name'⟩
    simp
  · simp [Unread]

omit [Libraries] in
theorem agree_messageProperties : Agree MessageProperties.codec Eq (SameTexts [(eb3 "Property", "properties")]) := by
  refine (agree_record (fun _ => rfl) (agree_manyMinOne agree_property)).congr ?_ fun _ _ _ => Iff.rfl
  rintro ⟨properties⟩ ⟨properties'⟩
  simp

omit [Libraries] in
/-- The parts name the same attachments, whatever their text. -/
theorem agree_payloadInfo : Agree PayloadInfo.codec
    (fun info info' => info.partInfo.map (·.href) = info'.partInfo.map (·.href)) Unread := by
  have named : Agree PartInfo.codec (fun part part' => part.href = part'.href) Unread := by
    refine (agree_record (fun _ => rfl) (agree_pair agree_any (agree_pair agree_any (agree_pair agree_any
      agree_attribute)))).congr ?_ ?_
    · simp
    · simp [Unread]
  refine (agree_record (fun _ => rfl) (agree_manyMinOne named)).congr ?_ fun n n' twins => ?_
  · intro info info'
    rw [← List.forall₂_eq_eq_eq, List.forall₂_map_left_iff, List.forall₂_map_right_iff]
  · exact iff_of_true (twins.beneath_unread _ _) trivial

/-- What is read of a user message is the same in both. -/
structure SameUser (user user' : UserMessage) : Prop where
  messageId : user.messageInfo.messageId = user'.messageInfo.messageId
  partyFrom : user.partyInfo.partyFrom.partyId = user'.partyInfo.partyFrom.partyId
  partyTo : user.partyInfo.partyTo.partyId = user'.partyInfo.partyTo.partyId
  conversationId : user.collaborationInfo.conversationId = user'.collaborationInfo.conversationId
  messageProperties : user.messageProperties = user'.messageProperties
  hrefs : user.payloadInfo.map (·.partInfo.map (·.href)) = user'.payloadInfo.map (·.partInfo.map (·.href))

omit [Libraries] in
/-- The fields of a user message that are read from text. -/
def userFields : List Fields :=
  [[(eb3 "MessageInfo", "message_info"), (eb3 "MessageId", "message_id")],
   [(eb3 "PartyInfo", "party_info"), (eb3 "From", "party_from"), (eb3 "PartyId", "party_id")],
   [(eb3 "PartyInfo", "party_info"), (eb3 "To", "party_to"), (eb3 "PartyId", "party_id")],
   [(eb3 "CollaborationInfo", "collaboration_info"), (eb3 "ConversationId", "conversation_id")],
   [(eb3 "MessageProperties", "message_properties"), (eb3 "Property", "properties")]]

theorem agree_userMessage : Agree UserMessage.codec SameUser (fun n n' => ∀ fields ∈ userFields, SameTexts fields n n') := by
  refine (agree_record (fun _ => rfl) (agree_pair (agree_singular agree_messageInfo) (agree_pair (agree_singular agree_partyInfo)
    (agree_pair (agree_singular agree_collaborationInfo) (agree_pair (agree_optional agree_messageProperties)
      (agree_pair (agree_optional agree_payloadInfo) agree_any)))))).congr ?_ fun n n' twins => ?_
  · intro user user'
    have properties : Option.Rel Eq user.messageProperties user'.messageProperties ↔
        user.messageProperties = user'.messageProperties := by
      cases user.messageProperties <;> cases user'.messageProperties <;> simp
    have hrefs : Option.Rel (fun info info' : PayloadInfo => info.partInfo.map (·.href) = info'.partInfo.map (·.href))
        user.payloadInfo user'.payloadInfo ↔
          user.payloadInfo.map (·.partInfo.map (·.href)) = user'.payloadInfo.map (·.partInfo.map (·.href)) := by
      cases user.payloadInfo <;> cases user'.payloadInfo <;> simp
    simp only [properties, hrefs, and_true]
    exact ⟨fun ⟨id, ⟨sender, addressee⟩, conversation, same, parts⟩ => ⟨id, sender, addressee, conversation, same, parts⟩,
      fun ⟨id, sender, addressee, conversation, same, parts⟩ => ⟨id, ⟨sender, addressee⟩, conversation, same, parts⟩⟩
  · have silent := twins.beneath_unread (eb3 "PayloadInfo") "payload_info"
    simp only [beneath_and, userFields, List.forall_mem_cons, List.not_mem_nil, IsEmpty.forall_iff, implies_true, and_true]
    exact ⟨fun ⟨id, ⟨sender, addressee⟩, conversation, properties, _⟩ => ⟨id, sender, addressee, conversation, properties⟩,
      fun ⟨id, sender, addressee, conversation, properties⟩ =>
        ⟨id, ⟨sender, addressee⟩, conversation, properties, silent, trivial⟩⟩

/-- What is read of a reference, its wild content apart. -/
structure SameReference (reference reference' : DsigReference) : Prop where
  transforms : reference.transforms.transforms.map (·.algorithm) = reference'.transforms.transforms.map (·.algorithm)
  digestMethod : reference.digestMethod.algorithm = reference'.digestMethod.algorithm
  digestValue : reference.digestValue.text = reference'.digestValue.text
  id : reference.id = reference'.id
  uri : reference.uri = reference'.uri
  typeValue : reference.typeValue = reference'.typeValue

omit [Libraries] in
theorem agree_transforms : Agree Transforms.codec
    (fun transforms transforms' => transforms.transforms.map (·.algorithm) = transforms'.transforms.map (·.algorithm))
    Unread := by
  have named : Agree Transform.codec (fun transform transform' => transform.algorithm = transform'.algorithm) Unread :=
    agree_record (fun _ => rfl) (agree_wildcard agree_attribute)
  refine (agree_record (fun _ => rfl) (agree_many named)).congr ?_ fun n n' twins => ?_
  · intro transforms transforms'
    rw [← List.forall₂_eq_eq_eq, List.forall₂_map_left_iff, List.forall₂_map_right_iff]
  · exact iff_of_true (twins.beneath_unread _ _) trivial

omit [Libraries] in
theorem agree_reference : Agree DsigReference.codec SameReference (SameTexts [(ds "DigestValue", "digest_value")]) := by
  have method : Agree DigestMethod.codec (fun method method' => method.algorithm = method'.algorithm) Unread :=
    agree_record (fun _ => rfl) agree_requiredAttribute
  have value : Agree DigestValue.codec (fun value value' => value.text = value'.text) (SameTexts []) :=
    agree_record (fun _ => rfl) agree_requiredText
  refine (agree_record (fun _ => rfl) (agree_pair (agree_singular agree_transforms) (agree_pair (agree_singular method)
    (agree_pair (agree_singular value) (agree_pair agree_attribute (agree_pair agree_attribute agree_attribute)))))).congr
      ?_ fun n n' twins => ?_
  · exact fun reference reference' =>
      ⟨fun ⟨transforms, method, value, id, uri, kind⟩ => ⟨transforms, method, value, id, uri, kind⟩,
        fun ⟨transforms, method, value, id, uri, kind⟩ => ⟨transforms, method, value, id, uri, kind⟩⟩
  · exact ⟨fun ⟨_, _, value, _⟩ => value,
      fun value => ⟨twins.beneath_unread _ _, twins.beneath_unread _ _, value, trivial, trivial, trivial⟩⟩

/-- The signatures are over the same references, or there is none. -/
def SameSignature : Option Signature → Option Signature → Prop :=
  Option.Rel fun signature signature' =>
    List.Forall₂ SameReference signature.signedInfo.references signature'.signedInfo.references

omit [Libraries] in
def digestFields : Fields :=
  [(ds "Signature", "signature"), (ds "SignedInfo", "signed_info"), (ds "Reference", "references"),
   (ds "DigestValue", "digest_value")]

theorem agree_security : Agree Security.codec (fun security security' => SameSignature security.signature security'.signature)
    (SameTexts digestFields) := by
  have info : Agree SignedInfo.codec (fun info info' => List.Forall₂ SameReference info.references info'.references)
      (SameTexts [(ds "Reference", "references"), (ds "DigestValue", "digest_value")]) := by
    refine (agree_record (fun _ => rfl) (agree_pair agree_any (agree_pair agree_any (agree_pair agree_any
      (agree_pair (agree_many agree_reference) agree_any))))).congr ?_ ?_
    · simp
    · simp [Unread, SameTexts]
  have signature : Agree Signature.codec (fun signature signature' =>
      List.Forall₂ SameReference signature.signedInfo.references signature'.signedInfo.references)
      (SameTexts [(ds "SignedInfo", "signed_info"), (ds "Reference", "references"), (ds "DigestValue", "digest_value")]) := by
    refine (agree_record (fun _ => rfl) (agree_pair (agree_singular info) agree_any)).congr ?_ ?_
    · simp
    · simp [Unread, SameTexts]
  refine (agree_record (fun _ => rfl) (agree_pair agree_any (agree_pair agree_any (agree_pair agree_any
    (agree_pair (agree_optional signature) agree_any))))).congr ?_ ?_
  · simp [SameSignature]
  · simp [Unread, SameTexts, digestFields]

/-- What is read of an envelope. -/
structure SameEnvelope (envelope envelope' : Envelope) : Prop where
  signature : SameSignature envelope.header.security.signature envelope'.header.security.signature
  userMessages : List.Forall₂ SameUser envelope.header.messaging.userMessages envelope'.header.messaging.userMessages

omit [Libraries] in
/-- The texts of a document that this is read from. -/
def readFields : List Fields :=
  ((soap12 "Header", "header") :: (wsse "Security", "security") :: digestFields) ::
    userFields.map fun fields =>
      (soap12 "Header", "header") :: (eb3 "Messaging", "messaging") :: (eb3 "UserMessage", "user_messages") :: fields

theorem agree_envelope : Agree Envelope.codec SameEnvelope (fun n n' => ∀ fields ∈ readFields, SameTexts fields n n') := by
  have messaging : Agree Messaging.codec
      (fun messaging messaging' => List.Forall₂ SameUser messaging.userMessages messaging'.userMessages)
      (fun n n' => ∀ fields ∈ userFields, SameTexts ((eb3 "UserMessage", "user_messages") :: fields) n n') := by
    refine (agree_record (fun _ => rfl) (agree_wildcard (agree_pair agree_any (agree_pair agree_any
      (agree_pair (agree_many agree_userMessage) agree_any))))).congr ?_ fun n n' twins => ?_
    · simp
    · simp [Unread, twins.beneath_all]
  have header : Agree Header.codec
      (fun header header' => SameSignature header.security.signature header'.security.signature ∧
        List.Forall₂ SameUser header.messaging.userMessages header'.messaging.userMessages)
      (fun n n' => ∀ fields ∈ ((wsse "Security", "security") :: digestFields) :: userFields.map fun fields =>
        (eb3 "Messaging", "messaging") :: (eb3 "UserMessage", "user_messages") :: fields, SameTexts fields n n') := by
    refine (agree_record (fun _ => rfl) (agree_pair (agree_singular agree_security) (agree_singular messaging))).congr
      (fun _ _ => Iff.rfl) fun n n' twins => ?_
    have below := twins.beneath_all (eb3 "Messaging") "messaging"
      (userFields.map fun fields => (eb3 "UserMessage", "user_messages") :: fields)
    simp only [List.forall_mem_map] at below
    simp only [List.forall_mem_cons, List.forall_mem_map, ← below]
    rfl
  refine (agree_record (fun _ => rfl) (agree_pair agree_any (agree_pair (agree_singular header) agree_any))).congr ?_
    fun n n' twins => ?_
  · exact fun envelope envelope' => ⟨fun ⟨_, same, _⟩ => ⟨same.1, same.2⟩, fun same => ⟨trivial, ⟨same.1, same.2⟩, trivial⟩⟩
  · rw [twins.beneath_all]
    simp [Unread, readFields]

end Records

section Messages
variable [Libraries] {cls : MessageClass} {context : AS4ParseContext} {soapBytes soapBytes' : Bytes}
  {mimeAttachments : Dict String Bytes} {message message' : AS4Message}

/-- The same was read from both messages. -/
structure SameMessage (message message' : AS4Message) : Prop where
  messageId : message.messageId = message'.messageId
  addressedTo : message.addressedTo = message'.addressedTo
  envelope : Option.Rel SameEnvelope message.soapEnvelope message'.soapEnvelope

/-- No comment cuts a text that is read of one of the documents shorter than in the
other, but for white space, and that of the message id not at all. -/
structure SameCuts (document document' : Node) : Prop where
  texts : ∀ fields ∈ readFields, SameTexts fields (.root document) (.root document')
  messageId : ∀ n ∈ Located.findAll messageIdPath (.root document),
    ∀ n' ∈ Located.findAll messageIdPath (.root document'), n.node.leadingText = n'.node.leadingText

omit [Libraries] in
/-- Beside a message in which comments cut nothing, that is a question about the other one
alone. -/
theorem same_texts_iff_uncut {document document' : Node} (twins : withoutComments document = withoutComments document')
    (uncut : ∀ fields ∈ readFields, UncutTexts fields (.root document)) :
    (∀ fields ∈ readFields, SameTexts fields (.root document) (.root document')) ↔
      ∀ fields ∈ readFields, UncutTexts fields (.root document') := by
  have both : Twins (.root document) (.root document') := twins
  exact forall₂_congr fun fields member => both.sameTexts_iff (uncut fields member)

/-- Two messages that differ only by comments say the same just where no comment cuts
what is read of them. -/
theorem same_message_iff (cls : MessageClass) (context : AS4ParseContext) (soapBytes soapBytes' : Bytes)
    (mimeAttachments : Dict String Bytes) (document document' : Node)
    (found : Libraries.parseXml soapBytes = some document) (found' : Libraries.parseXml soapBytes' = some document')
    (twins : withoutComments document = withoutComments document') (message message' : AS4Message)
    (parsed : parse cls context soapBytes mimeAttachments = .ok message) (accepted : message.parseError = none)
    (parsed' : parse cls context soapBytes' mimeAttachments = .ok message') (accepted' : message'.parseError = none) :
    SameMessage message message' ↔ SameCuts document document' := by
  obtain ⟨reading, accepts⟩ := parse_accepts parsed accepted
  obtain ⟨reading', accepts'⟩ := parse_accepts parsed' accepted'
  obtain rfl := Option.some.inj (found.symm.trans accepts.parsed)
  obtain rfl := Option.some.inj (found'.symm.trans accepts'.parsed)
  obtain ⟨-, addressed, n, reached, only, taken, -⟩ := accepted_early accepts
  obtain ⟨-, addressed', n', reached', only', taken', -⟩ := accepted_early accepts'
  have ids : message.messageId = message'.messageId ↔ ∀ n ∈ Located.findAll messageIdPath (.root reading.document),
      ∀ n' ∈ Located.findAll messageIdPath (.root reading'.document), n.node.leadingText = n'.node.leadingText := by
    rw [taken, taken']
    constructor
    · intro same m member m' member'
      rw [only m member, only' m' member', same]
    · intro each
      exact each n reached n' reached'
  have envelopes : SameEnvelope reading.envelope reading'.envelope ↔
      ∀ fields ∈ readFields, SameTexts fields (.root reading.document) (.root reading'.document) :=
    agree_envelope (show Twins (.root _) (.root _) from twins) accepts.validated accepts'.validated
  constructor
  · rintro ⟨sameId, -, same⟩
    rw [accepts.stored, accepts'.stored] at same
    cases same with
    | some same => exact ⟨envelopes.mp same, ids.mp sameId⟩
  · rintro ⟨texts, messageId⟩
    have same := envelopes.mpr texts
    refine ⟨ids.mpr messageId, ?_, by rw [accepts.stored, accepts'.stored]; exact .some same⟩
    have users := same.userMessages
    rw [requireUserMessage_ok.mp accepts.hasUserMessage, requireUserMessage_ok.mp accepts'.hasUserMessage] at users
    have addressee := (List.forall₂_cons.mp users).1.partyTo
    rw [addressed, addressed']
    simp [AS4PartyIdentity.fromParty, addressee]

end Messages

section Cuts

mutual
/-- A comment in the middle of the message id. -/
def cutMessageId : Node → Node
  | .element tag attrib content =>
      if tag = eb3 "MessageId" then .element tag attrib [.text "mess", .comment "", .text "age"]
      else .element tag attrib (cutMessageIds content)
  | node => node

def cutMessageIds : List Node → List Node
  | [] => []
  | node :: rest => cutMessageId node :: cutMessageIds rest
end

/-- A comment in front of everything in an element. -/
def announced (node : Node) : Node :=
  match node with
  | .element tag attrib content => .element tag attrib (.comment "" :: content)
  | node => node

def announcedPart : Node := announced (barePart "message")

def cutPart : Node := announced (cutMessageId (barePart "message"))

theorem announcedPart_twin : withoutComments (barePart "message") = withoutComments announcedPart := rfl

theorem cutPart_twin : withoutComments (barePart "message") = withoutComments cutPart := rfl

/-- What the core parser makes of a document, and the id it takes from it. -/
def accepts (documents : List Node) (document : Node) (messageId : String) : Bool :=
  letI := signing documents
  match preValidate (.root document), getAddressedTo ((Located.root document).find partyToPath) with
  | .ok (id, messagingId), .ok identity =>
      match process .as4 (looseContext documents) (.root document) deliveredAttachments
        { messageId := id, messagingId := messagingId, addressedTo := some identity } with
      | .ok _ fields => fields.parseError.isNone && fields.messageId == messageId
      | _ => false
  | _, _ => false

theorem accepts_parses (documents : List Node) {document : Node} {messageId : String} {data : Bytes}
    (listed : documents.find? (fun other => plainText other == data) = some document)
    (runs : accepts documents document messageId = true) :
    letI := signing documents
    ∃ message, parse .as4 (looseContext documents) data deliveredAttachments = .ok message ∧ message.parseError = none ∧
      message.messageId = messageId := by
  let _ := signing documents
  unfold accepts at runs
  split at runs
  · rename_i id messagingId identity identified addressed
    split at runs
    · rename_i fields processed
      simp only [Bool.and_eq_true, Option.isNone_iff_eq_none, beq_iff_eq] at runs
      exact ⟨fields, MessageReadings.parse_runs listed identified addressed processed, runs.1, runs.2⟩
    · exact absurd runs Bool.false_ne_true
  · exact absurd runs Bool.false_ne_true

/-- A comment in the middle of a message id is in no canonical form, and shortens the
id that is read. -/
theorem cut_message_differs :
    letI := signing [cutPart, barePart "message"]
    withoutComments (barePart "message") = withoutComments cutPart ∧
      ∃ message message', parse .as4 (looseContext [cutPart, barePart "message"]) (plainText (barePart "message"))
          deliveredAttachments = .ok message ∧ message.parseError = none ∧
        parse .as4 (looseContext [cutPart, barePart "message"]) (plainText cutPart) deliveredAttachments = .ok message' ∧
          message'.parseError = none ∧ ¬ SameMessage message message' := by
  have apart : plainText cutPart ≠ plainText (barePart "message") := by
    have inside : (plainText cutPart)[67]? ≠ (plainText (barePart "message"))[67]? := by decide +kernel
    exact fun same => inside (congrArg (fun bytes : Bytes => bytes[67]?) same)
  obtain ⟨message, _, _, parsed, sound, id, -⟩ := bare_accepted [cutPart, barePart "message"] "message" (by decide)
    (by decide) (listed_last apart)
  obtain ⟨message', parsed', sound', id'⟩ := accepts_parses [cutPart, barePart "message"]
    (List.find?_cons_of_pos (beq_self_eq_true _)) (by decide +kernel : accepts _ cutPart "mess" = true)
  refine ⟨cutPart_twin, message, message', parsed, sound, parsed', sound', fun same => ?_⟩
  have ids : "message" = "mess" := id.symm.trans
    ((@SameMessage.messageId (signing [cutPart, barePart "message"]) _ _ same).trans id')
  exact absurd ids (by decide)

/-- A comment that cuts no text changes nothing that is read. -/
theorem announced_message_same :
    letI := signing [announcedPart, barePart "message"]
    ∃ message message', parse .as4 (looseContext [announcedPart, barePart "message"]) (plainText (barePart "message"))
        deliveredAttachments = .ok message ∧
      parse .as4 (looseContext [announcedPart, barePart "message"]) (plainText announcedPart) deliveredAttachments =
          .ok message' ∧
        (SameMessage message message' ↔ SameCuts (barePart "message") announcedPart) := by
  have apart : plainText announcedPart ≠ plainText (barePart "message") := by
    have inside : (plainText announcedPart)[67]? ≠ (plainText (barePart "message"))[67]? := by decide +kernel
    exact fun same => inside (congrArg (fun bytes : Bytes => bytes[67]?) same)
  have found := listed_last apart
  have found' : [announcedPart, barePart "message"].find? (fun listed => plainText listed == plainText announcedPart) =
      some announcedPart := List.find?_cons_of_pos (beq_self_eq_true _)
  obtain ⟨message, _, _, parsed, sound, -⟩ := bare_accepted [announcedPart, barePart "message"] "message" (by decide)
    (by decide) found
  obtain ⟨message', parsed', sound', -⟩ := accepts_parses [announcedPart, barePart "message"] found'
    (by decide +kernel : accepts _ announcedPart "message" = true)
  exact ⟨message, message', parsed, parsed', @same_message_iff (signing [announcedPart, barePart "message"]) .as4
    (looseContext [announcedPart, barePart "message"]) _ _ deliveredAttachments _ _ found found' announcedPart_twin message
    message' parsed sound parsed' sound'⟩

end Cuts

end CommentedMessages
