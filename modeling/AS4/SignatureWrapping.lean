import AS4.AcceptedDelivery
import AS4.ReferenceVerification

/-!
Which nodes an accepted message was read from, and whether these are the signed
ones. The path lookups and the record readers agree on one messaging header and
one body. Coverage asks for less than that: some signed element of either tag,
wherever in the document it stands.
-/

namespace SignatureWrapping
open ElementTree ElementCodec ElementCodec.Codec FallibleSteps PythonData AS4Libraries AS4Errors SignatureModel RecordLaws RecordReadings
  MessagingModel EnvelopeModel Verification MessageParsing AcceptedMessage ReferenceVerification MessageBuilding Serialisation
  RecordedExchange WrittenEnvelope WrittenIdentifiers SignedReadings MessageReadings ReceivingRuns DeliveredMessage
  AcceptedDelivery

variable [Libraries]

/-- The signed info names the id of this node. -/
def Named (signature : Signature) (n : Located) : Prop :=
  ∃ reference ∈ signature.signedInfo.references, isAttachmentReference reference = false ∧
    removePrefix "#" (referenceUri reference) ∈ idsOf n

/-- The node is the target of a reference whose digest matched. -/
def SignedTarget (signature : Signature) (n : Located) : Prop :=
  ∃ reference ∈ signature.signedInfo.references, isAttachmentReference reference = false ∧
    removePrefix "#" (referenceUri reference) ∈ idsOf n ∧ digestMatches reference n = .ok true

/-- The nodes every value of an accepted message is read from. -/
structure ReadFrom (document : Node) (envelope : Envelope) (message : AS4Message) (messaging body : Located) :
    Prop where
  onlyMessaging : Located.findAll messagingPath (.root document) = [messaging]
  messagingRead : Messaging.codec.validate messaging = .ok envelope.header.messaging
  messagingElement : envelope.header.messaging.etreeElement = some messaging
  messagingId : messaging.node.attribute (wsu "Id") = some message.messagingId
  messageId : messaging.findText [eb3 "UserMessage", eb3 "MessageInfo", eb3 "MessageId"] = some message.messageId
  addressedTo : ∃ element, messaging.find [eb3 "UserMessage", eb3 "PartyInfo", eb3 "To"] = some element ∧
    ∃ party, Party.codec.validate element = .ok party ∧ message.addressedTo = some (AS4PartyIdentity.fromParty party)
  bodyRead : Body.codec.validate body = .ok envelope.body
  bodyElement : envelope.body.etreeElement = some body
  bodyFound : ∃ key, lookupChildren (.root document) (soap12 "Body") "body" = some (key, [body])

/-- The signed info names the id of an element at this path of the document. -/
def NamedAt (document : Node) (signature : Signature) (path : List QName) : Prop :=
  ∃ n ∈ Located.findAll path (.root document), Named signature n

section Readers

omit [Libraries] in
theorem preValidate_ok {element : Located} {messageId messagingId : String}
    (succeeded : preValidate element = .ok (messageId, messagingId)) :
    element.findText messageIdPath = some messageId ∧ messageId ≠ "" ∧
      ∃ messaging, element.find messagingPath = some messaging ∧
        messaging.node.attribute (wsu "Id") = some messagingId := by
  simp only [preValidate] at succeeded
  split at succeeded
  · simp [raise] at succeeded
  · rename_i messaging found
    split at succeeded
    · simp [raise] at succeeded
    · rename_i present
      simp only [Except.ok.injEq, Prod.mk.injEq] at succeeded
      obtain ⟨rfl, rfl⟩ := succeeded
      simp only [not_or] at present
      refine ⟨?_, present.1, messaging, found, ?_⟩
      · cases text : element.findText messageIdPath with
        | none => simp [text] at present
        | some s => rfl
      · cases carried : messaging.node.attribute (wsu "Id") with
        | none => simp [carried] at present
        | some s => rfl

/-- The find paths and the record readers meet in one messaging header. -/
theorem accepted_readFrom {context : AS4ParseContext} {soapBytes : Bytes} {mimeAttachments : Dict String Bytes}
    {message : AS4Message} {reading : Reading} (accepts : Accepts context soapBytes mimeAttachments message reading) :
    ∃ messaging body, ReadFrom reading.document reading.envelope message messaging body := by
  obtain ⟨text, -, found, foundMessaging, identifier⟩ := preValidate_ok accepts.identified
  obtain ⟨-, ⟨_, header, headerFound, headerRead⟩, _, body, bodyFound, bodyRead⟩ := Envelope.reads accepts.validated
  obtain ⟨-, _, messaging, messagingFound, messagingRead⟩ := Header.reads headerRead
  have oneHeader := childrenTagged_of_lookup headerFound (Located.childrenTagged_of_find foundMessaging)
  rw [messagingPath, Located.find_only oneHeader] at foundMessaging
  have oneMessaging := childrenTagged_of_lookup messagingFound (Located.childrenTagged_of_find foundMessaging)
  rw [Located.find_only oneMessaging, Located.find_nil] at foundMessaging
  obtain rfl : messaging = found := Option.some.inj foundMessaging
  have below : ∀ rest, (Located.root reading.document).find (messagingPath ++ rest) = messaging.find rest := by
    intro rest
    rw [messagingPath, List.cons_append, Located.find_only oneHeader, List.cons_append, Located.find_only oneMessaging,
      List.nil_append]
  refine ⟨messaging, body, ?_, messagingRead, (Messaging.reads messagingRead).1, identifier, ?_, ?_, bodyRead,
    Body.reads bodyRead, _, bodyFound⟩
  · rw [messagingPath, Located.findAll_only oneHeader, Located.findAll_only oneMessaging]
    rfl
  · rw [← text, messageIdPath, Located.findText, Located.findText, below]
  · obtain ⟨identity, addressed, kept⟩ := accepts.addressed
    rw [partyToPath, below] at addressed
    unfold getAddressedTo at addressed
    split at addressed
    · simp [raise] at addressed
    · rename_i element foundTo
      simp only [bind_ok, mapError_ok, pure_ok] at addressed
      obtain ⟨party, read, rfl⟩ := addressed
      exact ⟨element, foundTo, party, read, kept⟩

end Readers

section Wrapping

/-- Every reference to an element that is named was digest-checked. -/
theorem named_signed {document : Node} {index : Dict String Located} {signature : Signature} {n : Located}
    (indexed : indexElementsById (.root document) = .ok index)
    (checked : verifyReferenceDigests signature index = .ok ()) (inside : n.document = document)
    (named : Named signature n) : SignedTarget signature n := by
  obtain ⟨reference, member, toElement, carried⟩ := named
  refine ⟨reference, member, toElement, carried, ?_⟩
  obtain ⟨target, found, matched⟩ := verifyReferenceDigest_ok.mp (each_ok.mp checked reference member) toElement
  obtain rfl : n = target := index_unique indexed ⟨inside, carried⟩ ((index_get indexed).mp found)
  exact matched

omit [Libraries] in
theorem findAll_document {tags : List QName} {n m : Located} (member : m ∈ Located.findAll tags n) :
    m.document = n.document := by
  induction tags generalizing n with
  | nil =>
      obtain rfl := List.mem_singleton.mp member
      rfl
  | cons tag rest ih =>
      obtain ⟨child, below, later⟩ := List.mem_flatMap.mp member
      exact (ih later).trans (Located.childrenTagged_document below)

/-- The message was read from signed nodes exactly when the signed info names the
messaging header where it belongs and the body where it belongs, rather than only
elements of those tags somewhere else. -/
theorem read_nodes_signed_iff {cls : MessageClass} {context : AS4ParseContext} {soapBytes : Bytes}
    {mimeAttachments : Dict String Bytes} {message : AS4Message}
    (parsed : parse cls context soapBytes mimeAttachments = .ok message) (accepted : message.parseError = none)
    (signed : context.securityPolicy.signRequired = true) (digests : context.securityPolicy.verifyDigests = true) :
    ∃ document envelope signature messaging body, Libraries.parseXml soapBytes = some document ∧
      message.soapEnvelope = some envelope ∧ envelope.header.security.signature = some signature ∧
      ReadFrom document envelope message messaging body ∧
      (SignedTarget signature messaging ∧ body.node.Tagged (soap12 "Body") ∧ SignedTarget signature body ↔
        NamedAt document signature messagingPath ∧ NamedAt document signature [soap12 "Body"]) := by
  obtain ⟨reading, accepts⟩ := parse_accepts parsed accepted
  obtain ⟨messaging, body, readFrom⟩ := accepted_readFrom accepts
  obtain ⟨signature, carried⟩ := accepts.carries_signature signed
  obtain ⟨-, _, -, verified⟩ := accepts.verified_signature carried
  obtain ⟨_, _, _, -, -, -, -, -, -, elements⟩ := verifySignature_ok.mp verified
  simp only [verifySignedElements, digests, if_true] at elements
  refine ⟨reading.document, reading.envelope, signature, messaging, body, accepts.parsed, accepts.stored, carried,
    readFrom, ?_⟩
  obtain ⟨key, bodyFound⟩ := readFrom.bodyFound
  constructor
  · rintro ⟨messagingSigned, bodyTagged, bodySigned⟩
    obtain ⟨reference, member, toElement, named, -⟩ := messagingSigned
    obtain ⟨reference', member', toElement', named', -⟩ := bodySigned
    refine ⟨⟨messaging, ?_, reference, member, toElement, named⟩, body, ?_, reference', member', toElement', named'⟩
    · rw [readFrom.onlyMessaging]
      exact List.mem_singleton_self _
    · have below : body ∈ (Located.root reading.document).childrenTagged (soap12 "Body") :=
        Located.mem_childrenTagged.mpr ⟨lookupChildren_subset bodyFound body List.mem_cons_self, bodyTagged⟩
      exact List.mem_flatMap.mpr ⟨body, below, List.mem_singleton_self _⟩
  · rintro ⟨⟨n, atMessaging, named⟩, m, atBody, named'⟩
    rw [readFrom.onlyMessaging] at atMessaging
    obtain rfl := List.mem_singleton.mp atMessaging
    obtain ⟨child, below, here⟩ := List.mem_flatMap.mp atBody
    obtain rfl := List.mem_singleton.mp here
    have oneBody := childrenTagged_of_lookup bodyFound (List.ne_nil_of_mem below)
    rw [oneBody] at below
    obtain rfl := List.mem_singleton.mp below
    have messagingInside : n.document = reading.document :=
      findAll_document (readFrom.onlyMessaging ▸ List.mem_singleton_self n)
    have bodyInside : m.document = reading.document := lookupChildren_document bodyFound
    have bodyTagged : m.node.Tagged (soap12 "Body") :=
      Located.childrenTagged_tag (oneBody ▸ List.mem_singleton_self m)
    exact ⟨named_signed accepts.indexed elements messagingInside named, bodyTagged,
      named_signed accepts.indexed elements bodyInside named'⟩

end Wrapping

omit [Libraries]
section Examples

/-- Both nodes of the delivered message are signed. -/
theorem delivered_nodes_signed :
    letI := signing honestDocuments
    ∃ message envelope signature messaging body, parse .peppol
        { localParty := answeringParty honestDocuments
          securityPolicy := { signerResolver := trustEmbedded honestDocuments } }
        (plainText honestDocument) deliveredAttachments = .ok message ∧
      ReadFrom honestDocument envelope message messaging body ∧
      (SignedTarget signature messaging ∧ body.node.Tagged (soap12 "Body") ∧ SignedTarget signature body ↔
        NamedAt honestDocument signature messagingPath ∧ NamedAt honestDocument signature [soap12 "Body"]) := by
  let _ := signing honestDocuments
  obtain ⟨message, _, parsed, sound, -⟩ := honest_accepted { signerResolver := trustEmbedded honestDocuments } rfl rfl
    (by simp)
  obtain ⟨document, envelope, signature, messaging, body, read, -, -, readFrom, signed⟩ :=
    read_nodes_signed_iff parsed sound rfl rfl
  obtain rfl : document = honestDocument := Option.some.inj (read.symm.trans (documents_parse honest_apart).1)
  exact ⟨message, envelope, signature, messaging, body, parsed, readFrom, signed⟩

/-- A messaging header in the body, where nothing reads it. -/
def strayMessaging : Node := .element (eb3 "Messaging") [(wsu "Id", "X")] []

def wrappingBody : Body := { bodyId := some "B", wildcardContent := [strayMessaging] }

def wrappingElements : List (String × Node) :=
  [("X", strayMessaging), ("B", Body.codec.element (soap12 "Body") wrappingBody)]

/-- A delivered message whose own messaging header is not signed. -/
def wrappingEnvelope : Envelope :=
  deliveredEnvelope [48, 2] wrappingElements deliveredPayloads [partFor attachmentId] wrappingBody

def wrappingDocument : Node :=
  letI := signing []
  Envelope.codec.element (soap12 "Envelope") wrappingEnvelope

def wrappingDocuments : List Node := [businessDocument invoice, wrappingDocument]

theorem wrapping_apart : envelopedPayload ≠ plainText wrappingDocument := by
  have starts : envelopedPayload.take 30 ≠ (plainText wrappingDocument).take 30 := by decide +kernel
  exact fun same => starts (congrArg _ same)

theorem wrappingBody_admits : Body.codec.admits wrappingBody := by
  simp only [Body.codec, record_admits, withWildcard_admits, wrappingBody]
  exact ⟨by simp, rfl, fun _ _ _ seen => absurd seen List.not_mem_nil⟩

theorem wrappingBody_readable : Body.codec.readable wrappingBody := by
  simp only [Body.codec, record_readable, withWildcard_readable, wrappingBody]
  exact ⟨by simp, fun _ _ _ wanted => absurd wanted List.not_mem_nil⟩

theorem wrappingBody_named [Libraries] : WrittenIdentifiers.Named (Body.codec.element (soap12 "Body") wrappingBody) := by
  have listed : (Body.codec.element (soap12 "Body") wrappingBody).subtrees =
      [Body.codec.element (soap12 "Body") wrappingBody, strayMessaging] := rfl
  intro below member
  rw [listed] at member
  simp only [List.mem_cons, List.not_mem_nil, or_false] at member
  rcases member with rfl | rfl <;> rfl

theorem wrappingBody_identifiers : identifiers (Body.codec.element (soap12 "Body") wrappingBody) = ["B", "X"] := by
  decide

theorem stray_inBody : strayMessaging ∈ (Body.codec.element (soap12 "Body") wrappingBody).subtrees := by
  have written : strayMessaging ∈ (Body.codec.dump wrappingBody).children ++ (Body.codec.dump wrappingBody).wildcard :=
    List.mem_append_right _ List.mem_cons_self
  exact subtrees_child Body.codec _ wrappingBody written List.mem_cons_self

theorem stray_carried : Carries wrappingDocument ("X", strayMessaging) := by
  refine carries_of_subtree ?_ (by decide)
  exact subtrees_child (@Envelope.codec (signing [])) _ wrappingEnvelope (List.mem_cons_of_mem _ List.mem_cons_self)
    stray_inBody

theorem wrapping_indexed [Libraries] :
    ∃ index, indexElementsById (.root (Envelope.codec.element (soap12 "Envelope") wrappingEnvelope)) = .ok index := by
  refine delivered_indexed (some ("cid:" ++ attachmentId)) wrappingBody_named ?_
  rw [wrappingBody_identifiers]
  decide

theorem wrapping_covers [Libraries] {child : Located} {user : UserMessage}
    (read : UserMessage.codec.reread child (deliveredUser [partFor attachmentId]) user) {kind : String}
    (asked : kind ∈ ["messaging", "body", "payloads"]) : Covers wrappingElements deliveredPayloads user kind := by
  simp only [List.mem_cons, List.not_mem_nil, or_false] at asked
  rcases asked with rfl | rfl | rfl
  · exact .inl ⟨by decide, _, List.mem_cons_self, coverageByTag_messaging.mpr rfl⟩
  · exact .inl ⟨by decide, _, List.mem_cons_of_mem _ List.mem_cons_self, coverageByTag_body.mpr rfl⟩
  · have covered := honest_covers read (show "payloads" ∈ ["messaging", "body", "payloads"] by simp)
    rcases covered with ⟨other, -⟩ | covered
    · exact absurd rfl other
    · exact .inr covered

theorem wrapping_placed : ∀ entry ∈ wrappingElements, Carries wrappingDocument entry := by
  intro entry member
  simp only [wrappingElements, List.mem_cons, List.not_mem_nil, or_false] at member
  rcases member with rfl | rfl
  · exact stray_carried
  · exact @body_carried (signing []) wrappingEnvelope "B" rfl (by decide)

/-- The default policy lets through a message whose own messaging header is not signed. -/
theorem stray_messaging_accepted :
    letI := signing wrappingDocuments
    ∃ message envelope signature messaging body, parse .peppol
        { localParty := answeringParty wrappingDocuments
          securityPolicy := { signerResolver := trustEmbedded wrappingDocuments } }
        (plainText wrappingDocument) deliveredAttachments = .ok message ∧ message.parseError = none ∧
      message.soapEnvelope = some envelope ∧ envelope.header.security.signature = some signature ∧
        ReadFrom wrappingDocument envelope message messaging body ∧ ¬ SignedTarget signature messaging := by
  obtain ⟨parsed, payload⟩ := documents_parse wrapping_apart
  obtain ⟨message, envelope, accepted, sound, stored, reread⟩ := signing_accepted wrappingDocuments
    (trustingPolicy wrappingDocuments) rfl rfl (by simp)
    wrappingBody_admits wrappingBody_readable (@wrapping_indexed (signing wrappingDocuments)) wrapping_placed
    (by simp [deliveredPayloads])
    (fun kind required child user read => @wrapping_covers (signing wrappingDocuments) child user read _ required)
    parsed payload
  let _ := signing wrappingDocuments
  obtain ⟨reading, accepts⟩ := parse_accepts accepted sound
  obtain ⟨messaging, body, readFrom⟩ := accepted_readFrom accepts
  have same : reading.document = wrappingDocument := Option.some.inj (accepts.parsed.symm.trans parsed)
  have indexed := accepts.indexed
  rw [same] at readFrom indexed
  obtain rfl : envelope = reading.envelope := Option.some.inj (stored.symm.trans accepts.stored)
  obtain ⟨⟨header, -, -, headerRead⟩, -⟩ := Envelope.rereads reread
  obtain ⟨⟨security, -, -, securityRead⟩, -⟩ := Header.rereads headerRead
  obtain ⟨signature, proves⟩ := (delivered_signed wrappingDocuments wrapping_placed).proves (fun _ => rfl) securityRead
    indexed
  refine ⟨message, reading.envelope, signature, messaging, body, accepted, sound, stored, proves.signed, readFrom, ?_⟩
  rintro ⟨reference, member, toElement, carried, -⟩
  obtain ⟨overElements, overPayloads, references, elements, payloads⟩ := proves.references
  rw [references, List.mem_append] at member
  rcases member with overElement | overPayload
  · obtain ⟨entry, inside, n, -, found, node, -⟩ := forall₂_source elements overElement
    have messagingInside : messaging.document = wrappingDocument :=
      findAll_document (readFrom.onlyMessaging ▸ List.mem_singleton_self messaging)
    obtain rfl : messaging = n := index_unique indexed ⟨messagingInside, carried⟩
      ((index_get indexed).mp found)
    have text := readFrom.messageId
    rw [findText_nodes, node] at text
    simp only [wrappingElements, List.mem_cons, List.not_mem_nil, or_false] at inside
    rcases inside with rfl | rfl
    · exact absurd text (by simp [show pathNodes [eb3 "UserMessage", eb3 "MessageInfo", eb3 "MessageId"] strayMessaging = [] from rfl])
    · exact absurd text (by simp [show pathNodes [eb3 "UserMessage", eb3 "MessageInfo", eb3 "MessageId"] (Body.codec.element (soap12 "Body") wrappingBody) = [] from rfl])
  · obtain ⟨entry, -, matched⟩ := forall₂_source payloads overPayload
    exact absurd (isAttachmentReference_payload matched) (by simp [toElement])

end Examples

end SignatureWrapping
