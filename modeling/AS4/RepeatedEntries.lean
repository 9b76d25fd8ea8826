import AS4.AcceptedDelivery

/-!
Entries that a sender can write more than once. A property is looked up from the
front of its list and a scope ends up as the last of its type, while only the elements
of a model are held to one occurrence. So what is published of an accepted message is
the one reading of it just where repeated entries say the same.
-/

namespace RepeatedEntries
open ElementTree ElementCodec ElementCodec.Codec FallibleSteps PythonData AS4Libraries AS4Errors SignatureModel
  EncryptionModel MessagingModel EnvelopeModel BusinessDocument Verification MessageParsing AcceptedMessage
  MessageReadings RecordedExchange RecordLaws RecordReadings Serialisation ReceivingRuns WrittenEnvelope MessageBuilding
  RestoredSenders SignalBuilding SignedReadings WrittenIdentifiers DeliveredMessage AcceptedDelivery

universe u v

section Lists
variable {α : Type u} {β : Type v}

/-- The entries of a kind all read the same. -/
def Agree (kind : α → Bool) (view : α → β) (entries : List α) : Prop :=
  ∀ first ∈ entries, kind first = true → ∀ second ∈ entries, kind second = true → view first = view second

/-- Who takes the first entry of a kind reads what he reads who takes the last. -/
def EitherEnd (kind : α → Bool) (view : α → β) (entries : List α) : Prop :=
  (entries.find? kind).map view = (entries.reverse.find? kind).map view

variable {kind : α → Bool} {view : α → β} {entries : List α} {chosen : α}

/-- Whichever entry is chosen, the others read like it just when they agree. -/
theorem agree_iff_chosen (member : chosen ∈ entries) (ofKind : kind chosen = true) :
    Agree kind view entries ↔ ∀ entry ∈ entries, kind entry = true → view entry = view chosen := by
  constructor
  · intro agree entry inside same
    exact agree entry inside same chosen member ofKind
  · intro each first inside same second inside' same'
    exact (each first inside same).trans (each second inside' same').symm

theorem agree_eitherEnd (agree : Agree kind view entries) : EitherEnd kind view entries := by
  unfold EitherEnd
  cases front : entries.find? kind with
  | none =>
      have absent : entries.reverse.find? kind = none := by
        simpa [List.find?_eq_none] using front
      rw [absent]
  | some first =>
      cases back : entries.reverse.find? kind with
      | none =>
          have absent : entries.find? kind = none := by
            simpa [List.find?_eq_none] using back
          simp [absent] at front
      | some last =>
          have same := agree first (List.mem_of_find?_eq_some front) (List.find?_some front) last
            (List.mem_reverse.mp (List.mem_of_find?_eq_some back)) (List.find?_some back)
          simp [same]

end Lists

section Lookups

/-- The dictionary of the scopes holds the last scope of each type. -/
theorem scopeDict_get (scopes : List Scope) (kind : String) :
    Dict.get (scopeDict scopes) kind = scopes.reverse.find? fun scope => scope.scopeType == kind := by
  have onward : ∀ dict : Dict String Scope,
      Dict.get (scopes.foldl (fun dict scope => Dict.set scope.scopeType scope dict) dict) kind =
        (scopes.reverse.find? fun scope => scope.scopeType == kind).or (Dict.get dict kind) := by
    induction scopes with
    | nil => simp
    | cons scope rest ih =>
        intro dict
        rw [List.foldl_cons, ih, List.reverse_cons, List.find?_append, get_set, Option.or_assoc]
        congr 1
        by_cases same : kind = scope.scopeType
        · simp [same]
        · simp [same, Ne.symm same]
  simpa [scopeDict, Dict.get] using onward []

variable [Libraries]

theorem requireScopes_ok {scopes : List Scope} {document process : Scope}
    (found : requireScopes (scopeDict scopes) = .ok (document, process)) :
    (document ∈ scopes ∧ document.scopeType = "DOCUMENTID") ∧ process ∈ scopes ∧ process.scopeType = "PROCESSID" := by
  have listed : ∀ {kind : String} {scope : Scope}, Dict.get (scopeDict scopes) kind = some scope →
      scope ∈ scopes ∧ scope.scopeType = kind := by
    intro kind scope present
    rw [scopeDict_get] at present
    exact ⟨List.mem_reverse.mp (List.mem_of_find?_eq_some present), by simpa using List.find?_some present⟩
  simp only [requireScopes] at found
  split at found
  · rename_i document' process' _ documents processes
    obtain ⟨rfl, rfl⟩ := Prod.mk.inj (Except.ok.inj found)
    exact ⟨listed documents, listed processes⟩
  · simp [raise] at found

theorem verifyParticipantAgrees_ok {name : String} {declared : Option Property} {identifier : Identifier}
    (agrees : verifyParticipantAgrees name declared identifier = .ok ()) :
    ∃ property, declared = some property ∧ property.value = identifier.value ∧
      property.propertyType = identifier.authority := by
  unfold verifyParticipantAgrees at agrees
  split at agrees
  · simp [raise] at agrees
  · rename_i property
    split at agrees
    · simp [raise] at agrees
    · rename_i same
      exact ⟨property, rfl, by_contra fun other => same (.inl other), by_contra fun other => same (.inr other)⟩

omit [Libraries] in
/-- The property a participant was compared with is one of its name. -/
theorem getProperty_some {properties : MessageProperties} {name : String} {property : Property}
    (found : properties.getProperty name = some property) :
    property ∈ properties.properties ∧ property.name = name :=
  ⟨List.mem_of_find?_eq_some found, by simpa using List.find?_some found⟩

end Lookups

section Published
variable [Libraries] {context : AS4ParseContext} {soapBytes : Bytes} {mimeAttachments : Dict String Bytes}
  {message : AS4Message}

/-- `PeppolAS4Message.message_properties` -/
def messageProperties (message : AS4Message) : Except PyError (Option MessageProperties) :=
  match message.soapEnvelope with
  | none => .ok none
  | some envelope => do
      let userMessage ← envelope.header.messaging.userMessage
      return userMessage.bind (·.messageProperties)

/-- The business document in the first attachment, as `process_sbdh` reads it. -/
def businessDocumentOf (message : AS4Message) : Except PyError StandardBusinessDocument := do
  let payload ← firstPayload message
  let document ← parseBusinessDocument payload
  (StandardBusinessDocument.codec.validate (.root document)).mapError .validationError

/-- What `process_sbdh` has looked at and stored when it returns. -/
structure Published (context : AS4ParseContext) (message : AS4Message) (envelope : Envelope)
    (header : StandardBusinessDocumentHeader) (documentScope processScope : Scope) : Prop where
  parties : verifyPartyIdentifiers envelope = .ok ()
  agree : verifyParticipants context envelope header = .ok ()
  serviced : acceptRecipient context header.receiver.identifier.value = .ok ()
  scopes : requireScopes (scopeDict header.businessScope.scopes) = .ok (documentScope, processScope)
  recipient : message.recipient = some header.receiver.identifier.value
  documentValue : message.documentTypeIdentifierValue = some documentScope.instanceIdentifier
  documentScheme : message.documentTypeIdentifierScheme = some (documentScope.identifier.getD "busdox-docid-qns")
  process : message.processIdentifier = some processScope.instanceIdentifier

theorem processSbdh_publishes {envelope : Envelope} {before after : AS4Message} {result : PUnit}
    (succeeded : processSbdh context envelope before = .ok result after) :
    ∃ document documentScope processScope, businessDocumentOf after = .ok document ∧
      Published context after envelope document.standardBusinessDocumentHeader documentScope processScope := by
  simp only [processSbdh, state_bind_ok, lift_ok, state_get_ok, state_modify_ok] at succeeded
  obtain ⟨_, _, ⟨parties, rfl⟩, fields, _, ⟨rfl, rfl⟩, payload, _, ⟨carried, rfl⟩, root, _, ⟨parsed, rfl⟩, _, _, ⟨-, rfl⟩,
    document, _, ⟨read, rfl⟩, _, _, rfl, _, _, ⟨agree, rfl⟩, _, _, ⟨serviced, rfl⟩, ⟨documentScope, processScope⟩, _,
    ⟨scopes, rfl⟩, rfl⟩ := succeeded
  refine ⟨document, documentScope, processScope, ?_, ⟨parties, agree, serviced, scopes, rfl, rfl, rfl, rfl⟩⟩
  have same : firstPayload before = .ok payload := carried
  simp only [businessDocumentOf, firstPayload, bind_ok] at same ⊢
  exact ⟨payload, same, root, parsed, read⟩

/-- An accepted Peppol message publishes what its business document says. -/
theorem peppol_publishes (parsed : parse .peppol context soapBytes mimeAttachments = .ok message)
    (accepted : message.parseError = none) :
    ∃ envelope document documentScope processScope, message.soapEnvelope = some envelope ∧
      businessDocumentOf message = .ok document ∧
        Published context message envelope document.standardBusinessDocumentHeader documentScope processScope := by
  unfold parse at parsed
  split at parsed
  · rename_i result fields succeeded
    obtain rfl := Except.ok.inj parsed
    simp only [parseSteps, process, processPeppol, state_bind_ok, lift_ok, state_modify_ok, state_get_ok] at succeeded
    obtain ⟨_, _, -, _, _, -, _, _, -, _, _, -, _, _, -, _, middle, -, _, _, ⟨rfl, rfl⟩, remaining⟩ := succeeded
    cases read : middle.soapEnvelope with
    | none => simp [read, raise] at remaining
    | some envelope =>
        simp only [read, state_adapt_ok] at remaining
        obtain ⟨document, documentScope, processScope, business, published⟩ := processSbdh_publishes remaining
        exact ⟨envelope, document, documentScope, processScope, (processSbdh_keeps remaining).1.trans read, business,
          published⟩
  · split at parsed
    · obtain rfl := Except.ok.inj parsed
      simp at accepted
    · simp at parsed

end Published

section Contradictions
variable [Libraries]

def named (name : String) (property : Property) : Bool := property.name == name

def ofType (kind : String) (scope : Scope) : Bool := scope.scopeType == kind

def participant (property : Property) : String × Option String := (property.value, property.propertyType)

/-- The value and the scheme of a document type, where none is given the default one. -/
def documentType (scope : Scope) : String × String :=
  (scope.instanceIdentifier, scope.identifier.getD "busdox-docid-qns")

def processId (scope : Scope) : String := scope.instanceIdentifier

/-- Every entry that could have been read says what was published, wherever in its list
it is taken. -/
structure NothingContradicts (message : AS4Message) (properties : MessageProperties)
    (header : StandardBusinessDocumentHeader) : Prop where
  senders : ∀ property ∈ properties.properties, property.name = "originalSender" →
    property.value = header.sender.identifier.value ∧ property.propertyType = header.sender.identifier.authority
  recipients : ∀ property ∈ properties.properties, property.name = "finalRecipient" →
    property.value = header.receiver.identifier.value ∧ property.propertyType = header.receiver.identifier.authority
  documents : ∀ scope ∈ header.businessScope.scopes, scope.scopeType = "DOCUMENTID" →
    message.documentTypeIdentifierValue = some scope.instanceIdentifier ∧
      message.documentTypeIdentifierScheme = some (scope.identifier.getD "busdox-docid-qns")
  processes : ∀ scope ∈ header.businessScope.scopes, scope.scopeType = "PROCESSID" →
    message.processIdentifier = some scope.instanceIdentifier
  propertiesAlike : ∀ name ∈ ["originalSender", "finalRecipient"],
    EitherEnd (named name) participant properties.properties
  scopesAlike : EitherEnd (ofType "DOCUMENTID") documentType header.businessScope.scopes ∧
    EitherEnd (ofType "PROCESSID") processId header.businessScope.scopes

/-- Repeated entries of the two lists say the same. -/
structure EntriesAgree (properties : List Property) (scopes : List Scope) : Prop where
  senders : Agree (named "originalSender") participant properties
  recipients : Agree (named "finalRecipient") participant properties
  documents : Agree (ofType "DOCUMENTID") documentType scopes
  processes : Agree (ofType "PROCESSID") processId scopes

/-- The properties of a name are what the identifier compared with the first says, just
when they agree. -/
theorem properties_agree_iff {properties : MessageProperties} {name : String} {identifier : Identifier}
    (agrees : verifyParticipantAgrees name (properties.getProperty name) identifier = .ok ()) :
    (∀ property ∈ properties.properties, property.name = name →
        property.value = identifier.value ∧ property.propertyType = identifier.authority) ↔
      Agree (named name) participant properties.properties := by
  obtain ⟨first, found, value, type⟩ := verifyParticipantAgrees_ok agrees
  obtain ⟨member, ofName⟩ := getProperty_some found
  rw [agree_iff_chosen member (by simpa [named] using ofName)]
  simp [named, participant, value, type]

theorem documents_agree_iff {message : AS4Message} {scopes : List Scope} {chosen : Scope} (member : chosen ∈ scopes)
    (ofKind : chosen.scopeType = "DOCUMENTID")
    (value : message.documentTypeIdentifierValue = some chosen.instanceIdentifier)
    (scheme : message.documentTypeIdentifierScheme = some (chosen.identifier.getD "busdox-docid-qns")) :
    (∀ scope ∈ scopes, scope.scopeType = "DOCUMENTID" →
        message.documentTypeIdentifierValue = some scope.instanceIdentifier ∧
          message.documentTypeIdentifierScheme = some (scope.identifier.getD "busdox-docid-qns")) ↔
      Agree (ofType "DOCUMENTID") documentType scopes := by
  rw [agree_iff_chosen member (by simpa [ofType] using ofKind)]
  simp only [ofType, documentType, value, scheme, beq_iff_eq, Option.some.injEq, Prod.mk.injEq]
  exact forall₂_congr fun scope _ => imp_congr_right fun _ => and_congr eq_comm eq_comm

theorem processes_agree_iff {message : AS4Message} {scopes : List Scope} {chosen : Scope} (member : chosen ∈ scopes)
    (ofKind : chosen.scopeType = "PROCESSID") (value : message.processIdentifier = some chosen.instanceIdentifier) :
    (∀ scope ∈ scopes, scope.scopeType = "PROCESSID" → message.processIdentifier = some scope.instanceIdentifier) ↔
      Agree (ofType "PROCESSID") processId scopes := by
  rw [agree_iff_chosen member (by simpa [ofType] using ofKind)]
  simp only [ofType, processId, value, beq_iff_eq, Option.some.injEq]
  exact forall₂_congr fun scope _ => imp_congr_right fun _ => eq_comm

/-- What the participant check has compared. -/
theorem verifyParticipants_ok {context : AS4ParseContext} {envelope : Envelope} {header : StandardBusinessDocumentHeader}
    (checked : context.securityPolicy.verifyParticipants = true)
    (agree : verifyParticipants context envelope header = .ok ()) :
    ∃ user properties, envelope.header.messaging.userMessage = .ok user ∧ user.bind (·.messageProperties) = some properties ∧
      verifyParticipantAgrees "originalSender" (properties.getProperty "originalSender") header.sender.identifier = .ok () ∧
        verifyParticipantAgrees "finalRecipient" (properties.getProperty "finalRecipient") header.receiver.identifier =
          .ok () := by
  simp only [verifyParticipants, checked, if_true, verifyParticipantsAgree, bind_ok] at agree
  obtain ⟨user, carried, _, senders, recipients⟩ := agree
  cases given : user.bind (·.messageProperties) with
  | none => simp [given, verifyParticipantAgrees, raise] at senders
  | some properties =>
      simp only [given, Option.bind_some] at senders recipients
      exact ⟨user, properties, carried, given, senders, recipients⟩

/-- Nothing an accepted message carries contradicts what is published of it just where
its repeated properties and scopes agree among themselves. -/
theorem nothing_contradicts_iff (context : AS4ParseContext) (soapBytes : Bytes) (mimeAttachments : Dict String Bytes)
    (message : AS4Message) (parsed : parse .peppol context soapBytes mimeAttachments = .ok message)
    (accepted : message.parseError = none) (checked : context.securityPolicy.verifyParticipants = true) :
    ∃ properties document, messageProperties message = .ok (some properties) ∧
      businessDocumentOf message = .ok document ∧
        (NothingContradicts message properties document.standardBusinessDocumentHeader ↔
          EntriesAgree properties.properties document.standardBusinessDocumentHeader.businessScope.scopes) := by
  obtain ⟨envelope, document, documentScope, processScope, stored, business, published⟩ := peppol_publishes parsed accepted
  obtain ⟨user, properties, carried, given, senders, recipients⟩ := verifyParticipants_ok checked published.agree
  obtain ⟨⟨documentListed, documentKind⟩, processListed, processKind⟩ := requireScopes_ok published.scopes
  have sendersIff := properties_agree_iff senders
  have recipientsIff := properties_agree_iff recipients
  have documentsIff := documents_agree_iff documentListed documentKind published.documentValue published.documentScheme
  have processesIff := processes_agree_iff processListed processKind published.process
  refine ⟨properties, document, ?_, business, ?_⟩
  · simp only [messageProperties, stored, bind_ok, pure_ok]
    exact ⟨user, carried, given⟩
  · constructor
    · intro nothing
      exact ⟨sendersIff.mp nothing.senders, recipientsIff.mp nothing.recipients, documentsIff.mp nothing.documents,
        processesIff.mp nothing.processes⟩
    · intro agree
      refine ⟨sendersIff.mpr agree.senders, recipientsIff.mpr agree.recipients, documentsIff.mpr agree.documents,
        processesIff.mpr agree.processes, ?_, agree_eitherEnd agree.documents, agree_eitherEnd agree.processes⟩
      intro name asked
      simp only [List.mem_cons, List.not_mem_nil, or_false] at asked
      rcases asked with rfl | rfl
      · exact agree_eitherEnd agree.senders
      · exact agree_eitherEnd agree.recipients

end Contradictions

section Repetition

/-- The delivered message names one process and one of each participant. -/
theorem delivered_entries_agree :
    letI := signing honestDocuments
    ∃ message, parse .peppol
        { localParty := answeringParty honestDocuments, securityPolicy := trustingPolicy honestDocuments }
        (plainText honestDocument) deliveredAttachments = .ok message ∧
      ∃ properties document, messageProperties message = .ok (some properties) ∧
        businessDocumentOf message = .ok document ∧
          (NothingContradicts message properties document.standardBusinessDocumentHeader ↔
            EntriesAgree properties.properties document.standardBusinessDocumentHeader.businessScope.scopes) := by
  let _ := signing honestDocuments
  obtain ⟨message, -, parsed, accepted, -⟩ := honest_accepted (trustingPolicy honestDocuments) rfl rfl (fun _ => id)
  exact ⟨message, parsed, nothing_contradicts_iff _ _ _ message parsed accepted rfl⟩

/-- The delivered business document, with a second process after the others. -/
def repeatedBusiness : StandardBusinessDocument :=
  let header := deliveredBusiness.standardBusinessDocumentHeader
  { deliveredBusiness with
    standardBusinessDocumentHeader :=
      { header with
        businessScope := ⟨header.businessScope.scopes ++ [{ scopeType := "PROCESSID", instanceIdentifier := "other" }]⟩ } }

def repeatedDocument : Node :=
  letI := signing []
  StandardBusinessDocument.codec.element (sbdh "StandardBusinessDocument") repeatedBusiness

def repeatedDocuments : List Node := [repeatedDocument, honestDocument]

@[reducible] def repeating : Libraries := unpacking (plainText repeatedDocument) repeatedDocuments

theorem repeatedBusiness_admits [Libraries] : StandardBusinessDocument.codec.admits repeatedBusiness := by
  rw [StandardBusinessDocument.codec, record_admits, withWildcard_admits]
  refine ⟨?_, rfl, ?_⟩
  · simp [StandardBusinessDocumentHeader.codec, Participant.codec, Identifier.codec, DocumentIdentification.codec,
      BusinessScope.codec, Scope.codec, stringText, repeatedBusiness, deliveredBusiness]
  · intro node member tag seen
    obtain rfl := List.mem_singleton.mp member
    exact invoice_apart tag seen

theorem repeatedBusiness_readable [Libraries] (stamps : Stamps ⟨1788726620821000⟩) :
    StandardBusinessDocument.codec.readable repeatedBusiness := by
  have stamped : (requiredText datetimeScalar "value").readable ⟨1788726620821000⟩ := requiredText_readable.mpr stamps
  rw [StandardBusinessDocument.codec, record_readable, withWildcard_readable]
  refine ⟨?_, ?_⟩
  · simp [StandardBusinessDocumentHeader.codec, Participant.codec, Identifier.codec, DocumentIdentification.codec,
      BusinessScope.codec, Scope.codec, stringText, repeatedBusiness, deliveredBusiness, stamped]
    decide +kernel
  · exact fun _ _ _ wanted => absurd wanted List.not_mem_nil

theorem repeated_apart : plainText repeatedDocument ≠ plainText honestDocument := by
  have starts : (plainText repeatedDocument).take 30 ≠ (plainText honestDocument).take 30 := by decide +kernel
  exact fun same => starts (congrArg _ same)

theorem repeated_parses :
    letI := repeating
    Libraries.parseXml (plainText honestDocument) = some honestDocument ∧
      Libraries.parseXml (plainText repeatedDocument) = some repeatedDocument := by
  constructor
  · change [repeatedDocument, honestDocument].find? _ = _
    rw [List.find?_cons_of_neg (by simpa using repeated_apart), List.find?_cons_of_pos (by simp)]
  · change [repeatedDocument, honestDocument].find? _ = _
    rw [List.find?_cons_of_pos (by simp)]

/-- A delivered message whose core is let through publishes the scopes that are found in
its business document. -/
theorem delivered_publishes [Libraries] {context : AS4ParseContext} {certificate : Certificate} {soapBytes payload : Bytes}
    {signer : Bytes} {elements : List (String × Node)} {payloads : Dict String Bytes} {parts : List PartInfo} {body : Body}
    {envelope : Envelope} {business : StandardBusinessDocument} {documentScope processScope : Scope}
    (parsed : Libraries.parseXml soapBytes = some (Envelope.codec.element (soap12 "Envelope")
      (deliveredEnvelope signer elements payloads parts body)))
    (reread : Envelope.codec.reread (.root (Envelope.codec.element (soap12 "Envelope")
      (deliveredEnvelope signer elements payloads parts body))) (deliveredEnvelope signer elements payloads parts body) envelope)
    (core : ∀ before, processAs4 context (.root (Envelope.codec.element (soap12 "Envelope")
        (deliveredEnvelope signer elements payloads parts body))) deliveredAttachments before =
      .ok () { before with
        mimeAttachments := deliveredAttachments, soapEnvelope := some envelope, signerCertificate := some certificate,
        decryptedData := [(attachmentId, payload)] })
    (document : Libraries.parseXml payload =
      some (StandardBusinessDocument.codec.element (sbdh "StandardBusinessDocument") business))
    (valid : requireSchemaValidHeader
      (.root (StandardBusinessDocument.codec.element (sbdh "StandardBusinessDocument") business)) = .ok ())
    (admitted : StandardBusinessDocument.codec.admits business) (readable : StandardBusinessDocument.codec.readable business)
    (sends : business.standardBusinessDocumentHeader.sender.identifier = ⟨some iso6523ActorId, "9999999999"⟩)
    (receives : business.standardBusinessDocumentHeader.receiver.identifier = ⟨some iso6523ActorId, "1111111111"⟩)
    (found : requireScopes (scopeDict (business.standardBusinessDocumentHeader.businessScope.scopes.map fun scope =>
      ⟨strip scope.scopeType, strip scope.instanceIdentifier, scope.identifier.map strip⟩)) =
        .ok (documentScope, processScope))
    (serviced : acceptRecipient context (strip "1111111111") = .ok ()) :
    ∃ message business', parse .peppol context soapBytes deliveredAttachments = .ok message ∧ message.parseError = none ∧
      message.processIdentifier = some processScope.instanceIdentifier ∧ businessDocumentOf message = .ok business' ∧
        business'.standardBusinessDocumentHeader.businessScope.scopes =
          business.standardBusinessDocumentHeader.businessScope.scopes.map fun scope =>
            ⟨strip scope.scopeType, strip scope.instanceIdentifier, scope.identifier.map strip⟩ := by
  obtain ⟨⟨header, -, -, headerRead⟩, -⟩ := Envelope.rereads reread
  obtain ⟨-, messaging, -, -, messagingRead⟩ := Header.rereads headerRead
  obtain ⟨-, -, users⟩ := Messaging.rereads messagingRead
  obtain ⟨user, one, _, userRead⟩ := mem_single users
  obtain ⟨reads, kept⟩ := rereads_element StandardBusinessDocument.lawful admitted
    (n := .root (StandardBusinessDocument.codec.element (sbdh "StandardBusinessDocument") business)) rfl
  obtain ⟨business', businessRead⟩ := reads.mp readable
  have again := kept business' businessRead
  obtain ⟨parties, agree, -, receiverRead⟩ :=
    written_participants_checked context one userRead rfl rfl rfl sends receives again
  obtain ⟨-, -, scopesRead⟩ := StandardBusinessDocument.rereads again
  have first : ∀ fields : AS4Message, fields.mimeAttachments = deliveredAttachments →
      fields.decryptedData = [(attachmentId, payload)] → firstPayload fields = .ok payload := by
    intro fields attached decrypted
    simp [firstPayload, attached, decrypted, Dict.get, deliveredAttachments]
  refine ⟨_, business', parse_runs parsed (preValidate_written rfl rfl rfl (by decide : "message" ≠ "") (by decide))
    (getAddressedTo_written rfl rfl (by decide : strip responder ≠ "")) (processPeppol_runs (core _) rfl
      (processSbdh_runs parties (first _ rfl rfl) document valid businessRead agree (by rw [receiverRead]; exact serviced)
        (by rw [scopesRead]; exact found))), rfl, rfl, ?_, scopesRead⟩
  simp only [businessDocumentOf, bind_ok, parseBusinessDocument, mapError_ok, parseXml_ok]
  exact ⟨payload, first _ rfl rfl, _, document, businessRead⟩

/-- The second process replaces the first. -/
theorem repeated_scopes [Libraries] :
    requireScopes (scopeDict (repeatedBusiness.standardBusinessDocumentHeader.businessScope.scopes.map fun scope =>
      ⟨strip scope.scopeType, strip scope.instanceIdentifier, scope.identifier.map strip⟩)) =
        .ok (⟨"DOCUMENTID", strip documentIdentifier, some (strip "busdox-docid-qns")⟩, ⟨"PROCESSID", strip "other", none⟩) := by
  have kinds : strip "DOCUMENTID" = "DOCUMENTID" ∧ strip "PROCESSID" = "PROCESSID" ∧ strip "COUNTRY_C1" = "COUNTRY_C1" := by
    decide
  simp [repeatedBusiness, deliveredBusiness, scopeDict, Dict.set, requireScopes, Dict.get, kinds]
  rfl

def trustingReceiver : @AS4ParseContext repeating :=
  letI := repeating
  { localParty := unpackingParty (plainText repeatedDocument) repeatedDocuments
    securityPolicy := { signerResolver := fun _ embedded => embedded.elim (.error .untrustedSigner) .ok } }

/-- A message whose business document names two processes is accepted under the default
checks, and the second is published. -/
theorem second_process_published :
    letI := repeating
    ∃ message document, parse .peppol trustingReceiver (plainText honestDocument) deliveredAttachments = .ok message ∧
      message.parseError = none ∧ trustingReceiver.securityPolicy.verifyParticipants = true ∧
        businessDocumentOf message = .ok document ∧ ∀ properties,
          ¬ NothingContradicts message properties document.standardBusinessDocumentHeader := by
  have stamps : @Stamps repeating answerTime ∧ @Stamps repeating ⟨1788726620821000⟩ := recorded_stamps []
  obtain ⟨bodyAdmits, bodyReadable, -⟩ := @honest_body repeating
  obtain ⟨parsed, payload⟩ := repeated_parses
  have short : (plainText repeatedDocument).length ≤ 3000 := by decide +kernel
  obtain ⟨envelope, reread, core⟩ := @delivered_processed [48, 2] (deliveredElements [partFor attachmentId] deliveredBody)
    deliveredPayloads [partFor attachmentId] deliveredBody repeating (@Certificate.mk repeating [48, 2] rfl) trustingReceiver (fun _ => rfl)
    (by simp) stamps.1 bodyAdmits bodyReadable (List.forall_mem_singleton.mpr (deliveredPart_admits _))
    (List.forall_mem_singleton.mpr (deliveredPart_readable _)) (@honest_indexed repeating _ _ _ _)
    (unpacking_signed (plainText repeatedDocument) repeatedDocuments honest_placed)
    (unpacking_encrypted (plainText repeatedDocument) repeatedDocuments) (fun _ => rfl) (by simp [deliveredPayloads])
    (fun kind required child user read => @honest_covers repeating child user read _ required) _
    (unpacking_unpacked (plainText repeatedDocument) repeatedDocuments _ rfl (by omega))
  obtain ⟨message, document, accepted, sound, process, business, scopes⟩ := @delivered_publishes repeating _ _ _ _ _ _ _ _ _ _ _
    _ _ parsed reread core payload rfl (@repeatedBusiness_admits repeating) (@repeatedBusiness_readable repeating stamps.2) rfl rfl
    (@repeated_scopes repeating) rfl
  refine ⟨message, document, accepted, sound, rfl, business, fun properties nothing => ?_⟩
  have first : (⟨strip "PROCESSID", strip RecordedExchange.processIdentifier, some (strip cenbiiProcidUbl)⟩ : Scope) ∈
      document.standardBusinessDocumentHeader.businessScope.scopes := by
    rw [scopes]
    exact List.mem_map.mpr ⟨⟨"PROCESSID", RecordedExchange.processIdentifier, some cenbiiProcidUbl⟩,
      by simp [repeatedBusiness, deliveredBusiness], rfl⟩
  have said := @NothingContradicts.processes repeating _ _ _ nothing _ first (by decide)
  rw [process] at said
  exact absurd (Option.some.inj said) (by decide +kernel)

end Repetition

end RepeatedEntries
