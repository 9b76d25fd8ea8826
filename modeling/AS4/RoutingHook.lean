import AS4.RepeatedEntries
import AS4.TracedSteps

/-!
When the routing hook is asked. The parser of Peppol messages is run once more with the
recipients noted that it asks the hook about, and all it does before the first of them
is taken together: a recipient is asked about when that has returned.
-/

namespace RoutingHook
open ElementTree ElementCodec ElementCodec.Codec FallibleSteps TracedSteps PythonData AS4Libraries AS4Errors
  SignatureModel MessagingModel EnvelopeModel BusinessDocument Verification MessageParsing AcceptedMessage
  RepeatedEntries ReceivingRuns RecordedExchange RecordLaws Serialisation WrittenEnvelope SignedReadings SignalBuilding
  MessageBuilding WrittenIdentifiers DeliveredMessage AcceptedDelivery

variable [Libraries]

section Stages

/-- `process_sbdh` up to the call of the hook. -/
def readHeader (context : AS4ParseContext) (envelope : Envelope) : Process StandardBusinessDocumentHeader := do
  lift (verifyPartyIdentifiers envelope)
  let fields ← get
  let payload ← lift (firstPayload fields)
  let document ← lift (parseBusinessDocument payload)
  lift (requireSchemaValidHeader (.root document))
  let document ← lift ((StandardBusinessDocument.codec.validate (.root document)).mapError .validationError)
  let header := document.standardBusinessDocumentHeader
  modify fun fields =>
    { fields with sender := some header.sender.identifier.value, recipient := some header.receiver.identifier.value }
  lift (verifyParticipants context envelope header)
  return header

/-- `process_sbdh` from there on. -/
def publishScopes (header : StandardBusinessDocumentHeader) : Process PUnit := do
  let (documentScope, processScope) ← lift (requireScopes (scopeDict header.businessScope.scopes))
  modify fun fields =>
    { fields with
      documentTypeIdentifierValue := some documentScope.instanceIdentifier
      documentTypeIdentifierScheme := some (documentScope.identifier.getD "busdox-docid-qns")
      processIdentifier := some processScope.instanceIdentifier }

theorem processSbdh_stages (context : AS4ParseContext) (envelope : Envelope) :
    processSbdh context envelope = (do
      let header ← readHeader context envelope
      lift (acceptRecipient context header.receiver.identifier.value)
      publishScopes header) := by
  simp only [processSbdh, readHeader, publishScopes, bind_assoc, pure_bind]

/-- The Peppol profile goes on where the core parser has returned. -/
theorem parseSteps_stages (context : AS4ParseContext) (soapBytes : Bytes) (mimeAttachments : Dict String Bytes) :
    parseSteps .peppol context soapBytes mimeAttachments = (do
      parseSteps .as4 context soapBytes mimeAttachments
      let fields ← get
      match fields.soapEnvelope with
      | some envelope => (processSbdh context envelope).adaptExcept translateSbdhError
      | none => lift (raise userMessageNotFound.new)) := by
  simp only [parseSteps, process, processPeppol, bind_assoc] <;> rfl

end Stages

section Traced

abbrev Asking (α : Type) := Traced PyError AS4Message String α

/-- The call of the hook, with the recipient noted it is asked about. -/
def askHook (context : AS4ParseContext) (recipient : String) : Asking PUnit :=
  match context.acceptParticipant with
  | none => silent (lift (acceptRecipient context recipient))
  | some _ => do
      note recipient
      silent (lift (acceptRecipient context recipient))

def processSbdhAsking (context : AS4ParseContext) (envelope : Envelope) : Asking PUnit := do
  let header ← silent (readHeader context envelope)
  askHook context header.receiver.identifier.value
  silent (publishScopes header)

def parseStepsAsking (context : AS4ParseContext) (soapBytes : Bytes) (mimeAttachments : Dict String Bytes) : Asking PUnit := do
  silent (parseSteps .as4 context soapBytes mimeAttachments)
  let fields ← silent get
  match fields.soapEnvelope with
  | some envelope => (processSbdhAsking context envelope).adaptExcept translateSbdhError
  | none => silent (lift (raise userMessageNotFound.new))

/-- The recipients that the hook is asked about during one `parse`. -/
def hookCalls (context : AS4ParseContext) (soapBytes : Bytes) (mimeAttachments : Dict String Bytes) : List String :=
  events (parseStepsAsking context soapBytes mimeAttachments ({}, []))

theorem askHook_traces (context : AS4ParseContext) (recipient : String) :
    Traces (askHook context recipient) (lift (acceptRecipient context recipient)) := by
  unfold askHook
  split
  · exact traces_silent _
  · exact traces_note_bind (traces_silent _)

theorem processSbdhAsking_traces (context : AS4ParseContext) (envelope : Envelope) :
    Traces (processSbdhAsking context envelope) (processSbdh context envelope) := by
  rw [processSbdh_stages]
  exact traces_bind (traces_silent _) fun header => traces_bind (askHook_traces _ _) fun _ => traces_silent _

/-- The parser with its questions noted is the parser. -/
theorem parseStepsAsking_traces (context : AS4ParseContext) (soapBytes : Bytes) (mimeAttachments : Dict String Bytes) :
    Traces (parseStepsAsking context soapBytes mimeAttachments) (parseSteps .peppol context soapBytes mimeAttachments) := by
  rw [parseSteps_stages]
  refine traces_bind (traces_silent _) fun _ => traces_bind (traces_silent _) fun fields => ?_
  cases fields.soapEnvelope with
  | none => exact traces_silent _
  | some envelope => exact traces_adapt (processSbdhAsking_traces context envelope)

end Traced

section Calls
variable {context : AS4ParseContext} {soapBytes : Bytes} {mimeAttachments : Dict String Bytes}

/-- All that comes before the hook has returned, and left the message with this header. -/
structure Reached (context : AS4ParseContext) (soapBytes : Bytes) (mimeAttachments : Dict String Bytes)
    (middle : AS4Message) (envelope : Envelope) (header : StandardBusinessDocumentHeader) (after : AS4Message) : Prop where
  core : parseSteps .as4 context soapBytes mimeAttachments {} = .ok ⟨⟩ middle
  stored : middle.soapEnvelope = some envelope
  read : readHeader context envelope middle = .ok header after

theorem reached_run {middle after : AS4Message} {envelope : Envelope} {header : StandardBusinessDocumentHeader}
    (reached : Reached context soapBytes mimeAttachments middle envelope header after) :
    parseStepsAsking context soapBytes mimeAttachments ({}, []) =
      (do askHook context header.receiver.identifier.value
          silent (publishScopes header)).adaptExcept translateSbdhError (after, []) := by
  have fields : (get : Process AS4Message) middle = .ok middle middle := rfl
  simp only [parseStepsAsking, silent_bind_ok reached.core, silent_bind_ok fields, reached.stored, processSbdhAsking]
  rw [EStateM.adaptExcept, EStateM.adaptExcept, silent_bind_ok reached.read]

/-- Either the parser is stopped before it gets to the hook, or it gets there. -/
theorem reached_or_stopped (context : AS4ParseContext) (soapBytes : Bytes) (mimeAttachments : Dict String Bytes) :
    (∃ raised after, parseStepsAsking context soapBytes mimeAttachments ({}, []) = .error raised (after, [])) ∨
      ∃ middle envelope header after, Reached context soapBytes mimeAttachments middle envelope header after := by
  cases core : parseSteps .as4 context soapBytes mimeAttachments {} with
  | error raised after => exact .inl ⟨raised, after, silent_bind_error core⟩
  | ok done middle =>
      have fields : (get : Process AS4Message) middle = .ok middle middle := rfl
      cases stored : middle.soapEnvelope with
      | none =>
          left
          simp only [parseStepsAsking, silent_bind_ok core, silent_bind_ok fields, stored]
          exact ⟨_, middle, rfl⟩
      | some envelope =>
          cases read : readHeader context envelope middle with
          | ok header after => exact .inr ⟨middle, envelope, header, after, core, stored, read⟩
          | error raised after =>
              left
              refine ⟨translateSbdhError raised, after, ?_⟩
              simp only [parseStepsAsking, silent_bind_ok core, silent_bind_ok fields, stored, processSbdhAsking]
              rw [EStateM.adaptExcept, silent_bind_error read]

/-- The hook is noted whatever it answers. -/
theorem askHook_run (context : AS4ParseContext) (recipient : String) (before : AS4Message) :
    askHook context recipient (before, []) =
      match acceptRecipient context recipient with
      | .ok _ => .ok ⟨⟩ (before, (context.acceptParticipant.map fun _ => recipient).toList)
      | .error raised => .error raised (before, (context.acceptParticipant.map fun _ => recipient).toList) := by
  unfold askHook
  cases asked : context.acceptParticipant with
  | none =>
      simp only [acceptRecipient, asked]
      rfl
  | some accept =>
      simp only [bind, EStateM.bind, note, modify, modifyGet, MonadStateOf.modifyGet, EStateM.modifyGet, silent, lift,
        Option.map_some, Option.toList_some, List.nil_append]
      cases acceptRecipient context recipient <;> rfl

theorem reached_calls {middle after : AS4Message} {envelope : Envelope} {header : StandardBusinessDocumentHeader}
    (reached : Reached context soapBytes mimeAttachments middle envelope header after) :
    hookCalls context soapBytes mimeAttachments =
      (context.acceptParticipant.map fun _ => header.receiver.identifier.value).toList := by
  rw [hookCalls, reached_run reached, adapt_events]
  simp only [bind, EStateM.bind, askHook_run]
  cases acceptRecipient context header.receiver.identifier.value with
  | error raised => rfl
  | ok done => exact silent_events _ _ _

/-- What the parser does once it has got to the hook. -/
theorem reached_parse {middle after : AS4Message} {envelope : Envelope} {header : StandardBusinessDocumentHeader}
    (reached : Reached context soapBytes mimeAttachments middle envelope header after) :
    parseSteps .peppol context soapBytes mimeAttachments {} =
      (do lift (acceptRecipient context header.receiver.identifier.value)
          publishScopes header).adaptExcept translateSbdhError after := by
  rw [← parseStepsAsking_traces context soapBytes mimeAttachments {} [], reached_run reached]
  exact traces_adapt (traces_bind (askHook_traces _ _) fun _ => traces_silent _) after []

theorem readHeader_recipient {envelope : Envelope} {before after : AS4Message} {header : StandardBusinessDocumentHeader}
    (read : readHeader context envelope before = .ok header after) :
    after.recipient = some header.receiver.identifier.value := by
  simp only [readHeader, state_bind_ok, lift_ok, state_get_ok, state_modify_ok, state_pure_ok] at read
  obtain ⟨_, _, ⟨-, rfl⟩, fields, _, ⟨rfl, rfl⟩, payload, _, ⟨-, rfl⟩, root, _, ⟨-, rfl⟩, _, _, ⟨-, rfl⟩, document, _,
    ⟨-, rfl⟩, _, _, rfl, _, _, ⟨-, rfl⟩, rfl, rfl⟩ := read
  rfl

theorem publishScopes_leaves (header : StandardBusinessDocumentHeader) (before : AS4Message) :
    Leaves (publishScopes header) before fun after => after.recipient = before.recipient := by
  refine leaves_lift_bind rfl fun scopes _ => ?_
  exact rfl

/-- Every message returned after the hook was reached has the recipient it is about. -/
theorem reached_recipient {middle after message : AS4Message} {envelope : Envelope} {header : StandardBusinessDocumentHeader}
    (reached : Reached context soapBytes mimeAttachments middle envelope header after)
    (parsed : parse .peppol context soapBytes mimeAttachments = .ok message) :
    message.recipient = some header.receiver.identifier.value := by
  have left : Leaves (parseSteps .peppol context soapBytes mimeAttachments) {}
      fun fields => fields.recipient = some header.receiver.identifier.value := by
    have stages : Leaves ((do
        lift (acceptRecipient context header.receiver.identifier.value)
        publishScopes header : Process PUnit).adaptExcept translateSbdhError) after
          fun fields => fields.recipient = some header.receiver.identifier.value := by
      refine leaves_adapt (leaves_lift_bind (readHeader_recipient reached.read) fun _ _ => ?_)
      rw [← readHeader_recipient reached.read]
      exact publishScopes_leaves header after
    simpa only [Leaves, reached_parse reached] using stages
  unfold parse at parsed
  split at parsed
  · rename_i succeeded
    obtain rfl := Except.ok.inj parsed
    have kept := leaves_ok left succeeded
    exact kept
  · rename_i stopped
    split at parsed
    · obtain rfl := Except.ok.inj parsed
      have kept := leaves_error left stopped
      exact kept
    · simp at parsed

/-- A refusal of the hook is answered as not serviced. -/
theorem reached_refused {middle after : AS4Message} {envelope : Envelope} {header : StandardBusinessDocumentHeader}
    {accept : String → Except PyError Unit}
    (reached : Reached context soapBytes mimeAttachments middle envelope header after)
    (hook : context.acceptParticipant = some accept)
    (refuses : accept header.receiver.identifier.value = .error .participantNotServiced) :
    parse .peppol context soapBytes mimeAttachments = .ok { after with parseError := some peppolNotServiced.new } := by
  have refused : acceptRecipient context header.receiver.identifier.value =
      .error (.receiptable peppolNotServiced.new) := by
    simp [acceptRecipient, hook, refuses, Except.mapError]
  have stopped : parseSteps .peppol context soapBytes mimeAttachments {} =
      .error (.receiptable peppolNotServiced.new) after := by
    rw [reached_parse reached]
    simp only [EStateM.adaptExcept, bind, EStateM.bind, lift, refused, translateSbdhError]
  simp only [parse, stopped, caught]

end Calls

section Checks

/-- What has succeeded of a request: its signature, the coverage and the digests of that,
its decryption and the decompression of its payloads, the types of its parties and the
schema of its business document, and the agreement of the participants. -/
structure ChecksPassed (context : AS4ParseContext) (soapBytes : Bytes) (mimeAttachments : Dict String Bytes)
    (reading : Reading) (signature : Signature) (signer : Certificate) (middle : AS4Message) (root : Node)
    (properties : MessageProperties) (header : StandardBusinessDocumentHeader) : Prop where
  parsed : Libraries.parseXml soapBytes = some reading.document
  validated : Envelope.codec.validate (.root reading.document) = .ok reading.envelope
  indexed : indexElementsById (.root reading.document) = .ok reading.index
  carried : reading.envelope.header.security.signature = some signature
  trusted : ∃ token embedded, signatureToken reading.envelope.header.security signature = .ok token ∧
    token.x509Certificate = .ok embedded ∧
      resolveSigner context.securityPolicy reading.userMessage.partyInfo.partyFrom (some embedded) = .ok signer
  verified : verify signature signer = .ok ()
  covered : verifySignatureCoverage signature reading.index (payloadHrefs reading.userMessage)
    context.securityPolicy.requiredCoverage = .ok ()
  digests : verifyReferenceDigests signature reading.index = .ok ()
  encrypted : reading.envelope.header.security.encryptedKey ≠ none
  decrypts : getDecryptedData context reading.envelope.header.security mimeAttachments = .ok reading.decrypted
  attachmentDigests : verifyAttachmentDigests signature reading.decrypted = .ok ()
  decompressed : ∃ fields, fields.decryptedData = reading.decrypted ∧
    decompressParts context mimeAttachments reading.payloadInfo.partInfo fields = .ok ⟨⟩ middle
  parties : reading.userMessage.partyInfo.partyFrom.partyId.typeValue = some peppolPartyIdentifierType ∧
    reading.userMessage.partyInfo.partyTo.partyId.typeValue = some peppolPartyIdentifierType
  document : ∃ payload, firstPayload middle = .ok payload ∧ Libraries.parseXml payload = some root
  schemaValid : requireSchemaValidHeader (.root root) = .ok ()
  read : ∃ document, StandardBusinessDocument.codec.validate (.root root) = .ok document ∧
    document.standardBusinessDocumentHeader = header
  declared : reading.userMessage.messageProperties = some properties
  sender : ∃ property, properties.originalSender = some property ∧
    property.value = header.sender.identifier.value ∧ property.propertyType = header.sender.identifier.authority
  receiver : ∃ property, properties.finalRecipient = some property ∧
    property.value = header.receiver.identifier.value ∧ property.propertyType = header.receiver.identifier.authority

/-- The stages of the core parser that returned. -/
structure CoreChecked (context : AS4ParseContext) (soapBytes : Bytes) (mimeAttachments : Dict String Bytes)
    (reading : Reading) (middle : AS4Message) : Prop where
  parsed : Libraries.parseXml soapBytes = some reading.document
  validated : Envelope.codec.validate (.root reading.document) = .ok reading.envelope
  stored : middle.soapEnvelope = some reading.envelope
  indexed : indexElementsById (.root reading.document) = .ok reading.index
  verified : ∃ signer, getVerifiedSignature context reading.envelope.header.security reading.envelope reading.index =
    .ok (reading.signature, signer)
  decrypts : getDecryptedData context reading.envelope.header.security mimeAttachments = .ok reading.decrypted
  attachments : verifySignedAttachments context reading.signature reading.decrypted = .ok ()
  hasUserMessage : requireUserMessage reading.envelope = .ok reading.userMessage
  decompressed : ∃ fields, fields.decryptedData = reading.decrypted ∧
    decompressParts context mimeAttachments reading.payloadInfo.partInfo fields = .ok ⟨⟩ middle

variable {context : AS4ParseContext} {soapBytes : Bytes} {mimeAttachments : Dict String Bytes}

theorem core_checked {middle : AS4Message} {result : PUnit}
    (succeeded : parseSteps .as4 context soapBytes mimeAttachments {} = .ok result middle) :
    ∃ reading, CoreChecked context soapBytes mimeAttachments reading middle := by
  simp only [parseSteps, process, processAs4, state_bind_ok, lift_ok, state_modify_ok] at succeeded
  obtain ⟨document, _, ⟨xml, rfl⟩, _, _, ⟨-, rfl⟩, _, _, rfl, _, _, ⟨-, rfl⟩, _, _, rfl, _, _, rfl, envelope, _,
    ⟨validated, rfl⟩, _, _, rfl, index, _, ⟨indexed, rfl⟩, ⟨signature, signer⟩, _, ⟨verified, rfl⟩, _, _, rfl, decrypted, _,
    ⟨decrypts, rfl⟩, _, _, rfl, _, _, ⟨attachments, rfl⟩, userMessage, _, ⟨hasUserMessage, rfl⟩, payloadInfo, _, ⟨-, rfl⟩,
    remaining⟩ := succeeded
  obtain ⟨same, -⟩ := decompressParts_keeps remaining
  simp only [Envelope.modelValidateEtree, mapError_ok] at validated
  refine ⟨⟨document, envelope, index, signature, decrypted, userMessage, payloadInfo⟩, parseXml_ok.mp xml, validated, ?_,
    indexed, ⟨signer, verified⟩, decrypts, attachments, hasUserMessage, _, ?_, remaining⟩
  · rw [same]
  · rfl

theorem verifyPartyIdentifiers_ok {envelope : Envelope} {user : UserMessage} (carried : requireUserMessage envelope = .ok user)
    (checked : verifyPartyIdentifiers envelope = .ok ()) :
    user.partyInfo.partyFrom.partyId.typeValue = some peppolPartyIdentifierType ∧
      user.partyInfo.partyTo.partyId.typeValue = some peppolPartyIdentifierType := by
  have ofType : ∀ {element : String} {party : Party}, verifyPartyIdentifier element party = .ok () →
      party.partyId.typeValue = some peppolPartyIdentifierType := by
    intro element party accepted
    unfold verifyPartyIdentifier at accepted
    split at accepted
    · simp [raise] at accepted
    · rename_i same
      exact not_not.mp same
  simp only [verifyPartyIdentifiers, carried, bind_ok, Except.ok.injEq] at checked
  obtain ⟨_, rfl, _, fromType, toType⟩ := checked
  exact ⟨ofType fromType, ofType toType⟩

/-- Where the hook was reached, the checks before it have passed. -/
theorem reached_checks {middle after : AS4Message} {envelope : Envelope} {header : StandardBusinessDocumentHeader}
    (signed : context.securityPolicy.signRequired = true) (encryption : context.securityPolicy.encryptRequired = true)
    (digests : context.securityPolicy.verifyDigests = true)
    (participants : context.securityPolicy.verifyParticipants = true)
    (reached : Reached context soapBytes mimeAttachments middle envelope header after) :
    ∃ reading signature signer root properties, ChecksPassed context soapBytes mimeAttachments reading signature signer middle
      root properties header := by
  obtain ⟨reading, core⟩ := core_checked reached.core
  obtain rfl : envelope = reading.envelope := Option.some.inj (reached.stored.symm.trans core.stored)
  obtain ⟨signer', verified⟩ := core.verified
  obtain ⟨signature, present⟩ : ∃ signature, reading.signature = some signature := by
    cases found : reading.signature with
    | none => simp [(getVerifiedSignature_none (found ▸ verified)).2] at signed
    | some signature => exact ⟨signature, rfl⟩
  rw [present] at verified
  obtain ⟨carried, signer, -, runs⟩ := getVerifiedSignature_some.mp verified
  obtain ⟨token, userMessage, embedded, found, hasUser, loaded, resolved, holds, covered, checked⟩ := verifySignature_ok.mp runs
  obtain rfl : reading.userMessage = userMessage := Except.ok.inj (core.hasUserMessage.symm.trans hasUser)
  have read := reached.read
  simp only [readHeader, state_bind_ok, lift_ok, state_get_ok, state_modify_ok, state_pure_ok] at read
  obtain ⟨_, _, ⟨parties, rfl⟩, fields, _, ⟨rfl, rfl⟩, payload, _, ⟨first, rfl⟩, root, _, ⟨parsed, rfl⟩, _, _,
    ⟨schemaValid, rfl⟩, document, _, ⟨validated, rfl⟩, _, _, rfl, _, _, ⟨agree, rfl⟩, rfl, -⟩ := read
  simp only [parseBusinessDocument, mapError_ok, parseXml_ok] at parsed validated
  obtain ⟨user, properties, userCarried, given, senders, recipients⟩ := verifyParticipants_ok participants agree
  obtain rfl : user = some reading.userMessage := by
    have carries := hasUser
    simp only [requireUserMessage, userCarried, bind_ok, Except.ok.injEq] at carries
    obtain ⟨_, rfl, named⟩ := carries
    cases user with
    | none => simp [raise] at named
    | some found => simpa using named
  refine ⟨reading, signature, signer, root, properties, ?_⟩
  exact
    { parsed := core.parsed, validated := core.validated, indexed := core.indexed, carried := carried
      trusted := ⟨token, embedded, found, loaded, resolved⟩, verified := holds, covered := covered, digests := by simpa [verifySignedElements, digests] using checked
      encrypted := fun absent => by
        have decrypts := core.decrypts
        simp [getDecryptedData, absent, encryption, raise] at decrypts
      decrypts := core.decrypts
      attachmentDigests := by simpa [verifySignedAttachments, present, digests] using core.attachments
      decompressed := core.decompressed, parties := verifyPartyIdentifiers_ok hasUser parties
      document := ⟨payload, first, parsed⟩, schemaValid := schemaValid, read := ⟨document, validated, rfl⟩
      declared := given, sender := verifyParticipantAgrees_ok senders, receiver := verifyParticipantAgrees_ok recipients }

/-- The hook is asked at most once in a parse, about the recipient published afterwards,
and only when every check before it has passed; who it refuses is answered as not
serviced, and where it is not asked no message is accepted. -/
theorem hook_hears_checked_recipients (context : AS4ParseContext) (soapBytes : Bytes) (mimeAttachments : Dict String Bytes)
    (signed : context.securityPolicy.signRequired = true) (encryption : context.securityPolicy.encryptRequired = true)
    (digests : context.securityPolicy.verifyDigests = true)
    (participants : context.securityPolicy.verifyParticipants = true) :
    (hookCalls context soapBytes mimeAttachments).length ≤ 1 ∧
      (∀ recipient ∈ hookCalls context soapBytes mimeAttachments,
        (∃ reading signature signer middle root properties header, ChecksPassed context soapBytes mimeAttachments reading
            signature signer middle root properties header ∧ header.receiver.identifier.value = recipient) ∧
          (∀ message, parse .peppol context soapBytes mimeAttachments = .ok message → message.recipient = some recipient) ∧
          ∀ accept, context.acceptParticipant = some accept → accept recipient = .error .participantNotServiced →
            ∃ message error, parse .peppol context soapBytes mimeAttachments = .ok message ∧
              message.parseError = some error ∧ error.errorClass.errorCode = "EBMS:0004" ∧
                error.detail = "PEPPOL:NOT_SERVICED") ∧
      (hookCalls context soapBytes mimeAttachments = [] → context.acceptParticipant = none ∨
        ∀ message, parse .peppol context soapBytes mimeAttachments = .ok message → message.parseError ≠ none) := by
  rcases reached_or_stopped context soapBytes mimeAttachments with ⟨raised, after, stopped⟩ |
    ⟨middle, envelope, header, after, reached⟩
  · have silence : hookCalls context soapBytes mimeAttachments = [] := by rw [hookCalls, stopped]; rfl
    have plain : parseSteps .peppol context soapBytes mimeAttachments {} = .error raised after := by
      rw [← parseStepsAsking_traces context soapBytes mimeAttachments {} [], stopped]
      rfl
    refine ⟨by simp [silence], by simp [silence], fun _ => .inr fun message parsed => ?_⟩
    simp only [parse, plain] at parsed
    split at parsed
    · obtain rfl := Except.ok.inj parsed
      simp
    · simp at parsed
  · have calls := reached_calls reached
    refine ⟨?_, ?_, fun silence => .inl ?_⟩
    · rw [calls]
      cases context.acceptParticipant <;> simp
    · intro recipient asked
      obtain rfl : header.receiver.identifier.value = recipient := by
        rw [calls] at asked
        cases hook : context.acceptParticipant with
        | none => simp [hook] at asked
        | some accept => simpa [hook, eq_comm] using asked
      obtain ⟨reading, signature, signer, root, properties, passed⟩ :=
        reached_checks signed encryption digests participants reached
      refine ⟨⟨reading, signature, signer, middle, root, properties, header, passed, rfl⟩,
        fun message parsed => reached_recipient reached parsed, fun accept hook refuses => ?_⟩
      exact ⟨_, _, reached_refused reached hook refuses, rfl, rfl, rfl⟩
    · rw [calls] at silence
      cases hook : context.acceptParticipant with
      | none => rfl
      | some accept => simp [hook] at silence

end Checks

omit [Libraries] in
/-- The receiver of the delivered message, who services every participant. -/
def servicing : @AS4ParseContext (signing honestDocuments) :=
  letI := signing honestDocuments
  { localParty := answeringParty honestDocuments
    acceptParticipant := some fun _ => .ok ()
    securityPolicy := trustingPolicy honestDocuments }

omit [Libraries] in
/-- The hook is asked about the recipient of the delivered message. -/
theorem delivered_recipient_asked :
    letI := signing honestDocuments
    ∃ message recipient, parse .peppol servicing (plainText honestDocument) deliveredAttachments = .ok message ∧
      hookCalls servicing (plainText honestDocument) deliveredAttachments = [recipient] ∧
        message.recipient = some recipient := by
  obtain ⟨stamps, stamps'⟩ := recorded_stamps honestDocuments
  obtain ⟨bodyAdmits, bodyReadable, -⟩ := @honest_body (signing honestDocuments)
  obtain ⟨parsed, payload⟩ := documents_parse honest_apart
  have valid := valid_header honestDocuments
  rw [← deliveredBusiness_written honestDocuments] at payload valid
  obtain ⟨envelope, reread, core⟩ := @delivered_processed [48, 2] (deliveredElements [partFor attachmentId] deliveredBody)
    deliveredPayloads [partFor attachmentId] deliveredBody (signing honestDocuments)
    (@Certificate.mk (signing honestDocuments) [48, 2] rfl) servicing (fun _ => rfl) (by simp) stamps bodyAdmits bodyReadable
    (List.forall_mem_singleton.mpr (deliveredPart_admits _)) (List.forall_mem_singleton.mpr (deliveredPart_readable _))
    (@honest_indexed (signing honestDocuments) _ _ _ _) (delivered_signed honestDocuments honest_placed)
    (delivered_encrypted honestDocuments) (fun _ => rfl) (by simp [deliveredPayloads])
    (fun kind required child user read => @honest_covers (signing honestDocuments) child user read _ required) _
    (unpacking_unpacked envelopedPayload honestDocuments servicing rfl (le_trans envelopedPayload_short (by omega)))
  obtain ⟨message, accepted, sound, -⟩ := @delivered_accepted _ _ _ _ _ (signing honestDocuments) servicing _ _ stamps' rfl
    parsed payload valid envelope reread core
  obtain ⟨once, asked, silence⟩ := @hook_hears_checked_recipients (signing honestDocuments) servicing
    (plainText honestDocument) deliveredAttachments rfl rfl rfl rfl
  cases calls : @hookCalls (signing honestDocuments) servicing (plainText honestDocument) deliveredAttachments with
  | nil =>
      rcases silence calls with absent | rejected
      · exact absurd absent (by simp [servicing])
      · exact absurd sound (rejected message accepted)
  | cons recipient others =>
      rw [calls] at once asked
      obtain rfl : others = [] := by simpa using once
      exact ⟨message, recipient, accepted, rfl, (asked recipient List.mem_cons_self).2.1 message accepted⟩

end RoutingHook
