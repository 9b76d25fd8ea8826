import AS4.CompletedExchanges
import AS4.DocumentIdentifiers

/-!
The round trip of the Peppol functions: a message is built from the strings that describe
its document, taken in by its receiver, answered, and the answer read as the proof of what
was sent. The receiver is told the strings the message was built from, of the document type
as far as its first line goes.
-/

namespace PeppolMessages
open ElementTree ElementCodec ElementCodec.Codec FallibleSteps PythonData AS4Libraries AS4Errors SignatureModel
  MessagingModel EnvelopeModel Verification MessageParsing ReceiptVerification SignalBuilding MessageBuilding Exchange
  DocumentIdentifiers RecordLaws RecordReadings Serialisation AcceptedMessage SignedReadings MessageReadings BuiltSignals
  EmittedSignals NonRepudiation CertifiedAccessPoint BuiltMessages EnvelopedDocuments BuiltUserMessages AcceptedBuilds
  CompletedExchanges GreedyPatterns

section Functions
variable [Libraries]

/-- `create_peppol_internal_party` -/
def createPeppolInternalParty (partyId : String) (certificate : Certificate) (privateKey : AS4PrivateKey) : AS4InternalParty :=
  { identity := { partyId := partyId, partyType := some peppolPartyIdentifierType }
    credentials := { certificate := certificate, privateKey := privateKey } }

/-- `create_peppol_external_party` -/
def createPeppolExternalParty (partyId : String) (certificate : Certificate) : AS4ExternalParty :=
  { identity := { partyId := partyId, partyType := some peppolPartyIdentifierType }
    credentials := { certificate := certificate } }

/-- What `build_peppol_message` is told of the document. -/
structure PeppolArguments where
  sender : String
  recipient : String
  documentTypeIdentifierScheme : String
  documentTypeIdentifierValue : String
  processIdentifier : String
  senderCountryId : String
  documentIdentificationInstanceIdentifier : Option String := none

omit [Libraries] in
/-- The document type identifier, of the one scheme there is. -/
def documentTypeIdentifier (scheme value : String) : Except PyError BusdoxDocidQnsDocumentIdentifier :=
  if scheme = "busdox-docid-qns" then fromIdentifierValue value
  else .error (.other "NotImplementedError" s!"Unsupported_document_type_identifier_scheme {scheme}")

omit [Libraries] in
/-- The arguments of the builder; the instance identifier is the drawn one where none is given. -/
def peppolBuilderArgs (arguments : PeppolArguments) (instanceIdentifier : String) : Except PyError PeppolAS4MessageBuilderArgs := do
  let identifier ← documentTypeIdentifier arguments.documentTypeIdentifierScheme arguments.documentTypeIdentifierValue
  return {
    sender := arguments.sender
    recipient := arguments.recipient
    documentTypeIdentifier := identifier
    documentIdentificationInstanceIdentifier := arguments.documentIdentificationInstanceIdentifier.getD instanceIdentifier
    processIdentifier := arguments.processIdentifier
    c1CountryId := arguments.senderCountryId }

/-- `build_peppol_message` -/
def buildPeppolMessage (payload : Bytes) (localParty : AS4InternalParty) (remoteParty : AS4ExternalParty)
    (arguments : PeppolArguments) (instanceIdentifier : String) (draws : Draws) : Build AS4Message := do
  let args ← lift (peppolBuilderArgs arguments instanceIdentifier)
  buildMessage payload localParty remoteParty args draws

/-- `parse_peppol_message` -/
def parsePeppolMessage (requestHeaders : Dict String String) (requestBody : Bytes) (localParty : AS4InternalParty)
    (acceptParticipant : Option (String → Except PyError Unit)) (securityPolicy : Option SecurityPolicy)
    (identifiers : AS4References) (now : Datetime) : Except PyError AS4ReceivingExchange :=
  receive (newReceivingExchange localParty identifiers) requestHeaders requestBody acceptParticipant (securityPolicy.getD {}) now

/-- `parse_peppol_receipt` -/
def parsePeppolReceipt (responsePayload : Bytes) (expectedSigner : Certificate) : Except PyError AS4Receipt :=
  AS4Receipt.parse responsePayload expectedSigner

end Functions

section Strings
variable {s : String} {identifier : BusdoxDocidQnsDocumentIdentifier} {arguments : PeppolArguments} {drawn : String}
  {args : PeppolAS4MessageBuilderArgs}

/-- A string up to its first line break. -/
def firstLine (s : String) : String := String.ofList (s.toList.takeWhile (· != '\n'))

/-- Of a document type identifier its first line is kept. -/
theorem fromIdentifierValue_line (accepted : fromIdentifierValue s = .ok identifier) :
    identifier.identifierValue = firstLine s ∧ identifier.scheme = "busdox-docid-qns" := by
  obtain ⟨x, y, z, cut, -, -, -, rfl⟩ := fromIdentifierValue_ok.mp accepted
  obtain ⟨tail, whole, line, ends⟩ := cut.line
  refine ⟨?_, rfl⟩
  have first : joined x y z = s.toList.takeWhile (· != '\n') := by
    have split := List.takeWhile_append_dropWhile (p := (· != '\n')) (l := s.toList)
    refine line_unique (whole.symm.trans split.symm) line ?_ ends ?_
    · intro inside
      simpa using List.mem_takeWhile_imp inside
    · cases rest : s.toList.dropWhile (· != '\n') with
      | nil => exact .inl rfl
      | cons c after =>
          have stops := List.head?_dropWhile_not (· != '\n') s.toList
          rw [rest] at stops
          right
          simpa using stops
  rw [identifierValue_joined, first, firstLine]

theorem peppolBuilderArgs_ok (made : peppolBuilderArgs arguments drawn = .ok args) :
    args.sender = arguments.sender ∧ args.recipient = arguments.recipient ∧
      args.processIdentifier = arguments.processIdentifier ∧
        args.documentTypeIdentifier.scheme = "busdox-docid-qns" ∧
          arguments.documentTypeIdentifierScheme = "busdox-docid-qns" ∧
            args.documentTypeIdentifier.identifierValue = firstLine arguments.documentTypeIdentifierValue := by
  simp only [peppolBuilderArgs, bind_ok, pure_ok] at made
  obtain ⟨identifier, accepted, rfl⟩ := made
  unfold documentTypeIdentifier at accepted
  split at accepted
  · rename_i scheme
    obtain ⟨line, same⟩ := fromIdentifierValue_line accepted
    exact ⟨rfl, rfl, rfl, same, scheme, line⟩
  · simp at accepted

end Strings

section RoundTrip
variable [Libraries] {payload requestBody : Bytes} {localParty receiver : AS4InternalParty} {remoteParty : AS4ExternalParty}
  {arguments : PeppolArguments} {drawn : String} {draws : Draws} {before references identifiers : AS4References}
  {message : AS4Message} {requestHeaders : Dict String String} {accept : Option (String → Except PyError Unit)}
  {policy : Option SecurityPolicy} {now : Datetime} {attachmentId dataId name : String} {root : Node}

theorem buildPeppolMessage_made {args : PeppolAS4MessageBuilderArgs} (made : peppolBuilderArgs arguments drawn = .ok args) :
    buildPeppolMessage payload localParty remoteParty arguments drawn draws before =
      buildMessage payload localParty remoteParty args draws before := by
  simp [buildPeppolMessage, made, lift, bind, EStateM.bind]

theorem buildPeppolMessage_ok
    (built : buildPeppolMessage payload localParty remoteParty arguments drawn draws before = .ok message references) :
    ∃ args, peppolBuilderArgs arguments drawn = .ok args ∧
      buildMessage payload localParty remoteParty args draws before = .ok message references := by
  cases made : peppolBuilderArgs arguments drawn with
  | error raised => simp [buildPeppolMessage, made, lift, bind, EStateM.bind] at built
  | ok args => exact ⟨args, rfl, buildPeppolMessage_made made ▸ built⟩

/-- The sender's side between the build and the receipt: a message under some ids. -/
def holding (localParty : AS4InternalParty) (remoteParty : AS4ExternalParty) (references : AS4References)
    (message : Option AS4Message) : AS4SendingExchange :=
  { localParty := localParty, remoteParty := remoteParty, identifiers := references, message := message }

/-- A message tells what it was built from: its strings without the white space around them. -/
structure Told (arguments : PeppolArguments) (message : AS4Message) : Prop where
  sender : message.sender = some (strip arguments.sender)
  recipient : message.recipient = some (strip arguments.recipient)
  processIdentifier : message.processIdentifier = some (strip arguments.processIdentifier)
  scheme : message.documentTypeIdentifierScheme = some arguments.documentTypeIdentifierScheme
  value : message.documentTypeIdentifierValue = some (strip (firstLine arguments.documentTypeIdentifierValue))

theorem asReceived_told {args : PeppolAS4MessageBuilderArgs} {envelope : Envelope}
    (made : peppolBuilderArgs arguments drawn = .ok args) :
    Told arguments (asReceived localParty remoteParty args message envelope) := by
  obtain ⟨sender, recipient, process, scheme, given, value⟩ := peppolBuilderArgs_ok made
  have trimmed : strip "busdox-docid-qns" = "busdox-docid-qns" := by decide
  constructor <;> simp [asReceived, sender, recipient, process, scheme, given, value, trimmed]

/-- A message that is built, taken in and answered proves itself: the receiver is told what
the message was built from, and its answer is a receipt for all that was signed of it. -/
theorem peppol_round_trip (placeFree : PlaceFree) (hashes : ∀ data, Libraries.digest .sha256 data ≠ [])
    (forms : ∀ element, ∃ form, Libraries.canonicalForm (.root element) [] = some form)
    (built : buildPeppolMessage payload localParty remoteParty arguments drawn draws before = .ok message references)
    (deliverable : ∀ args, peppolBuilderArgs arguments drawn = .ok args →
      Deliverable (contextOf (newReceivingExchange receiver identifiers) accept (policy.getD {})) localParty remoteParty args
        draws payload references attachmentId dataId name root)
    (services : acceptRecipient (contextOf (newReceivingExchange receiver identifiers) accept (policy.getD {}))
      (strip arguments.recipient) = .ok ())
    (answering : Answering (newReceivingExchange receiver identifiers) references dataId now)
    (faithful : Faithful (newReceivingExchange receiver identifiers) (holding localParty remoteParty references (some message))
      (requestHeaders, requestBody) accept (policy.getD {}) now)
    (trimmed : strip message.messageId = message.messageId) :
    ∃ receiving received headers data receipt,
      parsePeppolMessage requestHeaders requestBody receiver accept policy identifiers now = .ok receiving ∧
        receiving.state = .received ∧ receiving.message = some received ∧ Told arguments received ∧
          received.decryptedData = message.decryptedData ∧ buildSignal receiving = .ok (headers, data) ∧
            parsePeppolReceipt data remoteParty.credentials.certificate = .ok receipt ∧
              receipt.originalMessageId = some message.messageId ∧ receipt.errors = .ok [] ∧
                receipt.verifyNonRepudiation message.signedReferences none = .ok () := by
  obtain ⟨args, chosen, made⟩ := buildPeppolMessage_ok built
  obtain ⟨-, recipient, -⟩ := peppolBuilderArgs_ok chosen
  -- To the exchanges below these functions, the caller is a sender that holds the message and no more.
  obtain ⟨known, envelope', party, signal, headers, data, receipt, same, taken, written, accepted, meant, carries,
    faultless⟩ := @built_answered _ (holding localParty remoteParty before none)
      (holding localParty remoteParty references (some message)) (newReceivingExchange receiver identifiers) payload
      args draws (requestHeaders, requestBody) accept (policy.getD {}) now attachmentId dataId name root message
      placeFree hashes forms made rfl (deliverable args chosen) (recipient ▸ services) answering faithful trimmed
  obtain ⟨refers, acknowledged⟩ := meant
  refine ⟨_, _, headers, data, receipt, taken, rfl, rfl, asReceived_told chosen, rfl, written, accepted, ?_,
    faultless, ?_⟩
  · simpa [knownMessageId, asReceived, known] using refers
  · have proves : receipt.nonRepudiatedReferences = .ok message.signedReferences :=
      acknowledged.trans (congrArg Except.ok same)
    exact verifyNonRepudiation_iff.mpr ⟨carries, by simp, _, proves, by simp, by simp⟩

end RoundTrip

section Invoices

/-- The invoice, as the caller describes it. -/
def invoiceArguments : PeppolArguments where
  sender := "9999999999"
  recipient := "1111111111"
  documentTypeIdentifierScheme := "busdox-docid-qns"
  documentTypeIdentifierValue := "urn:oasis:names:specification:ubl:schema:xsd:Invoice-2::Invoice##urn:cen.eu:en16931:2017#compliant#urn:fdc:peppol.eu:2017:poacc:billing:3.0::2.1"
  processIdentifier := RecordedExchange.processIdentifier
  senderCountryId := "BE"
  documentIdentificationInstanceIdentifier := some "00000000-0000-4000-8000-00000000000c"

theorem invoiceArguments_args : peppolBuilderArgs invoiceArguments "" = .ok RecordedExchange.builderArgs := by
  let identifier := RecordedExchange.builderArgs.documentTypeIdentifier
  have cut : matchLeft identifierPattern invoiceArguments.documentTypeIdentifierValue.toList =
      some [identifier.syntaxSpecificId.toList, identifier.customizationId.toList, identifier.version.toList] := by
    decide +kernel
  have filled : identifier.syntaxSpecificId.toList ≠ [] ∧ identifier.customizationId.toList ≠ [] ∧
      identifier.version.toList ≠ [] := by decide
  have accepted : fromIdentifierValue invoiceArguments.documentTypeIdentifierValue = .ok identifier := by
    rw [fromIdentifierValue, cut]
    simp only [if_pos filled, String.ofList_toList]
    rfl
  have chosen : documentTypeIdentifier invoiceArguments.documentTypeIdentifierScheme
      invoiceArguments.documentTypeIdentifierValue = .ok identifier := by
    have scheme : invoiceArguments.documentTypeIdentifierScheme = "busdox-docid-qns" := rfl
    rw [documentTypeIdentifier, if_pos scheme, accepted]
  rw [peppolBuilderArgs, chosen]
  rfl

/-- The invoice is built, taken in and answered, and its sender holds the proof of it. -/
theorem invoice_round_trip :
    let documents := exchangeDocuments acceptedSignal
    letI := undoing documents
    let sender := createPeppolInternalParty "9932:9999999999" (invoiceSender documents).credentials.certificate
      (invoiceSender documents).credentials.privateKey
    let receiver := createPeppolInternalParty "9932:1111111111" (invoiceRecipient documents).credentials.certificate
      (invoiceRecipient documents).credentials.privateKey
    let remoteParty := createPeppolExternalParty "9932:1111111111" receiver.credentials.certificate
    ∃ (message : AS4Message) (references : AS4References) (request : Dict String String × Bytes)
      (receiving : AS4ReceivingExchange) (received : AS4Message) (headers : Dict String String) (data : Bytes)
      (receipt : AS4Receipt),
      buildPeppolMessage (plainText invoiceRoot) sender remoteParty invoiceArguments "" invoiceDraws freshReferences =
          .ok message references ∧
        requestData message invoiceDraws = .ok request ∧
          parsePeppolMessage request.1 request.2 receiver none (some (invoicePolicy documents))
              RecordedExchange.answerReferences RecordedExchange.answerTime = .ok receiving ∧
            receiving.state = .received ∧ receiving.message = some received ∧ Told invoiceArguments received ∧
              received.decryptedData = message.decryptedData ∧ buildSignal receiving = .ok (headers, data) ∧
                parsePeppolReceipt data remoteParty.credentials.certificate = .ok receipt ∧
                  receipt.originalMessageId = some message.messageId ∧ receipt.errors = .ok [] ∧
                    receipt.verifyNonRepudiation message.signedReferences none = .ok () := by
  intro documents
  let _ := undoing documents
  intro sender receiver remoteParty
  obtain ⟨listed, written, posted⟩ := @invoices_listed [recipientDocument acceptedSignal]
  have made := invoice_builds documents listed
  have built : buildPeppolMessage (plainText invoiceRoot) sender remoteParty invoiceArguments "" invoiceDraws
      freshReferences = .ok (invoiceMessage documents) invoiceReferences := by
    rw [buildPeppolMessage_made invoiceArguments_args]
    exact made
  obtain ⟨request, requested⟩ : ∃ request, requestData (invoiceMessage documents) invoiceDraws = .ok request :=
    ⟨_, rfl⟩
  let opened := newReceivingExchange receiver RecordedExchange.answerReferences
  have deliverable : ∀ args, peppolBuilderArgs invoiceArguments "" = .ok args →
      Deliverable (contextOf opened none (invoicePolicy documents)) sender remoteParty args invoiceDraws
        (plainText invoiceRoot) invoiceReferences invoiceAttachment.1 invoiceAttachment.2 "Invoice" invoiceRoot := by
    intro args chosen
    obtain rfl := Except.ok.inj (invoiceArguments_args.symm.trans chosen)
    exact invoice_deliverable documents none listed written
  have services : acceptRecipient (contextOf opened none (invoicePolicy documents)) (strip invoiceArguments.recipient) =
      .ok () := rfl
  have answering : Answering opened invoiceReferences invoiceAttachment.2 RecordedExchange.answerTime :=
    invoice_answering documents
  have faithful : Faithful opened (holding sender remoteParty invoiceReferences (some (invoiceMessage documents)))
      (request.1, request.2) none (invoicePolicy documents) RecordedExchange.answerTime := by
    obtain ⟨transported, carried, answered⟩ := invoice_faithful acceptedSignal none request fun message parsed =>
      invoice_acknowledged documents listed written posted parsed
    exact ⟨transported, carried, answered⟩
  have trimmed : strip (invoiceMessage documents).messageId = (invoiceMessage documents).messageId := by decide
  -- The hypotheses say the policy only where it stands in for the default, so it is given.
  obtain ⟨receiving, received, headers, data, receipt, rest⟩ := @peppol_round_trip (undoing documents)
    (plainText invoiceRoot) request.2 sender receiver remoteParty invoiceArguments "" invoiceDraws freshReferences
    invoiceReferences RecordedExchange.answerReferences (invoiceMessage documents) request.1 none
    (some (invoicePolicy documents)) RecordedExchange.answerTime invoiceAttachment.1 invoiceAttachment.2 "Invoice"
    invoiceRoot (fun _ => rfl) (fun _ => List.cons_ne_nil _ _) (fun _ => ⟨_, rfl⟩) built deliverable services
    answering faithful trimmed
  exact ⟨invoiceMessage documents, invoiceReferences, request, receiving, received, headers, data, receipt, built,
    requested, rest⟩

end Invoices

end PeppolMessages
