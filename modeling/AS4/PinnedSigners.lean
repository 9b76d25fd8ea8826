import AS4.CompletedExchanges

/-!
Trust in signers by the certificates themselves. A signer is looked up by the fingerprint
of the certificate it sent, and what is trusted is the certificate configured, not the one
sent. Along a run of a receiving exchange, the access point it records is therefore one
of those configured, however many messages came, and in whatever order it was stored,
restored and sent requests.
-/

namespace PinnedSigners
open ElementTree ElementCodec ElementCodec.Codec FallibleSteps PythonData AS4Libraries AS4Errors SignatureModel
  MessagingModel EnvelopeModel Verification MessageParsing AcceptedMessage StoppedParsing Exchange StateMachine
  MessageBuilding CertifiedAccessPoint ReceivingRuns

section Tables
variable {α κ : Type} [DecidableEq κ]

/-- In a dictionary of items by their keys, the last of a key stays. -/
theorem get_foldl_set (key : α → κ) (items : List α) (dict : Dict κ α) (wanted : κ) :
    Dict.get (items.foldl (fun entries item => Dict.set (key item) item entries) dict) wanted =
      (items.reverse.find? fun item => decide (key item = wanted)).or (Dict.get dict wanted) := by
  -- What is set first is what the later ones are set over, so the dictionary is generalised.
  induction items generalizing dict with
  | nil => simp
  | cons item rest ih =>
      rw [List.foldl_cons, ih, get_set, List.reverse_cons, List.find?_append, Option.or_assoc]
      congr 1
      by_cases same : key item = wanted
      · simp [same]
      · simp [same, Ne.symm same]

end Tables

section Pins
variable [Libraries]

/-- `certificate.fingerprint(FINGERPRINT_ALGORITHM)` -/
def fingerprint (certificate : Certificate) : Bytes := Libraries.digest .sha256 certificate.der

/-- The certificates by their fingerprints. -/
def configured (certificates : List Certificate) : Dict Bytes Certificate :=
  certificates.foldl (fun entries certificate => Dict.set (fingerprint certificate) certificate entries) []

/-- The resolver `pinned_certificates` returns. -/
def resolvePinned (certificates : List Certificate) (_ : Party) (embedded : Option Certificate) :
    Except PyError Certificate :=
  match embedded with
  | none => .error .untrustedSigner
  | some certificate =>
      match Dict.get (configured certificates) (fingerprint certificate) with
      | none => .error .untrustedSigner
      | some pinned => .ok pinned

/-- `pinned_certificates` -/
def pinnedCertificates (certificates : List Certificate) :
    Except PyError (Party → Option Certificate → Except PyError Certificate) :=
  if certificates = [] then .error (.valueError "pinned_certificates requires at least one certificate")
  else .ok (resolvePinned certificates)

/-- The certificate an embedded one stands for: the last of those with its fingerprint. -/
def Pinned (certificates : List Certificate) (embedded pinned : Certificate) : Prop :=
  (certificates.reverse.find? fun certificate => decide (fingerprint certificate = fingerprint embedded)) = some pinned

theorem resolvePinned_ok {certificates : List Certificate} {partyFrom : Party} {embedded : Option Certificate}
    {pinned : Certificate} : resolvePinned certificates partyFrom embedded = .ok pinned ↔
      ∃ certificate, embedded = some certificate ∧ Pinned certificates certificate pinned := by
  have found : ∀ certificate, Dict.get (configured certificates) (fingerprint certificate) =
      certificates.reverse.find? fun other => decide (fingerprint other = fingerprint certificate) := by
    intro certificate
    have nothing : Dict.get ([] : Dict Bytes Certificate) (fingerprint certificate) = none := rfl
    rw [configured, get_foldl_set fingerprint, nothing, Option.or_none]
  cases embedded with
  | none => simp [resolvePinned]
  | some certificate =>
      simp only [resolvePinned, found, Pinned, Option.some.injEq, exists_eq_left']
      cases certificates.reverse.find? fun other => decide (fingerprint other = fingerprint certificate) <;> simp

theorem pinnedCertificates_ok {certificates : List Certificate} {resolver : Party → Option Certificate → Except PyError Certificate}
    (built : pinnedCertificates certificates = .ok resolver) : resolver = resolvePinned certificates := by
  unfold pinnedCertificates at built
  split at built
  · simp at built
  · exact (Except.ok.inj built).symm

namespace Pinned
variable {certificates : List Certificate} {embedded pinned : Certificate}

theorem mem (stands : Pinned certificates embedded pinned) : pinned ∈ certificates :=
  List.mem_reverse.mp (List.mem_of_find?_eq_some stands)

theorem alike (stands : Pinned certificates embedded pinned) : fingerprint pinned = fingerprint embedded := by
  have same := List.find?_some (show certificates.reverse.find? _ = some pinned from stands)
  exact of_decide_eq_true same

end Pinned

/-- Where no configured certificate shares a fingerprint with another certificate, what is
trusted is the certificate sent, and just the configured ones are. -/
theorem pinned_iff_same {certificates : List Certificate} {embedded pinned : Certificate}
    (apart : ∀ certificate ∈ certificates, fingerprint certificate = fingerprint embedded → certificate = embedded) :
    Pinned certificates embedded pinned ↔ pinned = embedded ∧ embedded ∈ certificates := by
  constructor
  · intro stands
    have same := apart pinned stands.mem stands.alike
    exact ⟨same, same ▸ stands.mem⟩
  · rintro ⟨rfl, member⟩
    unfold Pinned
    cases found : certificates.reverse.find? fun certificate => decide (fingerprint certificate = fingerprint pinned) with
    | none =>
        have missing := List.find?_eq_none.mp found pinned (List.mem_reverse.mpr member)
        simp at missing
    | some certificate =>
        have stands : Pinned certificates pinned certificate := found
        rw [apart certificate stands.mem stands.alike]

end Pins

section Provenance
variable [Libraries] {resolver : Party → Option Certificate → Except PyError Certificate}

/-- A call names an access point: it brings a message whose sender it is. -/
def Names (event : ReceivingEvent) (exchange : AS4ReceivingExchange) (party : AS4ExternalParty) : Prop :=
  ∃ message now, arrives exchange event = some (message, now) ∧ message.getRemoteParty = .ok party

theorem restore_keeps_party (localParty : AS4InternalParty) (exchange : AS4ReceivingExchange) :
    (receivingStep (.restore localParty) exchange).remoteParty = exchange.remoteParty := by
  simp only [receivingStep]
  cases restored : restoreReceiving exchange localParty with
  | error raised => rfl
  | ok result =>
      obtain ⟨-, message, receipt, -, -, rfl⟩ := restoreReceiving_ok.mp restored
      rfl

/-- An access point that is recorded was so before, or the call names it. -/
theorem receivingStep_names (event : ReceivingEvent) (exchange : AS4ReceivingExchange) (party : AS4ExternalParty)
    (recorded : (receivingStep event exchange).remoteParty = some party) :
    exchange.remoteParty = some party ∨ Names event exchange party := by
  -- Only a message that arrives changes the remote party, and it may leave it as it was.
  cases arrived : arrives exchange event with
  | none =>
      left
      rcases receivingStep_silent arrived with unchanged | ⟨localParty, rfl⟩
      · rwa [unchanged] at recorded
      · rwa [restore_keeps_party] at recorded
  | some call =>
      obtain ⟨message, now⟩ := call
      rw [receivingStep_arrives arrived] at recorded
      cases taken : receiveMessage exchange message now with
      | error raised => exact .inl (by simpa [taken, Except.toOption] using recorded)
      | ok received =>
          have recorded : received.remoteParty = some party := by simpa [taken, Except.toOption] using recorded
          obtain ⟨-, -, -, known⟩ := receiveMessage_ok taken
          rcases known with ⟨other, named, same⟩ | ⟨-, kept⟩
          · obtain rfl : other = party := Option.some.inj (same.symm.trans recorded)
            exact .inr ⟨message, now, arrived, named⟩
          · exact .inl (kept.symm.trans recorded)

/-- The messages a call brings were read under this resolver of signers. -/
def ReadUnder (resolver : Party → Option Certificate → Except PyError Certificate) : ReceivingEvent → Prop
  | .receive _ _ _ policy _ => policy.signerResolver = resolver
  | .receiveMessage message _ => ∃ payload context, context.securityPolicy.signerResolver = resolver ∧
      parseMessage payload context = .ok message
  | .restore _ => True

theorem arrives_read {event : ReceivingEvent} {exchange : AS4ReceivingExchange} {message : AS4Message} {now : Datetime}
    (under : ReadUnder resolver event) (arrived : arrives exchange event = some (message, now)) :
    ∃ payload context, context.securityPolicy.signerResolver = resolver ∧ parseMessage payload context = .ok message := by
  cases event with
  | receive requestHeaders requestBody acceptParticipant policy time =>
      let context : AS4ParseContext :=
        { localParty := exchange.localParty, acceptParticipant := acceptParticipant, securityPolicy := policy }
      obtain ⟨other, parsed, same⟩ := Option.map_eq_some_iff.mp arrived
      obtain ⟨rfl, rfl⟩ := Prod.mk.inj same
      refine ⟨payloadFromRequest requestHeaders requestBody, context, under, ?_⟩
      cases read : parseMessage (payloadFromRequest requestHeaders requestBody) context with
      | error raised => simp [context, read, Except.toOption] at parsed
      | ok message => simpa [context, read, Except.toOption] using parsed
  | receiveMessage other time =>
      obtain ⟨rfl, rfl⟩ := Prod.mk.inj (Option.some.inj arrived)
      exact under
  | restore localParty => simp [arrives] at arrived

/-- The access point signed the message: the certificate trusted for the one the message
carries is its own, and verifies the signature. -/
def SignedBy (resolver : Party → Option Certificate → Except PyError Certificate) (message : AS4Message)
    (party : AS4ExternalParty) : Prop :=
  ∃ envelope signature token partyFrom embedded, message.soapEnvelope = some envelope ∧
    envelope.header.security.signature = some signature ∧
      signatureToken envelope.header.security signature = .ok token ∧ token.x509Certificate = .ok embedded ∧
        party.identity = AS4PartyIdentity.fromParty partyFrom ∧
          resolver partyFrom (some embedded) = .ok party.credentials.certificate ∧
            verify signature party.credentials.certificate = .ok ()

/-- The sender of a message that was read is the signer of it. -/
theorem parsed_signedBy {payload : Bytes} {context : AS4ParseContext} {message : AS4Message} {party : AS4ExternalParty}
    (parsed : parseMessage payload context = .ok message) (named : message.getRemoteParty = .ok party) :
    SignedBy context.securityPolicy.signerResolver message party := by
  obtain ⟨signer, envelope, userMessage, carries, read, identity⟩ := getRemoteParty_ok.mp named
  obtain ⟨envelope', signature, index, carries', signed, verified⟩ := parseMessage_signerVerified parsed _ signer
  obtain rfl : envelope = envelope' := Option.some.inj (carries.symm.trans carries')
  obtain ⟨token, userMessage', embedded, found, read', loaded, resolved, verifies, -⟩ := verifySignature_ok.mp verified
  obtain rfl : userMessage = userMessage' := Except.ok.inj (read.symm.trans read')
  have trusted := mapError_ok.mp resolved
  exact ⟨envelope, signature, token, _, embedded, carries, signed, found, loaded, identity, trusted, verifies⟩

/-- Along a run whose messages are all read under one resolver, the access point recorded
is the signer of a message that came. -/
theorem recorded_signed {localParty : AS4InternalParty} {identifiers : ReceiptVerification.AS4References}
    {events : List ReceivingEvent} (under : ∀ event ∈ events, ReadUnder resolver event) {party : AS4ExternalParty}
    (recorded : (run receivingStep (newReceivingExchange localParty identifiers) events).remoteParty = some party) :
    ∃ earlier event later message now, events = earlier ++ event :: later ∧
      arrives (run receivingStep (newReceivingExchange localParty identifiers) earlier) event = some (message, now) ∧
        message.getRemoteParty = .ok party ∧ SignedBy resolver message party := by
  -- A new exchange knows no remote party, so one that is recorded came with a message.
  have shown := @run_source _ _ receivingStep _ (fun exchange party => exchange.remoteParty = some party) Names
    receivingStep_names _ _ _ recorded
  rcases shown with initially | ⟨earlier, event, later, split, message, now, arrived, named⟩
  · simp [newReceivingExchange] at initially
  · have member : event ∈ events := by simp [split]
    obtain ⟨payload, context, same, parsed⟩ := arrives_read (under event member) arrived
    exact ⟨earlier, event, later, message, now, split, arrived, named, same ▸ parsed_signedBy parsed named⟩

end Provenance

section Restoring
open CompletedExchanges

variable [Libraries]

/-- The sender of a message that is read is recorded, and still so once the exchange is
restored. -/
theorem taken_recorded {receiving : AS4ReceivingExchange} {requestHeaders : Dict String String} {requestBody : Bytes}
    {accept : Option (String → Except PyError Unit)} {policy : SecurityPolicy} {now : Datetime} {localParty : AS4InternalParty}
    {message : AS4Message} {party : AS4ExternalParty}
    (forms : ∀ element, ∃ form, Libraries.canonicalForm (.root element) [] = some form)
    (signs : ∀ data, ∃ value, receiving.localParty.credentials.privateKey.sign data = .ok value)
    (read : parseMessage (payloadFromRequest requestHeaders requestBody) (contextOf receiving accept policy) = .ok message)
    (named : message.getRemoteParty = .ok party) :
    (run receivingStep receiving
      [.receive requestHeaders requestBody accept policy now, .restore localParty]).remoteParty = some party := by
  obtain ⟨receipt, -, taken⟩ := @request_taken _ receiving (requestHeaders, requestBody) accept policy now message party
    forms signs read named
  simp only [run, restore_keeps_party]
  simp only [receivingStep, afterReceive, taken]
  rfl

end Restoring

section Invoices
open Serialisation BuiltMessages EnvelopedDocuments BuiltUserMessages AcceptedBuilds CompletedExchanges

/-- The certificates of both access points, that of the sender twice. -/
def invoicePins (documents : List Node) : List (@Certificate (undoing documents)) :=
  letI := undoing documents
  [(invoiceSender documents).credentials.certificate, (invoiceRecipient documents).credentials.certificate,
    (invoiceSender documents).credentials.certificate]

def pinnedPolicy (documents : List Node) : @SecurityPolicy (undoing documents) :=
  letI := undoing documents
  { invoicePolicy documents with signerResolver := resolvePinned (invoicePins documents) }

/-- The invoice arrives, and the exchange is stored and restored. -/
def invoiceEvents (documents : List Node) : List (@ReceivingEvent (undoing documents)) :=
  letI := undoing documents
  [.receive [] [] none (pinnedPolicy documents) RecordedExchange.answerTime, .restore (invoiceRecipient documents)]

theorem pinned_deliverable :
    let documents := exchangeDocuments acceptedSignal
    letI := undoing documents
    Deliverable (contextOf (invoiceReceiving documents) none (pinnedPolicy documents)) (invoiceSender documents)
      (remoteRecipient documents) RecordedExchange.builderArgs invoiceDraws (plainText invoiceRoot) invoiceReferences
      invoiceAttachment.1 invoiceAttachment.2 "Invoice" invoiceRoot := by
  intro documents
  let _ := undoing documents
  obtain ⟨listed, written, -⟩ := @invoices_listed [recipientDocument acceptedSignal]
  have trusting := invoice_deliverable documents none listed written
  have welcomes : Welcomes (contextOf (invoiceReceiving documents) none (pinnedPolicy documents)) (invoiceSender documents) :=
    ⟨fun party _ => rfl, trusting.welcomes.asks⟩
  exact ⟨trusting.stamps, trusting.enciphers, trusting.keyed, trusting.worded, trusting.mapped, trusting.identified,
    trusting.enveloped, welcomes⟩

/-- The invoice is read where the certificate of its sender is pinned. -/
theorem pinned_invoice_read :
    let documents := exchangeDocuments acceptedSignal
    letI := undoing documents
    ∃ message party, parseMessage (payloadFromRequest [] []) (contextOf (invoiceReceiving documents) none
      (pinnedPolicy documents)) = .ok message ∧ message.getRemoteParty = .ok party := by
  intro documents
  let _ := undoing documents
  obtain ⟨listed, -, posted⟩ := @invoices_listed [recipientDocument acceptedSignal]
  have made := invoice_builds documents listed
  have deliverable := pinned_deliverable
  obtain ⟨envelope, envelope', stored, reread, parsed⟩ := built_reads (fun _ => rfl) (fun _ => List.cons_ne_nil _ _)
    deliverable made rfl fun envelope carried => by
      obtain rfl := Option.some.inj carried
      exact posted
  obtain rfl := Option.some.inj stored
  have transported : unpackMessage (payloadFromRequest [] []) =
      .ok (envelopeBytes invoiceEnvelope, (invoiceMessage documents).mimeAttachments) :=
    invoice_transported acceptedSignal ([], [])
  have user := built_user (fun _ => rfl) (fun _ => List.cons_ne_nil _ _) deliverable made rfl
  refine ⟨asReceived (invoiceSender documents) (remoteRecipient documents) RecordedExchange.builderArgs
    (invoiceMessage documents) envelope', _, ?_, remote_read user rfl rfl reread⟩
  simp only [parseMessage, transported, invoiceMessage]
  exact parsed

/-- Its sender is recorded, and stays so. -/
theorem invoice_recorded :
    let documents := exchangeDocuments acceptedSignal
    letI := undoing documents
    ∃ party, (run receivingStep (newReceivingExchange (invoiceRecipient documents) RecordedExchange.answerReferences)
      (invoiceEvents documents)).remoteParty = some party := by
  intro documents
  let _ := undoing documents
  obtain ⟨message, party, read, named⟩ := pinned_invoice_read
  exact ⟨party, taken_recorded (fun _ => ⟨_, rfl⟩) (fun _ => ⟨_, rfl⟩) read named⟩

end Invoices

section Recorded
open AcceptedBuilds CompletedExchanges

variable [Libraries]

/-- A message is signed by the certificate that stands for the one it carries. -/
def PinnedSignature (certificates : List Certificate) (message : AS4Message) (pinned : Certificate) : Prop :=
  ∃ envelope signature token embedded, message.soapEnvelope = some envelope ∧
    envelope.header.security.signature = some signature ∧
      signatureToken envelope.header.security signature = .ok token ∧ token.x509Certificate = .ok embedded ∧
        Pinned certificates embedded pinned ∧ verify signature pinned = .ok ()

/-- Whatever a new receiving exchange is sent by way of pinned certificates, and however
often it is restored: the access point it records has one of the configured certificates,
which signed a message that came from it. -/
theorem recorded_access_point_pinned (certificates : List Certificate)
    {resolver : Party → Option Certificate → Except PyError Certificate}
    (built : pinnedCertificates certificates = .ok resolver) (localParty : AS4InternalParty)
    (identifiers : ReceiptVerification.AS4References) (events : List ReceivingEvent)
    (under : ∀ event ∈ events, ReadUnder resolver event) :
    let after := run receivingStep (newReceivingExchange localParty identifiers)
    ∀ party ∈ (after events).remoteParty, party.credentials.certificate ∈ certificates ∧
      ∃ earlier event later message now, events = earlier ++ event :: later ∧
        arrives (after earlier) event = some (message, now) ∧ message.getRemoteParty = .ok party ∧
          PinnedSignature certificates message party.credentials.certificate := by
  intro after party recorded
  obtain rfl := pinnedCertificates_ok built
  obtain ⟨earlier, event, later, message, now, split, arrived, named, signed⟩ := recorded_signed under recorded
  obtain ⟨envelope, signature, token, partyFrom, embedded, carries, carried, found, loaded, -, resolved, verified⟩ := signed
  obtain ⟨_, ⟨⟩, stands⟩ := resolvePinned_ok.mp resolved
  refine ⟨stands.mem, earlier, event, later, message, now, split, arrived, named, ?_⟩
  exact ⟨envelope, signature, token, embedded, carries, carried, found, loaded, stands, verified⟩

omit [Libraries] in
/-- The sender of the invoice is recorded by the certificate that was pinned. -/
theorem invoice_signer_pinned :
    let documents := exchangeDocuments acceptedSignal
    letI := undoing documents
    let after := run receivingStep (newReceivingExchange (invoiceRecipient documents) RecordedExchange.answerReferences)
    ∃ party, (after (invoiceEvents documents)).remoteParty = some party ∧
      party.credentials.certificate ∈ invoicePins documents ∧ ∃ earlier event later message now,
        invoiceEvents documents = earlier ++ event :: later ∧ arrives (after earlier) event = some (message, now) ∧
          message.getRemoteParty = .ok party ∧ PinnedSignature (invoicePins documents) message party.credentials.certificate := by
  intro documents
  let _ := undoing documents
  obtain ⟨party, recorded⟩ := invoice_recorded
  have under : ∀ event ∈ invoiceEvents documents, ReadUnder (resolvePinned (invoicePins documents)) event := by
    simp [invoiceEvents, ReadUnder, pinnedPolicy]
  have pinned := recorded_access_point_pinned (invoicePins documents) rfl (invoiceRecipient documents)
    RecordedExchange.answerReferences (invoiceEvents documents) under party recorded
  exact ⟨party, recorded, pinned⟩

end Recorded

end PinnedSigners
