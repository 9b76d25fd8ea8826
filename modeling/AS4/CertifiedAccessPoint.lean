import AS4.Exchange
import AS4.StoppedParsing
import AS4.TrustChain

/-!
The security policy of the Peppol profile, and what it says of the access point a
receiving exchange records: its certificate names it, signed the message, and
chains to the network's authorities.
-/

namespace CertifiedAccessPoint
open FallibleSteps PythonData AS4Libraries AS4Errors MessagingModel EnvelopeModel Verification MessageParsing
  AcceptedMessage StoppedParsing Exchange TrustChain

section Policy
variable [Libraries] [X509 Certificate]

/-- `certificate_names_the_sender` -/
def certificateNamesTheSender (resolver : Party → Option Certificate → Except PyError Certificate) (partyFrom : Party)
    (embedded : Option Certificate) : Except PyError Certificate := do
  let certificate ← resolver partyFrom embedded
  if (X509.commonNames certificate).any (· == partyFrom.partyId.value) then return certificate
  else .error .untrustedSigner

def peppolChainDepth : Int := 3

def peppolChain (anchors intermediates : List Certificate) (revoked : Option (Certificate → Bool)) :
    ChainArguments Certificate :=
  { anchors := anchors, intermediates := intermediates, revoked := revoked, maximumDepth := peppolChainDepth }

/-- `peppol_security_policy`, used at a time; without an anchor there is no policy. -/
def peppolSecurityPolicy (anchors intermediates : List Certificate) (revoked : Option (Certificate → Bool)) (now : Int) :
    Except PyError SecurityPolicy :=
  if anchors = [] then .error (.valueError "certificate_chain requires at least one trust anchor")
  else .ok { signerResolver := certificateNamesTheSender fun _ embedded =>
      resolve (peppolChain anchors intermediates revoked) now embedded }

end Policy

section RemoteParty
variable [Libraries] [X509 Certificate]

omit [X509 Certificate] in
/-- A newly constructed receiving exchange. -/
def newReceivingExchange (localParty : AS4InternalParty) (identifiers : ReceiptVerification.AS4References) :
    AS4ReceivingExchange :=
  { localParty := localParty, identifiers := identifiers }

omit [X509 Certificate] in
/-- The exchange after `receive`, which leaves it as it was when it raises. -/
def afterReceive (exchange : AS4ReceivingExchange) (requestHeaders : Dict String String) (requestBody : Bytes)
    (acceptParticipant : Option (String → Except PyError Unit)) (securityPolicy : SecurityPolicy) (answered : Datetime) :
    AS4ReceivingExchange :=
  match receive exchange requestHeaders requestBody acceptParticipant securityPolicy answered with
  | .ok received => received
  | .error _ => exchange

/-- The access point is the subject of its certificate, which verified the signature
of the stored message and chains to an anchor with everything in force. -/
structure Certified (arguments : ChainArguments Certificate) (now : Int) (exchange : AS4ReceivingExchange)
    (party : AS4ExternalParty) : Prop where
  named : party.identity.partyId ∈ X509.commonNames party.credentials.certificate
  signed : ∃ message envelope signature, exchange.message = some message ∧ message.soapEnvelope = some envelope ∧
    envelope.header.security.signature = some signature ∧ verify signature party.credentials.certificate = .ok ()
  chained : ∃ between anchor, Chain arguments party.credentials.certificate between anchor ∧
    (party.credentials.certificate :: between ++ [anchor]).length ≤ 3 ∧
      ∀ certificate ∈ party.credentials.certificate :: between ++ [anchor], isCurrent arguments now certificate = true

omit [X509 Certificate] in
theorem parseMessage_signerVerified {payload : Bytes} {context : AS4ParseContext} {message : AS4Message}
    (parsed : parseMessage payload context = .ok message) : SignerVerified context message := by
  unfold parseMessage at parsed
  split at parsed
  · exact parse_signerVerified parsed
  · obtain rfl := Except.ok.inj parsed
    intro certificate known
    simp at known
  · simp at parsed

omit [X509 Certificate] in
theorem getRemoteParty_ok {message : AS4Message} {party : AS4ExternalParty} :
    message.getRemoteParty = .ok party ↔
      message.signerCertificate = some party.credentials.certificate ∧ ∃ envelope userMessage,
        message.soapEnvelope = some envelope ∧ requireUserMessage envelope = .ok userMessage ∧
          party.identity = AS4PartyIdentity.fromParty userMessage.partyInfo.partyFrom := by
  obtain ⟨identity, ⟨certificate⟩⟩ := party
  unfold AS4Message.getRemoteParty
  split
  · rename_i signer envelope known stored
    simp only [bind_ok, pure_ok, known, stored, Option.some.injEq, AS4ExternalParty.mk.injEq, AS4BaseCredentials.mk.injEq]
    constructor
    · rintro ⟨userMessage, read, rfl, rfl⟩
      exact ⟨rfl, envelope, userMessage, rfl, read, rfl⟩
    · rintro ⟨rfl, _, userMessage, rfl, read, rfl⟩
      exact ⟨userMessage, read, rfl, rfl⟩
  · rename_i incomplete
    simp only [reduceCtorEq, false_iff, not_and, not_exists]
    intro known envelope userMessage stored
    exact absurd stored (incomplete _ envelope known)

omit [X509 Certificate] in
/-- The remote party after a message is the message's, or the one known before. -/
theorem receiveMessage_ok {exchange received : AS4ReceivingExchange} {message : AS4Message} {answered : Datetime}
    (succeeded : receiveMessage exchange message answered = .ok received) :
    ∃ receipt, SignalBuilding.forMessage message exchange.localParty exchange.identifiers answered = .ok receipt ∧
      received = { exchange with
        message := some message
        messageId := message.messageId
        messagingId := message.messagingId
        signedReferences := message.signedReferences
        remoteParty := received.remoteParty
        receipt := some receipt
        state := if message.parseError.isSome then .rejected else .received } ∧
      ((∃ party, message.getRemoteParty = .ok party ∧ received.remoteParty = some party) ∨
        (∃ raised, message.getRemoteParty = .error raised ∧ suppressed raised = true) ∧
          received.remoteParty = exchange.remoteParty) := by
  simp only [receiveMessage, bind_ok, pure_ok] at succeeded
  obtain ⟨remoteParty, settled, receipt, made, rfl⟩ := succeeded
  refine ⟨receipt, made, rfl, ?_⟩
  unfold remotePartyOf at settled
  split at settled
  · rename_i party known
    exact .inl ⟨party, known, (Except.ok.inj settled).symm⟩
  · rename_i raised unknown
    split at settled
    · rename_i quiet
      exact .inr ⟨⟨raised, unknown, quiet⟩, (Except.ok.inj settled).symm⟩
    · simp at settled

/-- Whatever a new receiving exchange is sent, and at whatever stage it refused it:
the remote party it records is certified. -/
theorem recorded_access_point_certified (anchors intermediates : List Certificate)
    (revoked : Option (Certificate → Bool)) (now : Int) (localParty : AS4InternalParty)
    (identifiers : ReceiptVerification.AS4References) (requestHeaders : Dict String String) (requestBody : Bytes)
    (acceptParticipant : Option (String → Except PyError Unit)) (answered : Datetime) :
    match peppolSecurityPolicy anchors intermediates revoked now with
    | .error _ => anchors = []
    | .ok policy =>
        let after := afterReceive (newReceivingExchange localParty identifiers) requestHeaders requestBody
          acceptParticipant policy answered
        ∀ party ∈ after.remoteParty, Certified (peppolChain anchors intermediates revoked) now after party := by
  unfold peppolSecurityPolicy
  split
  · rename_i built
    split at built
    · assumption
    · simp at built
  · rename_i policy built
    split at built
    · simp at built
    obtain rfl := Except.ok.inj built
    intro after
    generalize left : after = received
    subst after
    intro party recorded
    unfold afterReceive at left
    split at left
    · rename_i result succeeded
      obtain rfl : result = received := left
      simp only [receive, bind_ok] at succeeded
      obtain ⟨message, parsed, taken⟩ := succeeded
      obtain ⟨receipt, -, stored, ⟨party', known, same⟩ | ⟨-, same⟩⟩ := receiveMessage_ok taken
      · obtain rfl : party' = party := Option.some.inj (same.symm.trans recorded)
        obtain ⟨signer, envelope, userMessage, carries, read, identity⟩ := getRemoteParty_ok.mp known
        obtain ⟨envelope', signature, index, carries', signed, verified⟩ :=
          parseMessage_signerVerified parsed _ signer
        obtain rfl : envelope = envelope' := Option.some.inj (carries.symm.trans carries')
        obtain ⟨token, userMessage', embedded, -, read', -, resolved, verifies, -⟩ := verifySignature_ok.mp verified
        obtain rfl : userMessage = userMessage' := Except.ok.inj (read.symm.trans read')
        simp only [resolveSigner, mapError_ok, certificateNamesTheSender, bind_ok] at resolved
        obtain ⟨certificate, chained, named⟩ := resolved
        split at named
        · rename_i names
          obtain rfl := pure_ok.mp named
          obtain ⟨-, path, found, current⟩ := resolve_ok.mp chained
          obtain ⟨between, anchor, rfl, chain, -⟩ := pathToAnchor_ok found
          have bounded : ((party'.credentials.certificate :: between ++ [anchor]).length : Int) ≤ 3 := chain.bounded
          refine ⟨?_, ?_, between, anchor, chain, by exact_mod_cast bounded, current⟩
          · rw [identity]
            obtain ⟨name, member, equal⟩ := List.any_eq_true.mp names
            obtain rfl : name = userMessage.partyInfo.partyFrom.partyId.value := eq_of_beq equal
            exact member
          · rw [stored]
            exact ⟨message, envelope, signature, rfl, carries, signed, verifies⟩
        · simp at named
      · rw [same] at recorded
        simp [newReceivingExchange] at recorded
    · obtain rfl := left
      simp [newReceivingExchange] at recorded

end RemoteParty

end CertifiedAccessPoint
