import AS4.SignedReadings
import AS4.ReceiptVerification

/-!
A signal that was written and signed is read back by whoever expects its signer.
-/

namespace SignalReadings
open ElementTree ElementCodec ElementCodec.Codec FallibleSteps PythonData AS4Libraries AS4Errors SignatureModel
  MessagingModel EnvelopeModel Verification MessageParsing ReceiptVerification SignalBuilding RecordLaws
  RecordReadings WrittenIdentifiers SignedReadings

variable [Libraries]

section Signals

/-- A written signal, signed by the holder of a certificate over an element that looks
like its messaging header and over another one. -/
structure SignedSignal (envelope : Envelope) (certificate : Certificate) (signal : SignalMessage)
    (token : BinarySecurityToken) (signature : Signature) (messaging body : String × Node) : Prop where
  signed : Signed (Envelope.codec.element (soap12 "Envelope") envelope) envelope.header.security certificate token
    signature [messaging, body] []
  tagged : messaging.2.Tagged (eb3 "Messaging")
  signals : envelope.header.messaging.signalMessages = [signal]

variable {envelope : Envelope} {certificate : Certificate} {signal : SignalMessage} {token : BinarySecurityToken}
  {signature : Signature} {messaging body : String × Node}

/-- What a signature over a messaging header and a body proves to whoever reads the
signal. -/
theorem verifyReceiptSignature_proved {envelope' : Envelope} {document : Node} {index : Dict String Located}
    (indexed : indexElementsById (.root document) = .ok index)
    (proves : Proves envelope'.header.security certificate index signature [messaging, body] [])
    (tagged : messaging.2.Tagged (eb3 "Messaging")) :
    verifyReceiptSignature envelope' (.root document) certificate = .ok () := by
  obtain ⟨carried, ⟨token, names, found, loads⟩, verified, references⟩ := proves
  have embedded : embeddedCertificate envelope'.header.security signature = .ok (some certificate) := by
    have found' : envelope'.header.security.binarySecurityTokens.find?
        (fun other => signatureTokenUri signature == some ("#" ++ other.bstId)) = some token := by
      simpa only [findToken, names, Option.some_beq_some] using found
    simp only [embeddedCertificate, found', loads]
    rfl
  obtain ⟨overElements, overPayloads, listed, first, second⟩ := references
  obtain rfl := List.forall₂_nil_left_iff.mp second
  have each : ∀ reference ∈ overElements, ∃ entry ∈ [messaging, body],
      MatchesElement index entry reference := fun reference member => forall₂_source first member
  have covered : requireMessagingCoverage signature index = .ok () := by
    have covers : "messaging" ∈ signatureCoverage signature index [] := by
      rw [covers_element (by decide)]
      obtain ⟨reference, rest, ⟨n, placed, targeted, here, -⟩, -, rfl⟩ := List.forall₂_cons_left_iff.mp first
      exact ⟨reference, by simp [listed], placed, n, targeted, coverageByTag_messaging.mpr (here ▸ tagged)⟩
    simp [requireMessagingCoverage, covers]
  have checked : FallibleSteps.each (verifyReceiptReference index) signature.signedInfo.references = .ok () := by
    rw [each_ok, listed, List.append_nil]
    intro reference member
    obtain ⟨entry, -, n, -, targeted, -, matched⟩ := each reference member
    simp [verifyReceiptReference, targeted, matched, Except.mapError, bind, Except.bind, pure, Except.pure]
  simp only [verifyReceiptSignature, carried, embedded, requireExpectedSigner, ne_eq, not_true_eq_false, ↓reduceIte,
    verified, indexed, covered, checked, Except.mapError, bind, Except.bind]

/-- A signed signal that can be read is accepted from its signer. -/
theorem SignedSignal.parses {data : Bytes} (placeFree : PlaceFree)
    (whole : SignedSignal envelope certificate signal token signature messaging body)
    (parsed : Libraries.parseXml data = some (Envelope.codec.element (soap12 "Envelope") envelope))
    (admitted : Envelope.codec.admits envelope) (readable : Envelope.codec.readable envelope)
    (named : Named (Envelope.codec.element (soap12 "Envelope") envelope))
    (unique : (identifiers (Envelope.codec.element (soap12 "Envelope") envelope)).Nodup)
    (refers : signal.errors ≠ [] ∨ ∃ reference, signal.messageInfo.refToMessageId = some reference ∧ strip reference ≠ "") :
    ∃ envelope', Envelope.codec.reread (.root (Envelope.codec.element (soap12 "Envelope") envelope)) envelope envelope' ∧
      AS4Receipt.parse data certificate =
        .ok { soapEnvelope := some envelope', originalMessageId := signal.messageInfo.refToMessageId.map strip } := by
  obtain ⟨reads, kept⟩ := rereads_element Envelope.lawful admitted
    (n := .root (Envelope.codec.element (soap12 "Envelope") envelope)) rfl
  obtain ⟨envelope', read⟩ := reads.mp readable
  have reread := kept envelope' read
  refine ⟨envelope', reread, ?_⟩
  obtain ⟨⟨header, -, -, headerRead⟩, -⟩ := Envelope.rereads reread
  obtain ⟨⟨security, -, -, securityRead⟩, _, -, -, messagingRead⟩ := Header.rereads headerRead
  obtain ⟨-, signals, -⟩ := Messaging.rereads messagingRead
  obtain ⟨signal', one⟩ : ∃ signal', envelope'.header.messaging.signalMessages = [signal'] :=
    List.length_eq_one_iff.mp (signals.length_eq.symm.trans (by rw [whole.signals]; rfl))
  rw [whole.signals, one] at signals
  obtain ⟨⟨infoAt, infoRead⟩, -, errorsRead⟩ := SignalMessage.rereads (List.forall₂_cons.mp signals).1.choose_spec
  have refersTo : signal'.messageInfo.refToMessageId = signal.messageInfo.refToMessageId.map strip :=
    (MessageInfo.rereads infoRead).2.2
  obtain ⟨index, indexed⟩ := index_ok_iff.mpr ⟨named, unique⟩
  obtain ⟨signature', proves⟩ := whole.signed.proves placeFree securityRead indexed
  have verified := verifyReceiptSignature_proved indexed proves whole.tagged
  have opened : readSignal data =
      .ok (Envelope.codec.element (soap12 "Envelope") envelope, envelope', some signal') := by
    simp only [readSignal, bind_ok, pure_ok, parseXml_ok, Prod.mk.injEq]
    exact ⟨_, parsed, envelope', by simp [Envelope.modelValidateEtree, read, Except.mapError], some signal',
      by simp [Messaging.signalMessage, one, Messaging.onlyOne], rfl, rfl, rfl⟩
  have referenced : requireReference
      { soapEnvelope := some envelope', originalMessageId := signal'.messageInfo.refToMessageId } = .ok () := by
    have errors : AS4Receipt.errors
        { soapEnvelope := some envelope', originalMessageId := signal'.messageInfo.refToMessageId } = .ok signal'.errors := by
      simp [AS4Receipt.errors, AS4Receipt.signalMessage, Messaging.signalMessage, one, Messaging.onlyOne, bind,
        Except.bind, pure, Except.pure]
    simp only [requireReference, AS4Receipt.error, errors, bind, Except.bind, pure, Except.pure]
    rcases refers with faulty | ⟨reference, given, solid⟩
    · obtain ⟨error, rest, here⟩ := List.exists_cons_of_ne_nil (show signal'.errors ≠ [] by
        rintro none
        rw [none] at errorsRead
        exact faulty (List.forall₂_nil_right_iff.mp errorsRead))
      simp [here]
    · simp [refersTo, given, solid]
  simp only [AS4Receipt.parse, opened, Except.mapError, bind, Except.bind, pure, Except.pure, Option.bind_some,
    referenced]
  simp only [verified, refersTo]

end Signals

end SignalReadings
