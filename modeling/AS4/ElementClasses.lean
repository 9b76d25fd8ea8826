import AS4.RecordLaws
import AS4.RecordRoundTrips
import AS4.RecordedExchange

/-!
The element classes of the library, each with its codec: an instance that is written
and read again comes back in every field, its times cut to whole milliseconds,
just where nothing it requires is missing.
-/

namespace ElementClasses
open ElementTree ElementCodec ElementCodec.Codec FallibleSteps PythonData AS4Libraries SignatureModel EncryptionModel
  MessagingModel EnvelopeModel BusinessDocument RecordLaws RoundTrips RecordRoundTrips RecordedExchange

section KeyData
variable {α : Type} {c : Codec α} {tag : QName} {name : String}

/-- `Singular[T] | None` without a default: the child has to be there. -/
def given (tag : QName) (name : String) (c : Codec α) : Codec (Option α) :=
  { Codec.optional tag name c with
    validate := fun n =>
      match lookupChildren n tag name with
      | none => missing (clark tag)
      | some (key, children) => (only c.validate key children).map some
    readable := fun value => value ≠ none ∧ ∀ present ∈ value, c.readable present }

theorem given_ok {n : Located} {value : Option α} :
    (given tag name c).validate n = .ok value ↔ (Codec.optional tag name c).validate n = .ok value ∧ value ≠ none := by
  simp only [given, Codec.optional]
  cases lookupChildren n tag name with
  | none =>
      simp only [missing, reduceCtorEq, Except.ok.injEq, false_iff, not_and, not_not]
      exact Eq.symm
  | some found =>
      simp only [map_ok]
      constructor
      · rintro ⟨child, read, rfl⟩
        exact ⟨⟨child, read, rfl⟩, by simp⟩
      · rintro ⟨read, -⟩
        exact read

theorem given_lawful (law : c.Lawful) (different : QName.plain name ≠ tag) : (given tag name c).Lawful :=
  let same := optional_lawful law different
  { tagged := same.tagged
    named := same.named
    textless := same.textless
    closed := same.closed
    seen := same.seen
    settled := same.settled
    refuses := fun _ _ _ _ wanted => by simp [given, Codec.optional] at wanted
    apart := same.apart
    untexted := same.untexted
    rereads := by
      intro value admitted n shown
      obtain ⟨readable, rereads⟩ :=
        same.rereads value admitted n ⟨⟨shown.attributes, shown.text⟩, shown.children, shown.content⟩
      have kept : ∀ value', (Codec.optional tag name c).validate n = .ok value' → (value ≠ none ↔ value' ≠ none) := by
        intro value' read
        cases rereads value' read <;> simp
      constructor
      · constructor
        · rintro ⟨there, legible⟩
          obtain ⟨value', read⟩ := readable.mp legible
          exact ⟨value', given_ok.mpr ⟨read, (kept value' read).mp there⟩⟩
        · rintro ⟨value', read⟩
          obtain ⟨read, there⟩ := given_ok.mp read
          exact ⟨(kept value' read).mpr there, readable.mpr ⟨value', read⟩⟩
      · intro value' read
        exact rereads value' (given_ok.mp read).1 }

def givenTrip (trip : RoundTrip c) : RoundTrip (given tag name c) where
  tidy value := ∀ present ∈ value, trip.tidy present
  plain value := ∀ present ∈ value, trip.plain present
  filled value := value ≠ none ∧ ∀ present ∈ value, trip.filled present
  back := Option.Rel trip.back
  readable tidy plain :=
    and_congr Iff.rfl ((trip.optional : RoundTrip (Codec.optional tag name c)).readable tidy plain)
  rereads tidy plain filled read :=
    (trip.optional : RoundTrip (Codec.optional tag name c)).rereads tidy plain filled.2 read

structure DSAKeyValue where
  p : Option BinaryText
  q : Option BinaryText := none
  g : Option BinaryText := none
  y : Option BinaryText := none
  j : Option BinaryText := none
  seed : Option BinaryText := none
  pgenCounter : Option BinaryText := none

def DSAKeyValue.codec : Codec DSAKeyValue :=
  record
    (pair (given (ds "P") "p" BinaryText.codec)
      (pair (Codec.optional (ds "Q") "q" BinaryText.codec)
        (pair (Codec.optional (ds "G") "g" BinaryText.codec)
          (pair (Codec.optional (ds "Y") "y" BinaryText.codec)
            (pair (Codec.optional (ds "J") "j" BinaryText.codec)
              (pair (Codec.optional (ds "Seed") "seed" BinaryText.codec)
                (Codec.optional (ds "PgenCounter") "pgen_counter" BinaryText.codec)))))))
    (fun (p, q, g, y, j, seed, pgenCounter) => ⟨p, q, g, y, j, seed, pgenCounter⟩)
    (fun key => (key.p, key.q, key.g, key.y, key.j, key.seed, key.pgenCounter))

theorem DSAKeyValue.lawful : DSAKeyValue.codec.Lawful :=
  record_lawful (pair_checked rfl (given_lawful BinaryText.lawful (by decide))
      (pair_checked rfl (optional_lawful BinaryText.lawful (by decide))
        (pair_checked rfl (optional_lawful BinaryText.lawful (by decide))
          (pair_checked rfl (optional_lawful BinaryText.lawful (by decide))
            (pair_checked rfl (optional_lawful BinaryText.lawful (by decide))
              (pair_checked rfl (optional_lawful BinaryText.lawful (by decide))
                (optional_lawful BinaryText.lawful (by decide)))))))) fun _ => rfl

def DSAKeyValue.trip : RoundTrip DSAKeyValue.codec :=
  .record (.pair (givenTrip BinaryText.trip)
      (.pair (.optional BinaryText.trip)
        (.pair (.optional BinaryText.trip)
          (.pair (.optional BinaryText.trip)
            (.pair (.optional BinaryText.trip)
              (.pair (.optional BinaryText.trip) (.optional BinaryText.trip)))))))

structure RSAKeyValue where
  modulus : BinaryText
  exponent : BinaryText

def RSAKeyValue.codec : Codec RSAKeyValue :=
  record
    (pair (Codec.singular (ds "Modulus") "modulus" BinaryText.codec)
      (Codec.singular (ds "Exponent") "exponent" BinaryText.codec))
    (fun (modulus, exponent) => ⟨modulus, exponent⟩) (fun key => (key.modulus, key.exponent))

theorem RSAKeyValue.lawful : RSAKeyValue.codec.Lawful :=
  record_lawful (pair_checked rfl (singular_lawful BinaryText.lawful (by decide))
      (singular_lawful BinaryText.lawful (by decide))) fun _ => rfl

def RSAKeyValue.trip : RoundTrip RSAKeyValue.codec :=
  .record (.pair (.singular BinaryText.trip) (.singular BinaryText.trip))

/-- `bytes`, which are the UTF-8 form of what is read and written as `str` of them. -/
def plainBytes : Scalar Bytes := ⟨fun s => .ok s.toUTF8.data.toList, bytesStr, "Input should be a valid bytes", []⟩

end KeyData

/-- An element class: its instances, and how they are read and written. -/
structure ElementModel where
  {Instance : Type}
  codec : Codec Instance
  lawful : codec.Lawful
  trip : RoundTrip codec

/-- A class whose one field is its text. -/
def textModel (name : String) : ElementModel := ⟨stringText name, requiredText_lawful .., .requiredText strings⟩

def timeModel [Libraries] (name : String) : ElementModel :=
  ⟨requiredText datetimeScalar name, requiredText_lawful .., .requiredText times⟩

def numberModel [Libraries] (name : String) : ElementModel :=
  ⟨requiredText intScalar name, requiredText_lawful .., .requiredText numbers⟩

def binaryModel : ElementModel := ⟨BinaryText.codec, BinaryText.lawful, BinaryText.trip⟩

/-- The classes under `as4/models`, package by package. -/
inductive ElementClass where
  | headerVersion | identifier | sender | receiver | standard | typeVersion | instanceIdentifier
  | sbdhType | creationDateAndTime | documentIdentification | scopeIdentifier | scope | businessScope
  | standardBusinessDocumentHeader | standardBusinessDocument
  | xencReference | referenceList | mgf | keySize | oaepParams | encryptionMethod | xencTransforms
  | cipherReference | cipherValue | cipherData | encryptionProperty | encryptionProperties
  | encryptedType | carriedKeyName | encryptedKey
  | binarySecurityToken | wsseReference | securityTokenReference | security
  | messagePartNRInformation | nonRepudiationInformation
  | description | errorDetail | timestamp | messageId | refToMessageId | messageInfo | pullRequest
  | receipt | error | signalMessage | agreementRef | partyId | role | partyFrom | partyTo | partyInfo
  | property | service | action | conversationId | collaborationInfo | messageProperties | schema
  | partProperties | partInfo | payloadInfo | userMessage | messaging
  | digestMethod | digestValue | dsigReference | canonicalizationMethod | hmacOutputLength
  | signatureMethod | signedInfo | object | signatureValue | signature | cryptoBinary | dsaKeyValue
  | rsaKeyValue | keyValue | keyName | retrievalMethod | x509IssuerName | x509SerialNumber
  | x509IssuerSerial | x509SKI | x509SubjectName | x509Certificate | x509CRL | x509Data | pgpData
  | spkiData | mgmtData | keyInfo | transform | transforms
  | body | envelope | header
  deriving DecidableEq, Repr

def ElementClass.model [Libraries] : ElementClass → ElementModel
  | .headerVersion => textModel "value"
  | .identifier => ⟨Identifier.codec, Identifier.lawful, Identifier.trip⟩
  | .sender => ⟨Participant.codec, Participant.lawful, Participant.trip⟩
  | .receiver => ⟨Participant.codec, Participant.lawful, Participant.trip⟩
  | .standard => textModel "value"
  | .typeVersion => textModel "value"
  | .instanceIdentifier => textModel "value"
  | .sbdhType => textModel "value"
  | .creationDateAndTime => timeModel "value"
  | .documentIdentification => ⟨DocumentIdentification.codec, DocumentIdentification.lawful, DocumentIdentification.trip⟩
  | .scopeIdentifier => textModel "value"
  | .scope => ⟨Scope.codec, Scope.lawful, Scope.trip⟩
  | .businessScope => ⟨BusinessScope.codec, BusinessScope.lawful, BusinessScope.trip⟩
  | .standardBusinessDocumentHeader => ⟨StandardBusinessDocumentHeader.codec, StandardBusinessDocumentHeader.lawful, StandardBusinessDocumentHeader.trip⟩
  | .standardBusinessDocument => ⟨StandardBusinessDocument.codec, StandardBusinessDocument.lawful, StandardBusinessDocument.trip⟩
  | .xencReference => ⟨XencReference.codec, XencReference.lawful, XencReference.trip⟩
  | .referenceList => ⟨ReferenceList.codec, ReferenceList.lawful, ReferenceList.trip⟩
  | .mgf => ⟨MGF.codec, MGF.lawful, MGF.trip⟩
  | .keySize => numberModel "value"
  | .oaepParams => ⟨requiredText plainBytes "value", requiredText_lawful .., .leftOut _⟩
  | .encryptionMethod => ⟨EncryptionMethod.codec, EncryptionMethod.lawful, EncryptionMethod.trip⟩
  | .xencTransforms => ⟨XencTransforms.codec, XencTransforms.lawful, XencTransforms.trip⟩
  | .cipherReference => ⟨CipherReference.codec, CipherReference.lawful, CipherReference.trip⟩
  | .cipherValue => ⟨CipherValue.codec, CipherValue.lawful, CipherValue.trip⟩
  | .cipherData => ⟨CipherData.codec, CipherData.lawful, CipherData.trip⟩
  | .encryptionProperty => ⟨EncryptionProperty.codec, EncryptionProperty.lawful, EncryptionProperty.trip⟩
  | .encryptionProperties => ⟨EncryptionProperties.codec, EncryptionProperties.lawful, EncryptionProperties.trip⟩
  | .encryptedType => ⟨EncryptedType.codec, EncryptedType.lawful, EncryptedType.trip⟩
  | .carriedKeyName => ⟨CarriedKeyName.codec, CarriedKeyName.lawful, CarriedKeyName.trip⟩
  | .encryptedKey => ⟨EncryptedKey.codec, EncryptedKey.lawful, EncryptedKey.trip⟩
  | .binarySecurityToken => ⟨BinarySecurityToken.codec, BinarySecurityToken.lawful, BinarySecurityToken.trip⟩
  | .wsseReference => ⟨WsseReference.codec, WsseReference.lawful, WsseReference.trip⟩
  | .securityTokenReference => ⟨SecurityTokenReference.codec, SecurityTokenReference.lawful, SecurityTokenReference.trip⟩
  | .security => ⟨Security.codec, Security.lawful, Security.trip⟩
  | .messagePartNRInformation => ⟨MessagePartNRInformation.codec, MessagePartNRInformation.lawful, MessagePartNRInformation.trip⟩
  | .nonRepudiationInformation => ⟨NonRepudiationInformation.codec, NonRepudiationInformation.lawful, NonRepudiationInformation.trip⟩
  | .description => ⟨Description.codec, Description.lawful, Description.trip⟩
  | .errorDetail => textModel "value"
  | .timestamp => timeModel "value"
  | .messageId => textModel "value"
  | .refToMessageId => textModel "value"
  | .messageInfo => ⟨MessageInfo.codec, MessageInfo.lawful, MessageInfo.trip⟩
  | .pullRequest => ⟨PullRequest.codec, PullRequest.lawful, PullRequest.trip⟩
  | .receipt => ⟨Receipt.codec, Receipt.lawful, Receipt.trip⟩
  | .error => ⟨Error.codec, Error.lawful, Error.trip⟩
  | .signalMessage => ⟨SignalMessage.codec, SignalMessage.lawful, SignalMessage.trip⟩
  | .agreementRef => ⟨AgreementRef.codec, AgreementRef.lawful, AgreementRef.trip⟩
  | .partyId => ⟨PartyId.codec, PartyId.lawful, PartyId.trip⟩
  | .role => textModel "value"
  | .partyFrom => ⟨Party.codec, Party.lawful, Party.trip⟩
  | .partyTo => ⟨Party.codec, Party.lawful, Party.trip⟩
  | .partyInfo => ⟨PartyInfo.codec, PartyInfo.lawful, PartyInfo.trip⟩
  | .property => ⟨Property.codec, Property.lawful, Property.trip⟩
  | .service => ⟨Service.codec, Service.lawful, Service.trip⟩
  | .action => textModel "value"
  | .conversationId => textModel "value"
  | .collaborationInfo => ⟨CollaborationInfo.codec, CollaborationInfo.lawful, CollaborationInfo.trip⟩
  | .messageProperties => ⟨MessageProperties.codec, MessageProperties.lawful, MessageProperties.trip⟩
  | .schema => ⟨Schema.codec, Schema.lawful, Schema.trip⟩
  | .partProperties => ⟨PartProperties.codec, PartProperties.lawful, PartProperties.trip⟩
  | .partInfo => ⟨PartInfo.codec, PartInfo.lawful, PartInfo.trip⟩
  | .payloadInfo => ⟨PayloadInfo.codec, PayloadInfo.lawful, PayloadInfo.trip⟩
  | .userMessage => ⟨UserMessage.codec, UserMessage.lawful, UserMessage.trip⟩
  | .messaging => ⟨Messaging.codec, Messaging.lawful, Messaging.trip⟩
  | .digestMethod => ⟨DigestMethod.codec, DigestMethod.lawful, DigestMethod.trip⟩
  | .digestValue => ⟨DigestValue.codec, DigestValue.lawful, DigestValue.trip⟩
  | .dsigReference => ⟨DsigReference.codec, DsigReference.lawful, DsigReference.trip⟩
  | .canonicalizationMethod => ⟨CanonicalizationMethod.codec, CanonicalizationMethod.lawful, CanonicalizationMethod.trip⟩
  | .hmacOutputLength => textModel "text"
  | .signatureMethod => ⟨SignatureMethod.codec, SignatureMethod.lawful, SignatureMethod.trip⟩
  | .signedInfo => ⟨SignedInfo.codec, SignedInfo.lawful, SignedInfo.trip⟩
  | .object => ⟨SignatureObject.codec, SignatureObject.lawful, SignatureObject.trip⟩
  | .signatureValue => ⟨SignatureValue.codec, SignatureValue.lawful, SignatureValue.trip⟩
  | .signature => ⟨Signature.codec, Signature.lawful, Signature.trip⟩
  | .cryptoBinary => binaryModel
  | .dsaKeyValue => ⟨DSAKeyValue.codec, DSAKeyValue.lawful, DSAKeyValue.trip⟩
  | .rsaKeyValue => ⟨RSAKeyValue.codec, RSAKeyValue.lawful, RSAKeyValue.trip⟩
  | .keyValue => ⟨KeyValue.codec, KeyValue.lawful, KeyValue.trip⟩
  | .keyName => ⟨KeyName.codec, KeyName.lawful, KeyName.trip⟩
  | .retrievalMethod => ⟨RetrievalMethod.codec, RetrievalMethod.lawful, RetrievalMethod.trip⟩
  | .x509IssuerName => textModel "text"
  | .x509SerialNumber => numberModel "text"
  | .x509IssuerSerial => ⟨X509IssuerSerial.codec, X509IssuerSerial.lawful, X509IssuerSerial.trip⟩
  | .x509SKI => binaryModel
  | .x509SubjectName => textModel "text"
  | .x509Certificate => binaryModel
  | .x509CRL => binaryModel
  | .x509Data => ⟨X509Data.codec, X509Data.lawful, X509Data.trip⟩
  | .pgpData => ⟨PGPData.codec, PGPData.lawful, PGPData.trip⟩
  | .spkiData => ⟨SPKIData.codec, SPKIData.lawful, SPKIData.trip⟩
  | .mgmtData => ⟨MgmtData.codec, MgmtData.lawful, MgmtData.trip⟩
  | .keyInfo => ⟨KeyInfo.codec, KeyInfo.lawful, KeyInfo.trip⟩
  | .transform => ⟨Transform.codec, Transform.lawful, Transform.trip⟩
  | .transforms => ⟨Transforms.codec, Transforms.lawful, Transforms.trip⟩
  | .body => ⟨Body.codec, Body.lawful, Body.trip⟩
  | .envelope => ⟨Envelope.codec, Envelope.lawful, Envelope.trip⟩
  | .header => ⟨Header.codec, Header.lawful, Header.trip⟩

section Classes
variable [Libraries]

end Classes

/-- The recorded times, printed without what is below a millisecond. -/
@[reducible] def rounding : Libraries :=
  { recorded [] with
    isoformat := fun time => (timestamps.lookup (wholeMilliseconds time).microseconds).getD "" }

/-- A time between two milliseconds. -/
def finelyTimed : MessageInfo := { timestamp := ⟨1788726620821456⟩, messageId := "1@example.com" }

theorem finelyTimed_tidy :
    let _ := rounding
    MessageInfo.trip.tidy finelyTimed ∧ MessageInfo.trip.plain finelyTimed ∧ MessageInfo.trip.filled finelyTimed := by
  let _ := rounding
  have timed : ReadsPrinted datetimeScalar finelyTimed.timestamp (wholeMilliseconds finelyTimed.timestamp) :=
    ⟨by decide, by decide +kernel, rfl⟩
  have named : finelyTimed.messageId ≠ "" ∧ strip finelyTimed.messageId = finelyTimed.messageId :=
    ⟨by decide, by decide +kernel⟩
  exact ⟨⟨timed, named, by rintro _ ⟨⟩⟩, ⟨trivial, trivial, by rintro _ ⟨⟩⟩, ⟨trivial, trivial, by rintro _ ⟨⟩⟩⟩

end ElementClasses
