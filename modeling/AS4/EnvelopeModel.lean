import AS4.EncryptionModel
import AS4.MessagingModel

/-!
The security header and the SOAP envelope.
-/

namespace EnvelopeModel
open ElementTree ElementCodec ElementCodec.Codec PythonData AS4Libraries AS4Errors SignatureModel EncryptionModel
  MessagingModel

section Security

structure BinarySecurityToken where
  encodingType : String
  valueType : String
  bstId : String
  value : String

def BinarySecurityToken.codec : Codec BinarySecurityToken :=
  record
    (pair (requiredAttribute .string (plain "EncodingType") "encoding_type")
      (pair (requiredAttribute .string (plain "ValueType") "value_type")
        (pair (requiredAttribute .string (wsu "Id") "bst_id") (stringText "value"))))
    (fun (encodingType, valueType, bstId, value) => ⟨encodingType, valueType, bstId, value⟩)
    (fun token => (token.encodingType, token.valueType, token.bstId, token.value))

def x509V3 : String := "http://docs.oasis-open.org/wss/2004/01/oasis-200401-wss-x509-token-profile-1.0#X509v3"

def BinarySecurityToken.x509Certificate [Libraries] (token : BinarySecurityToken) : Except PyError Certificate :=
  if token.valueType ≠ x509V3 then .error (.unsupportedSecurityTokenType token.valueType)
  else do
    let bytes ← (Base64.b64decode false token.value).mapError .valueError
    loadDerX509Certificate bytes

structure Security where
  binarySecurityTokens : List BinarySecurityToken
  encryptedKey : Option EncryptedKey := none
  encryptedData : Option (List EncryptedType) := none
  signature : Option Signature := none
  mustUnderstand : Bool := true

def Security.codec [Libraries] : Codec Security :=
  record
    (pair (someOf (wsse "BinarySecurityToken") "binary_security_tokens" BinarySecurityToken.codec)
      (pair (optional (enc "EncryptedKey") "encrypted_key" EncryptedKey.codec)
        (pair (optionalMany (enc "EncryptedData") "encrypted_data" EncryptedType.codec)
          (pair (optional (ds "Signature") "signature" Signature.codec)
            (attributeOr boolScalar true (soap12 "mustUnderstand") "must_understand")))))
    (fun (tokens, key, data, signature, mustUnderstand) => ⟨tokens, key, data, signature, mustUnderstand⟩)
    (fun security => (security.binarySecurityTokens, security.encryptedKey, security.encryptedData,
      security.signature, security.mustUnderstand))

def Security.getEncryptedData (security : Security) (encryptedDataId : String) : Option EncryptedType :=
  (security.encryptedData.getD []).find? fun data => data.encryptedTypeId == some encryptedDataId

end Security

section Envelope

structure Header where
  security : Security
  messaging : Messaging

def Header.codec [Libraries] : Codec Header :=
  record
    (pair (singular (wsse "Security") "security" Security.codec)
      (singular (eb3 "Messaging") "messaging" Messaging.codec))
    (fun (security, messaging) => ⟨security, messaging⟩) (fun header => (header.security, header.messaging))

structure Body where
  etreeElement : Option Located := none
  bodyId : Option String := none
  wildcardContent : List Node := []

def Body.codec : Codec Body :=
  record (withWildcard none (pair Codec.etreeElement (optionalAttribute .string (wsu "Id") "body_id")))
    (fun ((element, bodyId), content) => ⟨element, bodyId, content⟩)
    (fun body => ((body.etreeElement, body.bodyId), body.wildcardContent))

structure Envelope where
  etreeElement : Option Located := none
  header : Header
  body : Body

def Envelope.codec [Libraries] : Codec Envelope :=
  record
    (pair Codec.etreeElement
      (pair (singular (soap12 "Header") "header" Header.codec) (singular (soap12 "Body") "body" Body.codec)))
    (fun (element, header, body) => ⟨element, header, body⟩)
    (fun envelope => (envelope.etreeElement, envelope.header, envelope.body))

/-- `Envelope.model_validate_etree` -/
def Envelope.modelValidateEtree [Libraries] (element : Located) : Except PyError Envelope :=
  (Envelope.codec.validate element).mapError .validationError

end Envelope

section Readers
variable [Libraries]

theorem Envelope.reads {n : Located} {envelope : Envelope} (read : Envelope.codec.validate n = .ok envelope) :
    envelope.etreeElement = some n ∧
      (∃ key header, lookupChildren n (soap12 "Header") "header" = some (key, [header]) ∧
        Header.codec.validate header = .ok envelope.header) ∧
      ∃ key body, lookupChildren n (soap12 "Body") "body" = some (key, [body]) ∧
        Body.codec.validate body = .ok envelope.body := by
  unfold Envelope.codec at read
  simp only [record_ok, pair_ok, singular_ok, etreeElement_ok] at read
  obtain ⟨⟨element, header, body⟩, ⟨here, headerRead, bodyRead⟩, rfl⟩ := read
  exact ⟨here, headerRead, bodyRead⟩

theorem Header.reads {n : Located} {header : Header} (read : Header.codec.validate n = .ok header) :
    (∃ key security, lookupChildren n (wsse "Security") "security" = some (key, [security]) ∧
        Security.codec.validate security = .ok header.security) ∧
      ∃ key messaging, lookupChildren n (eb3 "Messaging") "messaging" = some (key, [messaging]) ∧
        Messaging.codec.validate messaging = .ok header.messaging := by
  unfold Header.codec at read
  simp only [record_ok, pair_ok, singular_ok] at read
  obtain ⟨⟨security, messaging⟩, ⟨securityRead, messagingRead⟩, rfl⟩ := read
  exact ⟨securityRead, messagingRead⟩

omit [Libraries] in
theorem Body.reads {n : Located} {body : Body} (read : Body.codec.validate n = .ok body) :
    body.etreeElement = some n := by
  unfold Body.codec at read
  simp only [record_ok, withWildcard_ok, pair_ok, etreeElement_ok] at read
  obtain ⟨⟨⟨element, id⟩, content⟩, ⟨⟨here, -⟩, -⟩, rfl⟩ := read
  exact here

/-- The security header: one token for each token element, and the signature of
the one signature element. -/
theorem Security.reads {n : Located} {security : Security} (read : Security.codec.validate n = .ok security) :
    List.Forall₂ (fun child token => BinarySecurityToken.codec.validate child = .ok token)
        (foundChildren n (wsse "BinarySecurityToken") "binary_security_tokens") security.binarySecurityTokens ∧
      ∀ signature ∈ security.signature, ∃ key child,
        lookupChildren n (ds "Signature") "signature" = some (key, [child]) ∧
          Signature.codec.validate child = .ok signature := by
  unfold Security.codec at read
  simp only [record_ok, pair_ok] at read
  obtain ⟨⟨tokens, key, data, signature, mustUnderstand⟩, ⟨tokensRead, -, -, signatureRead, -⟩, rfl⟩ := read
  refine ⟨someOf_ok tokensRead, ?_⟩
  rintro signature rfl
  exact optional_some.mp signatureRead

theorem Signature.reads {n : Located} {signature : Signature} (read : Signature.codec.validate n = .ok signature) :
    ∃ key info, lookupChildren n (ds "SignedInfo") "signed_info" = some (key, [info]) ∧
      SignedInfo.codec.validate info = .ok signature.signedInfo := by
  unfold Signature.codec at read
  simp only [record_ok, pair_ok, singular_ok] at read
  obtain ⟨⟨info, value, keyInfo, objects, id⟩, ⟨infoRead, -⟩, rfl⟩ := read
  exact infoRead

omit [Libraries] in
theorem SignedInfo.reads {n : Located} {info : SignedInfo} (read : SignedInfo.codec.validate n = .ok info) :
    info.etreeElement = some n ∧
      List.Forall₂ (fun child reference => DsigReference.codec.validate child = .ok reference)
        (foundChildren n (ds "Reference") "references") info.references := by
  unfold SignedInfo.codec at read
  simp only [record_ok, pair_ok, etreeElement_ok, many_ok] at read
  obtain ⟨⟨element, canonicalization, method, references, id⟩, ⟨here, -, -, referencesRead, -⟩, rfl⟩ := read
  exact ⟨here, referencesRead⟩

omit [Libraries] in
/-- The id of a token is the one its element carries. -/
theorem BinarySecurityToken.reads {n : Located} {token : BinarySecurityToken}
    (read : BinarySecurityToken.codec.validate n = .ok token) : n.node.attribute (wsu "Id") = some token.bstId := by
  unfold BinarySecurityToken.codec at read
  simp only [record_ok, pair_ok, requiredAttribute_ok, Scalar.string, Except.ok.injEq] at read
  obtain ⟨⟨encodingType, valueType, bstId, value⟩, ⟨-, -, ⟨s, carried, rfl⟩, -⟩, rfl⟩ := read
  exact carried

theorem Messaging.reads {n : Located} {messaging : Messaging} (read : Messaging.codec.validate n = .ok messaging) :
    messaging.etreeElement = some n ∧
      List.Forall₂ (fun child signal => SignalMessage.codec.validate child = .ok signal)
        (foundChildren n (eb3 "SignalMessage") "signal_messages") messaging.signalMessages ∧
      List.Forall₂ (fun child user => UserMessage.codec.validate child = .ok user)
        (foundChildren n (eb3 "UserMessage") "user_messages") messaging.userMessages := by
  unfold Messaging.codec at read
  simp only [record_ok, withWildcard_ok, pair_ok, etreeElement_ok, many_ok] at read
  obtain ⟨⟨⟨element, signals, users, id, mustUnderstand⟩, content⟩, ⟨⟨here, signalsRead, usersRead, -⟩, -⟩, rfl⟩ := read
  exact ⟨here, signalsRead, usersRead⟩

end Readers

end EnvelopeModel
