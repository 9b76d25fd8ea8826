import AS4.Exchange
import AS4.Serialisation

/-!
One recorded exchange: the message of the repository's own tests, what the XML and
cryptography libraries compute on it, and the signals its receiver answers it with.
`recorded` is the toolkit as it behaves there. Text that was never serialised does
not parse, and data that was never signed has no signature.
-/

namespace RecordedExchange
open ElementTree ElementCodec Comments PythonData AS4Libraries AS4Errors SignatureModel EncryptionModel MessagingModel
  EnvelopeModel BusinessDocument Verification MessageParsing ReceiptVerification SignalBuilding MessageBuilding Exchange
  Serialisation

section Data

def unbase64 (text : String) : Bytes := (Base64.b64decode true text).toOption.getD []

def receiverCertificateText : String :=
  "MIIDZTCCAk2gAwIBAgIUAuVN0kNDEI6AkfNZX7nmvMmPSfAwDQYJKoZIhvcNAQELBQAwQjESMBAGA1UEAwwJUE5MMDAwMDAzMQ8w" ++
  "DQYDVQQLDAZQRVBQT0wxDjAMBgNVBAoMBXB5YXM0MQswCQYDVQQGEwJCRTAeFw0yNTExMjMyMjUwNTFaFw0zNTExMjEyMjUwNTFa" ++
  "MEIxEjAQBgNVBAMMCVBOTDAwMDAwMzEPMA0GA1UECwwGUEVQUE9MMQ4wDAYDVQQKDAVweWFzNDELMAkGA1UEBhMCQkUwggEiMA0G" ++
  "CSqGSIb3DQEBAQUAA4IBDwAwggEKAoIBAQCoG/PCld7Ttdk+qJ0+Z6aGPopTParj1PRI/E1UZtb8iouNawSctm3O4cRPxnY/GhZH" ++
  "0Jw8CQGQ9WBpHtqeDCtd0pEvhAn67z/EFCrXmT4dXyp9cb8q09FjLwUByoZChEWxL4PVUmjTBvKezgbQ6JKjXHLAMKfJGTh8JFB7" ++
  "MfQlOZ93CD4bOaxvlU+qwr5g1DTjAn8yZqpacQGqJ8nI/9n1Ua8gN2+lDVnlddqHrDDU52NSSSLYHGxEt8EeH9u0d6LpmKelePiD" ++
  "yZy9npz7Lkl5H8d5TOLPgR1udgI7fBcJLLFzDzDJ9b5mElrEtrqu/5TwoU1YjiBReA8sOFAg0hjBAgMBAAGjUzBRMB0GA1UdDgQW" ++
  "BBRqsSCiF3bxGjqauhYuQalT1eLYIjAfBgNVHSMEGDAWgBRqsSCiF3bxGjqauhYuQalT1eLYIjAPBgNVHRMBAf8EBTADAQH/MA0G" ++
  "CSqGSIb3DQEBCwUAA4IBAQCAeWhVsKRQMo/EzQY+G1lw+jq4ZNCtI8FXSYPzKGGsn30HDNwbR+Jivwa29X1a7pcLoW/DMh1h0EtB" ++
  "p6Po7tLsn0+aurQ30JjNI7br2z1G3O5ezdqPKPaq6cR7u/9sOIQIqqPHYhWYtJtCICjDvGFr84E3bmuh8zD/rpH2KkDAmVSM9pMi" ++
  "UTCtpSAqB9e9SudR4gEnkL5+CXzyTguoTToKFZRycBdl20EjPrtGKaDMEqFhmRY3wQHucVa7AVzWl6x7cSyu9GBzL4cA8n95Y8Mn" ++
  "yuh2BzXq8LhiddpZb261dEFeaC28SZhQ7YmwrHgJUoDhwEC9GSUium+Icdo9MjUX"

def senderCertificateText : String :=
  "MIIDZTCCAk2gAwIBAgIULvGSg83/XKx/FHgAz6p9HaJKC+8wDQYJKoZIhvcNAQELBQAwQjESMBAGA1UEAwwJUE5MMDAwMDAyMQ8w" ++
  "DQYDVQQLDAZQRVBQT0wxDjAMBgNVBAoMBXB5YXM0MQswCQYDVQQGEwJCRTAeFw0yNTExMjMyMTQzNTdaFw0zNTExMjEyMTQzNTda" ++
  "MEIxEjAQBgNVBAMMCVBOTDAwMDAwMjEPMA0GA1UECwwGUEVQUE9MMQ4wDAYDVQQKDAVweWFzNDELMAkGA1UEBhMCQkUwggEiMA0G" ++
  "CSqGSIb3DQEBAQUAA4IBDwAwggEKAoIBAQCbKS2K8BIj6q+kaScUy4WSE17xphccUJ9yXwE7epmBg3K7UNmWXTNtFQf35kiY7uWW" ++
  "wbupu853x2dwof9wcBMnfyCoSC8LnIphu/RBokjDWtVxwU6Www9DcjIXR+wd0Y92m3BNWy4N/Omy3Q1JtT4sm+rt1eI7jK/U1Ks2" ++
  "0bKZo+n/NmlTZY9Oyz5dQv4CaBnmKVOw6q097CyWoUjqRGcRXZCvS848uTit5Qh0/ZcICf8fjPrkI9cf7PNxxSitrv8hsPU7NUFi" ++
  "HhXhWKAqUistfIsnknePWFIPwp/SSWtxjpaoLIqA/ElTcnpyj5iDbDm/HEA5KsfFMQNAeWCBMGFxAgMBAAGjUzBRMB0GA1UdDgQW" ++
  "BBRhzWcfGwv/emHxnx9aw7BFabV8GjAfBgNVHSMEGDAWgBRhzWcfGwv/emHxnx9aw7BFabV8GjAPBgNVHRMBAf8EBTADAQH/MA0G" ++
  "CSqGSIb3DQEBCwUAA4IBAQAXF2gbxeXZbWs1Bb+GbNK5s2Ey7wgl0FaYiISVpQKRLcpgUuFmK3NcSsIK4os1TClhGoHWWXnE+qEk" ++
  "0KPotnw49nRdq1rxr1N8r4b2Ike48moohDw0dRWA8JgDfoze1oB3LcXEY/NrJv6kpExinBt8BejxN8I0vGvwG+KzWgTvZd2bAyUy" ++
  "7KEQ/UZgmOszo5A46FLZLnFutPswtLcBi9Q7C+rGw1BjEygQ2zcbkLGckpzGXEieLSCSdq8nOaquEdHyscKDZQg/ZITSV2SLPM8p" ++
  "CSOjSGZ2eFBMd/iY2aUWtCzB608l/z4m16EtUXrUpZnj7y1hMik40H07M4D21GE3"

def cipherValueText : String :=
  "iKhgWhJoVBvJ6iYsx37wM9LibbBvtgBboOZlFCqLCjSrh0AcW7WUzj502JusktksjqF88jOcuy7QcGPgoEyHCveCQrdt/gj2xP4V" ++
  "pXUeMNGKETxHXk9NHMg5Zu1UNCwM8WX4zd1O3+Cye5czgIwTWl/zG3F0/zWsEH3mOUnHCeSqoaY9WvLXfPTcftjZQ3TPMGAbrHzk" ++
  "+VM8783Bt2YRc2pBQ/r7hKrI0HU9p7hU/Gs7cb8dFho7ivYTCeOnikQhdChm1F+aZecZ22zs9dIozciSnYLpHzX45pfCyYKUVDQc" ++
  "j5uUiN/orMLp8x47Ue0LDN3XsEQ2tjLCgFTDgl7m0A=="

def signatureValueText : String :=
  "CbCrx8Px3UxaUlvcUgZwxuU+/faTkG3fTTvXNTENUowqvcbOwvYiT0TJZPqE9No0u4Fpb5lR2NQgAALOXKhK8lI97E8Q7UbD7mb4" ++
  "0xHj1fp/wQQfWtvM+pzFvNhrxgEq/U+L6lZEJIq37bFv9/48AzUQRC1UcyZDnuZVTnqUqcuNvQ4lLr3O2CchqFM/WW9wZMgCB1lg" ++
  "jZ8AlgQMThtrfYjGEEyHXZb9iA09XNk67m6bg2VSBRc9LjMIvsAOJL9v8dL5unpeoHocaZtnuVckZt5NETXR8adtgypW1ATLzjl+" ++
  "pAKGeamEamyzreIvKy3KWQ/YU+o7j4PIRxSHUGY45w=="

def compressedText : String :=
  "H4sIAFzNnWoC/51UXW/aMBT9K1V4nJI4YWPFgkgtII2HlQrSSXuajH0plhLbi50C/37OJ9lKWlY/WI597rn3HF9nIjTCG0MEIxm7" ++
  "zzUXoPVc0jwFYW6OaSI0tpCpszdGYd8/HA5eLoCCJ7Nnn8KOUOMLkoJWhIL2+6i+AWGQOdHkrXwVqMJU6x+QaS5FFHho4r/erthA" ++
  "tFFLZmn4jkN2c5ebvcy4OU0druXoSzh0ba12h7m54tqJxu2oqM+xUbXRJV5byfzlI2mCdvSk+Zu68aKBUWLOSmvfojwTWBLN7d0U" ++
  "1mOtgLZYnG8TrOkeUoKPmuGleJGcghvWqhqSkjI+KWjcDL26xO5mpVdoG0WhUzuqh1tOn4vptvmsB60Fvw5uU0d1cee81dksg1LL" ++
  "nBi4EyzmKUQhCkcuGrtoFIcIDxEOkXcbBp8Qwqjujkth1clbtjZtuKGyyd9ZlkXNV7On74uHeDn/t9IL6j52O7hZDgYFAQXhQY5B" ++
  "BKPxMLBag68DKlOVcCJMidgxihUoJZMCWACwkoRSvOVJwsUzHnoI4/ZS+66h873NNZNHl0lqu/e30H3vot+nx/VqtthsrrbpXQ0o" ++
  "wO3bv0KBdW3LuauyUoK1+v8lzFZPD/H6569ZcIWG+0V/ad1E/oU+86/5FdY9Uf2Jp07hmQFtnEiRUyIJm/g14h2+6A+3R4ft6QUA" ++
  "AA=="

def attachmentText : String :=
  "jGGe2sIEY7Nqksxr5llmxpfjztpLxqOWJwo9PrGQEM9RlG6wjMlVL2iLFpoIk15NARtIX1q94L8403430xaWO0KUR7t4qWLlPUMx" ++
  "ch+Kp1uLvg+E56UbVWurHhjapIqA/2rxB3+TNZNhTt+mUUYaDAduX6dHZCT4tpJLZVWjCi1O9mWpIKo5C5sByWqWuLXCbgQDKtpC" ++
  "wytkR2W0tHYiDHhCxL0rJRm8PYtyOP65FppD8Dbxex4hFcHlZKP7XEvHiZKKFgRW9mJxrSZF936EpEB5/Z8nji4/uPI0Mo8Ap7Ds" ++
  "TNxESi8ZVxSB7BOoJyAly69hAKL9eBUOnUU6SraMUVHBjKEMOjLKjZ7fcOYSnMIK8tUMgx2jFywJHEvAWZICwNbNOD2BWxZclWNr" ++
  "1vErAO22XNXTli+D7XDeptT86MQ4ZBaUZEFExaQzlyPGeI6vdwx+jLE8dxYWC/zuiYlt8RUIgFPsgenl3VqW1gmkiLck3VoB388j" ++
  "41LZoVry+Sphj8VarV//qxi+sepQh461hCjD1OFRNBN6xhwBBd0R5I4GrTEZ4b9QjdtXVH2n8Jyz20VQF70hSmoMy6/+DdtETtLA" ++
  "Jm/wPdV6rTkXTeMYa4RpOXiS16seZXYapmlBDP/FktwIY6Zl4cPJqOGbUQrXXCyiKaERkP9Ydow82wS24wyfWIq+oe9+jn2iIDWW" ++
  "R27TUJ9zU6jyJqslMuOTgCvZNRC7zuGZ8PNyrSw="

def sessionKey : Bytes := unbase64 "aeUualwcBrLi7J/TdpKgAA=="

def oaepSeed : Bytes := unbase64 "QqHmBv+nGWYjSmnXU7zOywahjKLAcLTUnx2SSsAwKhA="

def senderCertificate : Bytes := unbase64 senderCertificateText

def receiverCertificate : Bytes := unbase64 receiverCertificateText

def compressedPayload : Bytes := unbase64 compressedText

/-- The nonce, the ciphertext and the tag. -/
def encryptedPayload : Bytes := unbase64 attachmentText

end Data

section Identifiers

def sentReferences : AS4References where
  messageId := "00000000-0000-4000-8000-000000000001@as4"
  messagingId := "as4-msg-00000000-0000-4000-8000-000000000002"
  conversationId := "as4@00000000-0000-4000-8000-000000000003"
  encryptedKeyBstId := "00000000-0000-4000-8000-000000000004"
  signatureBstId := "X509-00000000-0000-4000-8000-000000000005"
  encryptedKeyId := "EK-00000000-0000-4000-8000-000000000006"
  signatureId := "SIG-00000000-0000-4000-8000-000000000007"
  keyInfoId := "KI-00000000-0000-4000-8000-000000000008"
  signatureSecurityTokenReferenceId := "STR-00000000-0000-4000-8000-000000000009"
  bodyId := "00000000-0000-4000-8000-00000000000d"
  attachmentIdEncryptedDataIdMap :=
    [("as4-att-00000000-0000-4000-8000-00000000000a@cid", "ED-00000000-0000-4000-8000-00000000000b")]

/-- The identifiers of the signals the receiver answers with. -/
def answerReferences : AS4References where
  messageId := "00000000-0000-4000-8000-000000000011@as4"
  messagingId := "as4-msg-00000000-0000-4000-8000-000000000012"
  conversationId := "as4@00000000-0000-4000-8000-000000000013"
  encryptedKeyBstId := "00000000-0000-4000-8000-000000000014"
  signatureBstId := "X509-00000000-0000-4000-8000-000000000015"
  encryptedKeyId := "EK-00000000-0000-4000-8000-000000000016"
  signatureId := "SIG-00000000-0000-4000-8000-000000000017"
  keyInfoId := "KI-00000000-0000-4000-8000-000000000018"
  signatureSecurityTokenReferenceId := "STR-00000000-0000-4000-8000-000000000019"
  bodyId := "00000000-0000-4000-8000-00000000001d"

def attachmentId : String := "as4-att-00000000-0000-4000-8000-00000000000a@cid"

def encryptedDataId : String := "ED-00000000-0000-4000-8000-00000000000b"

end Identifiers

section Elements

def textElement (tag : QName) (text : String) : Node := .element tag [] [.text text]

def methodElement (tag : QName) (algorithm : String) : Node := .element tag [(plain "Algorithm", algorithm)] []

def referenceElement (uri transform digest : String) : Node :=
  .element (ds "Reference") [(plain "URI", uri)]
    [.element (ds "Transforms") [] [methodElement (ds "Transform") transform],
     methodElement (ds "DigestMethod") xmlencSha256,
     textElement (ds "DigestValue") digest]

def signedInfoElement (references : List Node) : Node :=
  .element (ds "SignedInfo") []
    ([methodElement (ds "CanonicalizationMethod") exclusiveC14N, methodElement (ds "SignatureMethod") dsigRsaSha256] ++
      references)

def tokenElement (tokenId certificateText : String) : Node :=
  .element (wsse "BinarySecurityToken")
    [(plain "EncodingType", base64Binary), (plain "ValueType", x509V3), (wsu "Id", tokenId)] [.text certificateText]

def tokenReferenceElement (attrib : List (QName × String)) (uri : String) (valueType : List (QName × String)) : Node :=
  .element (wsse "SecurityTokenReference") attrib
    [.element (wsse "Reference") ((plain "URI", uri) :: valueType) []]

def signatureElement (identifiers : AS4References) (info : Node) (value : String) : Node :=
  .element (ds "Signature") [(plain "Id", identifiers.signatureId)]
    [info,
     textElement (ds "SignatureValue") value,
     .element (ds "KeyInfo") [(plain "Id", identifiers.keyInfoId)]
       [tokenReferenceElement [(wsu "Id", identifiers.signatureSecurityTokenReferenceId)]
         ("#" ++ identifiers.signatureBstId) [(plain "ValueType", x509V3)]]]

def messagingElement (identifiers : AS4References) (message : Node) : Node :=
  .element (eb3 "Messaging") [(wsu "Id", identifiers.messagingId), (soap12 "mustUnderstand", "true")] [message]

def bodyElement (identifiers : AS4References) : Node := .element (soap12 "Body") [(wsu "Id", identifiers.bodyId)] []

def securityElement (content : List Node) : Node :=
  .element (wsse "Security") [(soap12 "mustUnderstand", "true")] content

def envelopeElement (header : List Node) (body : Node) : Node :=
  .element (soap12 "Envelope") [] [.element (soap12 "Header") [] header, body]

end Elements

section SentMessage

def partyElement (tag : QName) (partyId role : String) : Node :=
  .element tag []
    [.element (eb3 "PartyId") [(plain "type", peppolPartyIdentifierType)] [.text partyId],
     textElement (eb3 "Role") role]

def propertyElement (attrib : List (QName × String)) (name value : String) : Node :=
  .element (eb3 "Property") (attrib ++ [(plain "name", name)]) [.text value]

def participantElement (name value : String) : Node := propertyElement [(plain "type", iso6523ActorId)] name value

def partElement (href : List (QName × String)) : Node :=
  .element (eb3 "PartInfo") href
    [.element (eb3 "PartProperties") []
      [propertyElement [] "MimeType" "application/xml", propertyElement [] "CompressionType" "application/gzip"]]

def processIdentifier : String := "urn:fdc:peppol.eu:2017:poacc:billing:01:1.0"

def documentIdentifier : String :=
  "urn:oasis:names:specification:ubl:schema:xsd:Invoice-2::Invoice##" ++
    "urn:cen.eu:en16931:2017#compliant#urn:fdc:peppol.eu:2017:poacc:billing:3.0::2.1"

def userMessageElement : Node :=
  .element (eb3 "UserMessage") []
    [.element (eb3 "MessageInfo") []
       [textElement (eb3 "Timestamp") "2026-09-06T20:30:20.822+00:00",
        textElement (eb3 "MessageId") sentReferences.messageId],
     .element (eb3 "PartyInfo") []
       [partyElement (eb3 "From") "9932:9999999999" initiator, partyElement (eb3 "To") "9932:1111111111" responder],
     .element (eb3 "CollaborationInfo") []
       [textElement (eb3 "AgreementRef") "urn:fdc:peppol.eu:2017:agreements:tia:ap_provider",
        .element (eb3 "Service") [(plain "type", cenbiiProcidUbl)] [.text processIdentifier],
        textElement (eb3 "Action") ("busdox-docid-qns::" ++ documentIdentifier),
        textElement (eb3 "ConversationId") sentReferences.conversationId],
     .element (eb3 "MessageProperties") []
       [participantElement "originalSender" "9999999999", participantElement "finalRecipient" "1111111111"],
     .element (eb3 "PayloadInfo") [] [partElement [(plain "href", "cid:" ++ attachmentId)]]]

def sentMessaging : Node := messagingElement sentReferences userMessageElement

def sentReferenceElements : List Node :=
  [referenceElement ("#" ++ sentReferences.messagingId) exclusiveC14N "uj2Ry++nML3iJIt/ief4geidT2AFu+7EQhqP4bt2iU0=",
   referenceElement ("#" ++ sentReferences.bodyId) exclusiveC14N "zbyFEqI/g4v4pjaOzePGKpDJS00rkQke3N1HoC4NyKc=",
   referenceElement ("cid:" ++ attachmentId) attachmentContentSignature
     "VKsT8tj9KhUk9g0XQUTzDKMj+9uCczOclTjbosG51DI="]

def sentSignedInfo : Node := signedInfoElement sentReferenceElements

def encryptedKeyElement (dataIds : List String) : Node :=
  .element (enc "EncryptedKey") [(plain "Id", sentReferences.encryptedKeyId)]
    [.element (enc "EncryptionMethod") [(plain "Algorithm", rsaOaep)]
       [methodElement (ds "DigestMethod") xmlencSha256,
        methodElement (enc11 "MGF") "http://www.w3.org/2009/xmlenc11#mgf1sha256"],
     .element (ds "KeyInfo") []
       [tokenReferenceElement [] ("#" ++ sentReferences.encryptedKeyBstId) [(plain "ValueType", x509V3)]],
     .element (enc "CipherData") [] [textElement (enc "CipherValue") cipherValueText],
     .element (enc "ReferenceList") []
       (dataIds.map fun dataId => .element (enc "DataReference") [(plain "URI", "#" ++ dataId)] [])]

def encryptedDataElement (dataId attachment : String) : Node :=
  .element (enc "EncryptedData")
    [(plain "Id", dataId),
     (plain "Type", "http://docs.oasis-open.org/wss/oasis-wss-SwAProfile-1.1#Attachment-Content-Only"),
     (plain "MimeType", "application/gzip")]
    [methodElement (enc "EncryptionMethod") aes128Gcm,
     .element (ds "KeyInfo") []
       [tokenReferenceElement
         [(wsse11 "TokenType", "http://docs.oasis-open.org/wss/oasis-wss-soap-message-security-1.1#EncryptedKey")]
         ("#" ++ sentReferences.encryptedKeyId) []],
     .element (enc "CipherData") []
       [.element (enc "CipherReference") [(plain "URI", "cid:" ++ attachment)]
         [.element (enc "Transforms") []
           [methodElement (ds "Transform")
             "http://docs.oasis-open.org/wss/oasis-wss-SwAProfile-1.1#Attachment-Ciphertext-Transform"]]]]

def sentTokens : List Node :=
  [tokenElement sentReferences.encryptedKeyBstId receiverCertificateText,
   tokenElement sentReferences.signatureBstId senderCertificateText]

def sentSignature : Node := signatureElement sentReferences sentSignedInfo signatureValueText

def sentSecurity : Node :=
  securityElement (sentTokens ++
    [encryptedKeyElement [encryptedDataId], encryptedDataElement encryptedDataId attachmentId, sentSignature])

/-- The envelope of the recorded message. -/
def sentEnvelope : Node := envelopeElement [sentSecurity, sentMessaging] (bodyElement sentReferences)

end SentMessage

section BusinessDocument

def invoice : Node := .element ⟨"urn:test", "Invoice"⟩ [] [.text "payload"]

def identifierElement (value : String) : Node :=
  .element (sbdh "Identifier") [(plain "Authority", iso6523ActorId)] [.text value]

def scopeElement (scopeType instanceIdentifier : String) (identifier : List Node) : Node :=
  .element (sbdh "Scope") []
    ([textElement (sbdh "Type") scopeType, textElement (sbdh "InstanceIdentifier") instanceIdentifier] ++ identifier)

def businessDocument (payload : Node) : Node :=
  .element (sbdh "StandardBusinessDocument") []
    [.element (sbdh "StandardBusinessDocumentHeader") []
      [textElement (sbdh "HeaderVersion") "1.0",
       .element (sbdh "Sender") [] [identifierElement "9999999999"],
       .element (sbdh "Receiver") [] [identifierElement "1111111111"],
       .element (sbdh "DocumentIdentification") []
         [textElement (sbdh "Standard") "urn:oasis:names:specification:ubl:schema:xsd:Invoice-2",
          textElement (sbdh "TypeVersion") "2.1",
          textElement (sbdh "InstanceIdentifier") "00000000-0000-4000-8000-00000000000c",
          textElement (sbdh "Type") "Invoice",
          textElement (sbdh "CreationDateAndTime") "2026-09-06T20:30:20.821+00:00"],
       .element (sbdh "BusinessScope") []
         [scopeElement "DOCUMENTID" documentIdentifier [textElement (sbdh "Identifier") "busdox-docid-qns"],
          scopeElement "PROCESSID" processIdentifier [textElement (sbdh "Identifier") cenbiiProcidUbl],
          scopeElement "COUNTRY_C1" "BE" []]],
     payload]

def envelopedPayload : Bytes := plainText (businessDocument invoice)

end BusinessDocument

section Toolkit

/-- Signed elements, whose canonical form was taken. -/
def canonicalised : List Node :=
  [sentMessaging, bodyElement sentReferences, sentSignedInfo]

def digests : List (Bytes × String) :=
  [(canonicalText sentMessaging, "uj2Ry++nML3iJIt/ief4geidT2AFu+7EQhqP4bt2iU0="),
   (canonicalText (bodyElement sentReferences), "zbyFEqI/g4v4pjaOzePGKpDJS00rkQke3N1HoC4NyKc="),
   (compressedPayload, "VKsT8tj9KhUk9g0XQUTzDKMj+9uCczOclTjbosG51DI=")]

/-- By the key of the signer: what it signed, and the signature. -/
def signatures : List (Bytes × Bytes × Bytes) :=
  [(senderCertificate, canonicalText sentSignedInfo, unbase64 signatureValueText)]

def timestamps : List (Int × String) :=
  [(1788726620821000, "2026-09-06T20:30:20.821+00:00"), (1788726620822000, "2026-09-06T20:30:20.822+00:00"),
   (1788726621000000, "2026-09-06T20:30:21.000+00:00")]

@[reducible] def recorded (documents : List Node) : Libraries where
  parseXml data := documents.find? fun document => plainText document == data
  tostring := plainText
  canonicalForm n inclusive :=
    if inclusive = [] ∧ withoutComments n.node ∈ canonicalised then some (canonicalText n.node) else none
  validName _ := true
  sbdhValidationError _ := none
  isCertificate der := der == senderCertificate || der == receiverCertificate
  publicKey der := some (.rsa ⟨der⟩)
  subject der := if der == senderCertificate then "CN=PNL0000002" else "CN=PNL0000003"
  digest algorithm content :=
    match algorithm, digests.lookup content with
    | .sha256, some digest => unbase64 digest
    | _, _ => 0 :: content
  rsaVerify key algorithm data signature := algorithm == .sha256 && signatures.contains (key.encoded, data, signature)
  rsaEncrypt key seed data :=
    if key.encoded == receiverCertificate && seed == oaepSeed && data == sessionKey then unbase64 cipherValueText
    else data
  aesgcmEncrypt key nonce data :=
    if key == sessionKey && nonce == encryptedPayload.take 12 && data == compressedPayload then
      encryptedPayload.drop 12
    else data
  aesgcmDecrypt key nonce data :=
    if key == sessionKey && nonce == encryptedPayload.take 12 && data == encryptedPayload.drop 12 then
      some compressedPayload
    else none
  gzipCompress content := if content == envelopedPayload then compressedPayload else content
  gzipRead content size :=
    if content == compressedPayload then some (if size < 0 then envelopedPayload else envelopedPayload.take size.toNat)
    else none
  parseMime _ := .part "text/plain" none (some []) []
  encodeMultipart _ _ := []
  parseDatetime text :=
    match timestamps.find? fun entry => entry.2 == text with
    | some entry => .ok ⟨entry.1⟩
    | none => .error "Input should be a valid datetime"
  isoformat time := (timestamps.lookup time.microseconds).getD ""
  parseInt text :=
    match text.toInt? with
    | some value => .ok value
    | none => .error "Input should be a valid integer"
  repr text := "'" ++ text ++ "'"
  reprSet items := "\x7b" ++ join ", " (items.map fun item => "'" ++ item ++ "'") ++ "\x7d"
  exceptionText _ := ""

end Toolkit

section Parties

def recordedKey (certificate : Bytes) (decrypt : Bytes → Except PyError Bytes) : AS4PrivateKey where
  sign data :=
    match signatures.find? fun entry => entry.1 == certificate && entry.2.1 == data with
    | some entry => .ok entry.2.2
    | none => .error (.valueError "not recorded")
  decrypt := decrypt

def decryptRecorded (data : Bytes) : Except PyError Bytes :=
  if data == unbase64 cipherValueText then .ok sessionKey else .error (.valueError "Decryption failed")

def peppolIdentity (partyId : String) : AS4PartyIdentity := ⟨partyId, some peppolPartyIdentifierType⟩

variable (documents : List Node)

def senderCredentials : @AS4InternalCredentials (recorded documents) :=
  letI := recorded documents
  { certificate := ⟨senderCertificate, Bool.or_eq_true_iff.mpr (.inl (beq_self_eq_true _))⟩, privateKey := recordedKey senderCertificate .ok }

def receiverCredentials : @AS4InternalCredentials (recorded documents) :=
  letI := recorded documents
  { certificate := ⟨receiverCertificate, Bool.or_eq_true_iff.mpr (.inr (beq_self_eq_true _))⟩, privateKey := recordedKey receiverCertificate decryptRecorded }

/-- The sender, as itself and as the receiver knows it. -/
def sendingParty : @AS4InternalParty (recorded documents) :=
  letI := recorded documents
  { identity := peppolIdentity "9932:9999999999", credentials := senderCredentials documents }

def receivingParty : @AS4InternalParty (recorded documents) :=
  letI := recorded documents
  { identity := peppolIdentity "9932:1111111111", credentials := receiverCredentials documents }

def remoteReceiver : @AS4ExternalParty (recorded documents) :=
  letI := recorded documents
  { identity := (receivingParty documents).identity, credentials := ⟨(receiverCredentials documents).certificate⟩ }

/-- Trusts the sender's certificate and no other. -/
def trustSender (_ : Party) (embedded : Option (@Certificate (recorded documents))) :
    Except PyError (@Certificate (recorded documents)) :=
  letI := recorded documents
  match embedded with
  | some certificate =>
      if certificate.der == senderCertificate then .ok certificate else .error .untrustedSigner
  | none => .error .untrustedSigner

/-- The default policy, with a resolver. -/
def receivingContext : @AS4ParseContext (recorded documents) :=
  letI := recorded documents
  { localParty := receivingParty documents, securityPolicy := { signerResolver := trustSender documents } }

end Parties

section Drawn

def builderArgs : PeppolAS4MessageBuilderArgs where
  sender := "9999999999"
  recipient := "1111111111"
  documentTypeIdentifier :=
    { syntaxSpecificId := "urn:oasis:names:specification:ubl:schema:xsd:Invoice-2::Invoice"
      customizationId := "urn:cen.eu:en16931:2017#compliant#urn:fdc:peppol.eu:2017:poacc:billing:3.0"
      version := "2.1" }
  documentIdentificationInstanceIdentifier := "00000000-0000-4000-8000-00000000000c"
  processIdentifier := processIdentifier
  c1CountryId := "BE"

def draws : Draws where
  documentTime := ⟨1788726620821000⟩
  messageTime := ⟨1788726620822000⟩
  sessionKey := sessionKey
  nonce := encryptedPayload.take 12
  oaepSeed := oaepSeed
  attachment := "00000000-0000-4000-8000-00000000000a"
  encryptedData := "00000000-0000-4000-8000-00000000000b"
  boundary := "7e7baf89ef78969bd8345f3965f3aede"
  headerMessageId := "<20260906-223020-c8a67167-2983-4f58-a9f9-b2d69b14f84c-@as4>"
  userAgent := "python-as4/0.1.0"

def answerTime : Datetime := ⟨1788726621000000⟩

end Drawn

end RecordedExchange
