import AS4.Libraries

/-!
The XML signature records (`ds:`) and the token references their key infos hold.
-/

namespace SignatureModel
open ElementTree ElementCodec ElementCodec.Codec PythonData AS4Libraries

def ds (localName : String) : QName := ⟨"http://www.w3.org/2000/09/xmldsig#", localName⟩

def wsse (localName : String) : QName :=
  ⟨"http://docs.oasis-open.org/wss/2004/01/oasis-200401-wss-wssecurity-secext-1.0.xsd", localName⟩

def wsu (localName : String) : QName :=
  ⟨"http://docs.oasis-open.org/wss/2004/01/oasis-200401-wss-wssecurity-utility-1.0.xsd", localName⟩

def wsse11 (localName : String) : QName :=
  ⟨"http://docs.oasis-open.org/wss/oasis-wss-wssecurity-secext-1.1.xsd", localName⟩

abbrev plain (localName : String) : QName := .plain localName

/-- The tag of the element that lists the prefixes to canonicalise inclusively. -/
def inclusiveNamespacesTag : QName := ⟨"http://www.w3.org/2001/10/xml-exc-c14n#", "InclusiveNamespaces"⟩

def exclusiveC14N : String := "http://www.w3.org/2001/10/xml-exc-c14n#"

def attachmentContentSignature : String :=
  "http://docs.oasis-open.org/wss/oasis-wss-SwAProfile-1.1#Attachment-Content-Signature-Transform"

/-- `Base64Bytes`, which is written as `str` of the bytes. -/
def base64Bytes : Scalar Bytes := ⟨decodeBase64Bytes, bytesStr, "Input should be a valid bytes", []⟩

/-- `Base64Bytes | None`, which is written in Base64. -/
def base64BytesOptional : Scalar (Option Bytes) :=
  Scalar.optional ⟨decodeBase64Bytes, Base64.b64encode, "Input should be a valid bytes", []⟩

/-- An element that holds one required string. -/
def stringText (name : String) : Codec String := requiredText .string name

/-- The prefixes named by the wildcard content of a transform or of a
canonicalisation method. -/
def inclusivePrefixes (wildcardContent : List Node) : List String :=
  (elementsTagged inclusiveNamespacesTag wildcardContent).flatMap fun item =>
    splitSpaces ((item.attribute (plain "PrefixList")).getD "")

section Transforms

structure Transform where
  algorithm : Option String := none
  wildcardContent : List Node := []

def Transform.codec : Codec Transform :=
  record (withWildcard none (optionalAttribute .string (plain "Algorithm") "algorithm"))
    (fun (algorithm, content) => ⟨algorithm, content⟩) (fun transform => (transform.algorithm, transform.wildcardContent))

def Transform.inclusiveNamespaces (transform : Transform) : List String :=
  inclusivePrefixes transform.wildcardContent

structure Transforms where
  transforms : List Transform := []

def Transforms.codec : Codec Transforms :=
  record (many (ds "Transform") "transforms" Transform.codec) Transforms.mk Transforms.transforms

end Transforms

section References

structure DigestMethod where
  algorithm : String

def DigestMethod.codec : Codec DigestMethod :=
  record (requiredAttribute .string (plain "Algorithm") "algorithm") DigestMethod.mk DigestMethod.algorithm

structure DigestValue where
  text : String

def DigestValue.codec : Codec DigestValue := record (stringText "text") DigestValue.mk DigestValue.text

structure DsigReference where
  transforms : Transforms
  digestMethod : DigestMethod
  digestValue : DigestValue
  id : Option String := none
  uri : Option String := none
  typeValue : Option String := none

def DsigReference.codec : Codec DsigReference :=
  record
    (pair (singular (ds "Transforms") "transforms" Transforms.codec)
      (pair (singular (ds "DigestMethod") "digest_method" DigestMethod.codec)
        (pair (singular (ds "DigestValue") "digest_value" DigestValue.codec)
          (pair (optionalAttribute .string (plain "Id") "id")
            (pair (optionalAttribute .string (plain "URI") "uri")
              (optionalAttribute .string (plain "Type") "type_value"))))))
    (fun (transforms, digestMethod, digestValue, id, uri, typeValue) =>
      ⟨transforms, digestMethod, digestValue, id, uri, typeValue⟩)
    (fun reference => (reference.transforms, reference.digestMethod, reference.digestValue, reference.id,
      reference.uri, reference.typeValue))

end References

section Tokens

structure WsseReference where
  uri : Option String := none
  valueType : Option String := none
  wildcardContent : List Node := []

def WsseReference.codec : Codec WsseReference :=
  record
    (withWildcard none
      (pair (optionalAttribute .string (plain "URI") "uri")
        (optionalAttribute .string (plain "ValueType") "value_type")))
    (fun ((uri, valueType), content) => ⟨uri, valueType, content⟩)
    (fun reference => ((reference.uri, reference.valueType), reference.wildcardContent))

structure SecurityTokenReference where
  securityTokenReferenceId : Option String := none
  usage : String := ""
  reference : WsseReference
  tokenType : Option String := none
  wildcardContent : List Node := []

def SecurityTokenReference.codec : Codec SecurityTokenReference :=
  record
    (withWildcard none
      (pair (optionalAttribute .string (wsu "Id") "security_token_reference_id")
        (pair (attributeOr .string "" (wsse "Usage") "usage")
          (pair (singular (wsse "Reference") "reference" WsseReference.codec)
            (optionalAttribute .string (wsse11 "TokenType") "token_type")))))
    (fun ((id, usage, reference, tokenType), content) => ⟨id, usage, reference, tokenType, content⟩)
    (fun token => ((token.securityTokenReferenceId, token.usage, token.reference, token.tokenType),
      token.wildcardContent))

end Tokens

section KeyInfo

/-- `CryptoBinary`, `X509SKI`, `X509Certificate` and `X509CRL`. -/
structure BinaryText where
  text : Bytes

def BinaryText.codec : Codec BinaryText :=
  record (requiredText base64Bytes "text") BinaryText.mk BinaryText.text

structure KeyName where
  text : String

def KeyName.codec : Codec KeyName := record (stringText "text") KeyName.mk KeyName.text

structure KeyValue where
  wildcardContent : List Node := []

def KeyValue.codec : Codec KeyValue :=
  record (withWildcard (some [ds "DSAKeyValue", ds "RSAKeyValue"]) nothing)
    (fun (_, content) => ⟨content⟩) (fun value => ((), value.wildcardContent))

structure RetrievalMethod where
  transforms : List Transforms := []
  uri : Option String := none
  typeValue : Option String := none

def RetrievalMethod.codec : Codec RetrievalMethod :=
  record
    (pair (many (ds "Transforms") "transforms" Transforms.codec)
      (pair (optionalAttribute .string (plain "URI") "uri")
        (optionalAttribute .string (plain "Type") "type_value")))
    (fun (transforms, uri, typeValue) => ⟨transforms, uri, typeValue⟩)
    (fun method => (method.transforms, method.uri, method.typeValue))

structure X509IssuerSerial where
  x509IssuerName : String
  x509SerialNumber : Int

def X509IssuerSerial.codec [Libraries] : Codec X509IssuerSerial :=
  record
    (pair (singular (ds "X509IssuerName") "x509_issuer_name" (stringText "text"))
      (singular (ds "X509SerialNumber") "x509_serial_number" (requiredText intScalar "text")))
    (fun (name, number) => ⟨name, number⟩) (fun serial => (serial.x509IssuerName, serial.x509SerialNumber))

structure X509Data where
  x509IssuerSerial : List X509IssuerSerial := []
  x509Ski : List BinaryText := []
  x509SubjectName : List String := []
  x509Certificate : List BinaryText := []
  x509Crl : List BinaryText := []

def X509Data.codec [Libraries] : Codec X509Data :=
  record
    (pair (manyMinOne (ds "X509IssuerSerial") "x509_issuer_serial" X509IssuerSerial.codec)
      (pair (manyMinOne (ds "X509SKI") "x509_ski" BinaryText.codec)
        (pair (manyMinOne (ds "X509SubjectName") "x509_subject_name" (stringText "text"))
          (pair (manyMinOne (ds "X509Certificate") "x509_certificate" BinaryText.codec)
            (manyMinOne (ds "X509CRL") "x509_crl" BinaryText.codec)))))
    (fun (serials, skis, subjects, certificates, crls) => ⟨serials, skis, subjects, certificates, crls⟩)
    (fun data => (data.x509IssuerSerial, data.x509Ski, data.x509SubjectName, data.x509Certificate, data.x509Crl))

structure PGPData where
  pgpkeyId : BinaryText
  pgpkeyPacket : List BinaryText := []

def PGPData.codec : Codec PGPData :=
  record
    (pair (singular (ds "PGPKeyID") "pgpkey_id" BinaryText.codec)
      (many (ds "PGPKeyPacket") "pgpkey_packet" BinaryText.codec))
    (fun (id, packets) => ⟨id, packets⟩) (fun data => (data.pgpkeyId, data.pgpkeyPacket))

structure SPKIData where
  spkisexp : List BinaryText := []

def SPKIData.codec : Codec SPKIData :=
  record (many (ds "SPKISexp") "spkisexp" BinaryText.codec) SPKIData.mk SPKIData.spkisexp

structure MgmtData where
  text : String := ""

def MgmtData.codec : Codec MgmtData := record (textOr .string "" "text") MgmtData.mk MgmtData.text

structure KeyInfo where
  keyInfoId : Option String := none
  keyName : List KeyName := []
  keyValue : List KeyValue := []
  retrievalMethod : List RetrievalMethod := []
  x509Data : List X509Data := []
  pgpData : List PGPData := []
  spkiData : List SPKIData := []
  mgmtData : List MgmtData := []
  securityTokenReference : List SecurityTokenReference := []

def KeyInfo.codec [Libraries] : Codec KeyInfo :=
  record
    (pair (optionalAttribute .string (plain "Id") "key_info_id")
      (pair (many (ds "KeyName") "key_name" KeyName.codec)
        (pair (many (ds "KeyValue") "key_value" KeyValue.codec)
          (pair (many (ds "RetrievalMethod") "retrieval_method" RetrievalMethod.codec)
            (pair (many (ds "X509Data") "x509_data" X509Data.codec)
              (pair (many (ds "PGPData") "pgp_data" PGPData.codec)
                (pair (many (ds "SPKIData") "spki_data" SPKIData.codec)
                  (pair (many (ds "MgmtData") "mgmt_data" MgmtData.codec)
                    (many (wsse "SecurityTokenReference") "security_token_reference"
                      SecurityTokenReference.codec)))))))))
    (fun (id, names, values, methods, x509, pgp, spki, mgmt, tokens) =>
      ⟨id, names, values, methods, x509, pgp, spki, mgmt, tokens⟩)
    (fun info => (info.keyInfoId, info.keyName, info.keyValue, info.retrievalMethod, info.x509Data, info.pgpData,
      info.spkiData, info.mgmtData, info.securityTokenReference))

end KeyInfo

section Signature

structure CanonicalizationMethod where
  algorithm : Option String
  wildcardContent : List Node := []

/-- `str | None` without a default: the attribute has to be there. -/
def CanonicalizationMethod.codec : Codec CanonicalizationMethod :=
  record (withWildcard none (requiredAttribute (Scalar.optional .string) (plain "Algorithm") "algorithm"))
    (fun (algorithm, content) => ⟨algorithm, content⟩) (fun method => (method.algorithm, method.wildcardContent))

def CanonicalizationMethod.inclusiveNamespaces (method : CanonicalizationMethod) : List String :=
  inclusivePrefixes method.wildcardContent

structure SignatureMethod where
  algorithm : String
  wildcardContent : List Node := []

def SignatureMethod.codec : Codec SignatureMethod :=
  record
    (withWildcard (some [ds "HMACOutputLength"]) (requiredAttribute .string (plain "Algorithm") "algorithm"))
    (fun (algorithm, content) => ⟨algorithm, content⟩) (fun method => (method.algorithm, method.wildcardContent))

structure SignedInfo where
  etreeElement : Option Located := none
  canonicalizationMethod : CanonicalizationMethod
  signatureMethod : SignatureMethod
  references : List DsigReference := []
  id : Option String := none

def SignedInfo.codec : Codec SignedInfo :=
  record
    (pair Codec.etreeElement
      (pair (singular (ds "CanonicalizationMethod") "canonicalization_method" CanonicalizationMethod.codec)
        (pair (singular (ds "SignatureMethod") "signature_method" SignatureMethod.codec)
          (pair (many (ds "Reference") "references" DsigReference.codec)
            (optionalAttribute .string (plain "Id") "id")))))
    (fun (element, canonicalization, method, references, id) => ⟨element, canonicalization, method, references, id⟩)
    (fun info => (info.etreeElement, info.canonicalizationMethod, info.signatureMethod, info.references, info.id))

structure SignatureObject where
  id : Option String := none
  mimeType : Option String := none
  encoding : Option String := none
  wildcardContent : List Node := []

def SignatureObject.codec : Codec SignatureObject :=
  record
    (withWildcard none
      (pair (optionalAttribute .string (plain "Id") "id")
        (pair (optionalAttribute .string (plain "MimeType") "mime_type")
          (optionalAttribute .string (plain "Encoding") "encoding"))))
    (fun ((id, mimeType, encoding), content) => ⟨id, mimeType, encoding, content⟩)
    (fun object => ((object.id, object.mimeType, object.encoding), object.wildcardContent))

structure SignatureValue where
  value : Option Bytes := none
  id : Option String := none

def SignatureValue.codec : Codec SignatureValue :=
  record
    (pair (textOr base64BytesOptional none "value") (optionalAttribute .string (plain "Id") "id"))
    (fun (value, id) => ⟨value, id⟩) (fun signature => (signature.value, signature.id))

structure Signature where
  signedInfo : SignedInfo
  signatureValue : SignatureValue
  keyInfo : KeyInfo
  objectValue : List SignatureObject := []
  signatureId : Option String := none

def Signature.codec [Libraries] : Codec Signature :=
  record
    (pair (singular (ds "SignedInfo") "signed_info" SignedInfo.codec)
      (pair (singular (ds "SignatureValue") "signature_value" SignatureValue.codec)
        (pair (singular (ds "KeyInfo") "key_info" KeyInfo.codec)
          (pair (many (ds "Object") "object_value" SignatureObject.codec)
            (optionalAttribute .string (plain "Id") "signature_id")))))
    (fun (info, value, keyInfo, objects, id) => ⟨info, value, keyInfo, objects, id⟩)
    (fun signature => (signature.signedInfo, signature.signatureValue, signature.keyInfo, signature.objectValue,
      signature.signatureId))

end Signature

end SignatureModel
