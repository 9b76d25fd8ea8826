import AS4.SignatureModel

/-!
The XML encryption records (`enc:`). The key data types differ from the signature
ones only where a field is kept.
-/

namespace EncryptionModel
open ElementTree ElementCodec ElementCodec.Codec PythonData AS4Libraries SignatureModel

def enc (localName : String) : QName := ⟨"http://www.w3.org/2001/04/xmlenc#", localName⟩

def enc11 (localName : String) : QName := ⟨"http://www.w3.org/2009/xmlenc11#", localName⟩

def rsaOaep : String := "http://www.w3.org/2009/xmlenc11#rsa-oaep"

def aes128Gcm : String := "http://www.w3.org/2009/xmlenc11#aes128-gcm"

structure MGF where
  algorithm : String

def MGF.codec : Codec MGF :=
  record (requiredAttribute .string (plain "Algorithm") "algorithm") MGF.mk MGF.algorithm

structure EncryptionMethod where
  algorithm : String
  digestMethod : Option DigestMethod := none
  mgf : Option MGF := none
  wildcardContent : List Node := []

def EncryptionMethod.codec : Codec EncryptionMethod :=
  record
    (withWildcard (some [ds "KeySize", ds "OAEPparams"])
      (pair (requiredAttribute .string (plain "Algorithm") "algorithm")
        (pair (optional (ds "DigestMethod") "digest_method" DigestMethod.codec)
          (optional (enc11 "MGF") "mgf" MGF.codec))))
    (fun ((algorithm, digestMethod, mgf), content) => ⟨algorithm, digestMethod, mgf, content⟩)
    (fun method => ((method.algorithm, method.digestMethod, method.mgf), method.wildcardContent))

section CipherData

structure XencTransforms where
  transforms : List Transform := []

def XencTransforms.codec : Codec XencTransforms :=
  record (manyMinOne (ds "Transform") "transforms" Transform.codec) XencTransforms.mk XencTransforms.transforms

structure CipherReference where
  transforms : XencTransforms
  uri : Option String := none

def CipherReference.codec : Codec CipherReference :=
  record
    (pair (singular (enc "Transforms") "transforms" XencTransforms.codec)
      (optionalAttribute .string (plain "URI") "uri"))
    (fun (transforms, uri) => ⟨transforms, uri⟩) (fun reference => (reference.transforms, reference.uri))

structure CipherValue where
  value : Option String := none

def CipherValue.codec : Codec CipherValue :=
  record (textOr (Scalar.optional .string) none "value") CipherValue.mk CipherValue.value

structure CipherData where
  cipherValue : Option CipherValue := none
  cipherReference : Option CipherReference := none

def CipherData.codec : Codec CipherData :=
  record
    (pair (optional (enc "CipherValue") "cipher_value" CipherValue.codec)
      (optional (enc "CipherReference") "cipher_reference" CipherReference.codec))
    (fun (value, reference) => ⟨value, reference⟩) (fun data => (data.cipherValue, data.cipherReference))

end CipherData

section Properties

structure EncryptionProperty where
  target : Option String := none
  id : Option String := none
  wildcardContent : List Node := []

def EncryptionProperty.codec : Codec EncryptionProperty :=
  record
    (withWildcard none
      (pair (optionalAttribute .string (plain "Target") "target") (optionalAttribute .string (plain "Id") "id")))
    (fun ((target, id), content) => ⟨target, id, content⟩)
    (fun property => ((property.target, property.id), property.wildcardContent))

structure EncryptionProperties where
  encryptionProperty : List EncryptionProperty := []
  id : Option String := none

def EncryptionProperties.codec : Codec EncryptionProperties :=
  record
    (pair (manyMinOne (enc "EncryptionProperty") "encryption_property" EncryptionProperty.codec)
      (optionalAttribute .string (plain "Id") "id"))
    (fun (properties, id) => ⟨properties, id⟩) (fun properties => (properties.encryptionProperty, properties.id))

end Properties

section References

structure XencReference where
  uri : Option String := none
  wildcardContent : List Node := []

def XencReference.codec : Codec XencReference :=
  record (withWildcard none (optionalAttribute .string (plain "URI") "uri"))
    (fun (uri, content) => ⟨uri, content⟩) (fun reference => (reference.uri, reference.wildcardContent))

structure ReferenceList where
  dataReference : List XencReference := []
  keyReference : List XencReference := []

def ReferenceList.codec : Codec ReferenceList :=
  record
    (pair (many (enc "DataReference") "data_reference" XencReference.codec)
      (many (enc "KeyReference") "key_reference" XencReference.codec))
    (fun (data, keys) => ⟨data, keys⟩) (fun list => (list.dataReference, list.keyReference))

end References

structure EncryptedType where
  encryptionMethod : EncryptionMethod
  keyInfo : KeyInfo
  cipherData : CipherData
  encryptionProperties : List EncryptionProperties := []
  encryptedTypeId : Option String := none
  typeValue : Option String := none
  mimeType : Option String := none
  encoding : Option String := none

def EncryptedType.codec [Libraries] : Codec EncryptedType :=
  record
    (pair (singular (enc "EncryptionMethod") "encryption_method" EncryptionMethod.codec)
      (pair (singular (ds "KeyInfo") "key_info" KeyInfo.codec)
        (pair (singular (enc "CipherData") "cipher_data" CipherData.codec)
          (pair (many (enc "EncryptionProperties") "encryption_properties" EncryptionProperties.codec)
            (pair (optionalAttribute .string (plain "Id") "encrypted_type_id")
              (pair (optionalAttribute .string (plain "Type") "type_value")
                (pair (optionalAttribute .string (plain "MimeType") "mime_type")
                  (optionalAttribute .string (plain "Encoding") "encoding"))))))))
    (fun (method, keyInfo, cipherData, properties, id, typeValue, mimeType, encoding) =>
      ⟨method, keyInfo, cipherData, properties, id, typeValue, mimeType, encoding⟩)
    (fun data => (data.encryptionMethod, data.keyInfo, data.cipherData, data.encryptionProperties,
      data.encryptedTypeId, data.typeValue, data.mimeType, data.encoding))

structure CarriedKeyName where
  text : Option String := none

def CarriedKeyName.codec : Codec CarriedKeyName :=
  record (textOr (Scalar.optional .string) none "text") CarriedKeyName.mk CarriedKeyName.text

structure EncryptedKey extends EncryptedType where
  referenceList : ReferenceList
  carriedKeyName : List CarriedKeyName := []
  recipient : Option String := none

def EncryptedKey.codec [Libraries] : Codec EncryptedKey :=
  record
    (pair EncryptedType.codec
      (pair (singular (enc "ReferenceList") "reference_list" ReferenceList.codec)
        (pair (many (enc "CarriedKeyName") "carried_key_name" CarriedKeyName.codec)
          (optionalAttribute .string (plain "Recipient") "recipient"))))
    (fun (base, list, names, recipient) => ⟨base, list, names, recipient⟩)
    (fun key => (key.toEncryptedType, key.referenceList, key.carriedKeyName, key.recipient))

end EncryptionModel
