import AS4.Base64
import AS4.Errors

/-!
The third-party code the library calls: the XML toolkit, the cryptography package,
gzip, the MIME parser and the pieces of pydantic that read numbers and times. What
it computes is a parameter; what the results rely on is said by the structures at
the end, one for each documented behaviour.
-/

namespace AS4Libraries
open ElementTree ElementCodec PythonData AS4Errors

inductive HashAlgorithm where
  | sha256
  | sha384
  | sha512
  deriving DecidableEq, Repr

structure RSAPublicKey where
  encoded : Bytes
  deriving DecidableEq, Repr

inductive PublicKey where
  | rsa (key : RSAPublicKey)
  | other (typeName : String)
  deriving DecidableEq, Repr

/-- What the MIME parser makes of a message part. `payload` is the decoded
content, absent for a multipart. -/
inductive MimePart where
  | part (contentType : String) (contentId : Option String) (payload : Option Bytes) (parts : List MimePart)

structure Datetime where
  microseconds : Int
  deriving DecidableEq, Repr

class Libraries where
  /-- `etree.fromstring` with the hardened parser; nothing for an `XMLSyntaxError`. -/
  parseXml : Bytes → Option Node
  /-- `etree.tostring` -/
  tostring : Node → Bytes
  /-- Exclusive canonicalisation without comments of the element at a place, with
  the prefixes to treat inclusively; nothing for a `C14NError`. -/
  canonicalForm : Located → List String → Option Bytes
  /-- Whether `etree.QName` accepts a name. -/
  validName : String → Bool
  sbdhValidationError : Node → Option String
  isCertificate : Bytes → Bool
  /-- `certificate.public_key()`, which refuses key types it does not know. -/
  publicKey : Bytes → Option PublicKey
  subject : Bytes → String
  digest : HashAlgorithm → Bytes → Bytes
  /-- PKCS#1 v1.5 verification of a signature over some data. -/
  rsaVerify : RSAPublicKey → HashAlgorithm → (data signature : Bytes) → Bool
  /-- RSA-OAEP with SHA-256, under some randomness. -/
  rsaEncrypt : RSAPublicKey → (randomness data : Bytes) → Bytes
  /-- AES-GCM; decryption fails on a bad key, nonce or tag. -/
  aesgcmEncrypt : (key nonce data : Bytes) → Bytes
  aesgcmDecrypt : (key nonce data : Bytes) → Option Bytes
  gzipCompress : Bytes → Bytes
  /-- `GzipFile.read(size)`: at most that many bytes, all of them for a negative size. -/
  gzipRead : Bytes → Int → Option Bytes
  parseMime : Bytes → MimePart
  encodeMultipart : (boundary : String) → List (List (String × String) × Bytes) → Bytes
  parseDatetime : String → Except String Datetime
  /-- `isoformat(timespec="milliseconds")` -/
  isoformat : Datetime → String
  parseInt : String → Except String Int
  /-- `repr` of a string, and of a set of strings. -/
  repr : String → String
  reprSet : List String → String
  /-- `str` of an exception that is not the library's own. -/
  exceptionText : PyError → String

section Wrappers
variable [lib : Libraries]

/-- A certificate that loaded. -/
structure Certificate where
  der : Bytes
  loads : Libraries.isCertificate der = true

instance : DecidableEq Certificate := fun first second =>
  decidable_of_iff (first.der = second.der) (by cases first; cases second; simp)

/-- `x509.load_der_x509_certificate` -/
def loadDerX509Certificate (der : Bytes) : Except PyError Certificate :=
  if loads : Libraries.isCertificate der = true then .ok ⟨der, loads⟩
  else .error (.valueError "error parsing asn1 value")

def Certificate.publicKey (certificate : Certificate) : Except PyError PublicKey :=
  match Libraries.publicKey certificate.der with
  | some key => .ok key
  | none => .error (.other "UnsupportedAlgorithm" "")

def Certificate.subject (certificate : Certificate) : String := Libraries.subject certificate.der

def parseXml (data : Bytes) : Except PyError Node :=
  match Libraries.parseXml data with
  | some element => .ok element
  | none => .error .xmlSyntaxError

/-- `etree.tostring(element, method="c14n", exclusive=True, with_comments=False, …)` -/
def canonicalize (element : Located) (inclusivePrefixes : List String) : Except PyError Bytes :=
  match Libraries.canonicalForm element inclusivePrefixes with
  | some form => .ok form
  | none => .error .c14nError

def datetimeScalar : Scalar Datetime where
  decode := Libraries.parseDatetime
  encode := Libraries.isoformat
  expected := "Input should be a valid datetime"

def intScalar : Scalar Int where
  decode := Libraries.parseInt
  encode value := toString value
  expected := "Input should be a valid integer"

theorem parseXml_ok {data : Bytes} {element : Node} :
    parseXml data = .ok element ↔ Libraries.parseXml data = some element := by
  unfold parseXml
  cases Libraries.parseXml data <;> simp

theorem canonicalize_ok {element : Located} {prefixes : List String} {form : Bytes} :
    canonicalize element prefixes = .ok form ↔ Libraries.canonicalForm element prefixes = some form := by
  unfold canonicalize
  cases Libraries.canonicalForm element prefixes <;> simp

theorem loadDerX509Certificate_ok {der : Bytes} {certificate : Certificate} :
    loadDerX509Certificate der = .ok certificate ↔ certificate.der = der := by
  unfold loadDerX509Certificate
  split
  · rename_i loads
    constructor
    · intro same
      exact congrArg Certificate.der (Except.ok.inj same).symm
    · rintro rfl
      rfl
  · rename_i broken
    constructor
    · simp
    · rintro rfl
      exact absurd certificate.loads broken

end Wrappers

/-- `bool` read by pydantic, and written by the library. -/
def boolScalar : Scalar Bool where
  decode s :=
    if ["1", "on", "t", "true", "y", "yes"].contains s.toLower then .ok true
    else if ["0", "off", "f", "false", "n", "no"].contains s.toLower then .ok false
    else .error "Input should be a valid boolean, unable to interpret input"
  encode value := if value then "true" else "false"
  expected := "Input should be a valid boolean"

theorem boolScalar_rereads (value : Bool) : boolScalar.decode (boolScalar.encode value) = .ok value := by
  have lower : "true".toLower = "true" ∧ "false".toLower = "false" := by
    simp [String.toLower, ← String.toList_inj]
  cases value <;> simp [boolScalar, lower]

/-- Pydantic's `Base64Bytes` decodes leniently. -/
def decodeBase64Bytes (s : String) : Except String Bytes :=
  (Base64.a2bBase64 false .start s.toList).mapError fun message => s!"Base64 decoding error: '{message}'"

theorem decodeBase64Bytes_b64encode (data : Bytes) : decodeBase64Bytes (Base64.b64encode data) = .ok data := by
  rw [decodeBase64Bytes, Base64.b64encode, String.toList_ofList, Base64.a2b_encodeChars false data .start rfl rfl]
  rfl

def asciiText (data : Bytes) : String := String.ofList (data.map fun byte => Char.ofNat byte.toNat)

end AS4Libraries
