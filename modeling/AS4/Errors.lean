import AS4.ElementCodec

/-!
The exceptions of the library. A receiptable error is answered with an ebMS error
signal made from its class's fields and its detail; every other exception is not.
-/

namespace AS4Errors
open ElementCodec PythonData

/-- A subclass of `BaseAS4ReceiptableError` with its class attributes. -/
structure ErrorClass where
  name : String
  errorCode : String
  shortDescription : String
  description : String
  severity : String
  category : String
  detail : String := ""
  deriving DecidableEq, Repr

structure BaseAS4ReceiptableError where
  errorClass : ErrorClass
  detail : String
  deriving DecidableEq, Repr

/-- `cls(detail)`: an empty detail leaves the one of the class. -/
def ErrorClass.new (cls : ErrorClass) (detail : String := "") : BaseAS4ReceiptableError :=
  ⟨cls, if detail = "" then cls.detail else detail⟩

/-- `cls.from_stored(detail)` -/
def ErrorClass.fromStored (cls : ErrorClass) (detail : String) : BaseAS4ReceiptableError := ⟨cls, detail⟩

section Bases

def baseFeatureNotSupported (name : String) (detail : String := "") : ErrorClass where
  name := name
  errorCode := "EBMS:0002"
  shortDescription := "FeatureNotSupported"
  description := "Although the message document is well formed and schema valid, some element/attribute value " ++
    "cannot be processed as expected because the related feature is not supported by the MSH."
  severity := "warning"
  category := "Content"
  detail := detail

def baseValueInconsistent (name : String) (detail : String := "") : ErrorClass where
  name := name
  errorCode := "EBMS:0003"
  shortDescription := "ValueInconsistent"
  description := "Although the message document is well formed and schema valid, some element/attribute value is " ++
    "inconsistent either with the content of other element/attribute, or with the processing mode of the MSH, or " ++
    "with the normative requirements of the ebMS specification."
  severity := "failure"
  category := "Content"
  detail := detail

def baseProfileLevel (name description : String) (detail : String := "") : ErrorClass where
  name := name
  errorCode := "EBMS:0004"
  shortDescription := "Other"
  description := description
  severity := "failure"
  category := "Content"
  detail := detail

def baseMimeInconsistency (name : String) : ErrorClass where
  name := name
  errorCode := "EBMS:0007"
  shortDescription := "MimeInconsistency"
  description := "The use of MIME is not consistent with the required usage in this specification."
  severity := "failure"
  category := "Unpackaging"

def baseInvalidHeader (name : String) (detail : String := "") : ErrorClass where
  name := name
  errorCode := "EBMS:0009"
  shortDescription := "InvalidHeader"
  description := "The ebMS header is either not valid against the ebMS packaging rules, or not conform to the " ++
    "processing mode of the MSH."
  severity := "failure"
  category := "Unpackaging"
  detail := detail

def baseDecompressionFailure (name detail : String) : ErrorClass where
  name := name
  errorCode := "EBMS:0303"
  shortDescription := "DecompressionFailure"
  description := "An error occurred during the decompression."
  severity := "failure"
  category := "Communication"
  detail := detail

def baseFailedAuthentication (name : String) (detail : String := "") : ErrorClass where
  name := name
  errorCode := "EBMS:0101"
  shortDescription := "FailedAuthentication"
  description := "The signature in the Security header intended for the \"ebms\" SOAP actor, could not be " ++
    "validated by the Security module."
  severity := "failure"
  category := "Processing"
  detail := detail

def baseEncryptedDataReference (name : String) (detail : String := "") : ErrorClass where
  name := name
  errorCode := "EBMS:0102"
  shortDescription := "FailedDecryption"
  description := "The encrypted data reference the Security header intended for the \"ebms\" SOAP actor could " ++
    "not be decrypted by the Security Module."
  severity := "failure"
  category := "Processing"
  detail := detail

def basePolicyNoncompliance (name : String) (detail : String := "") : ErrorClass where
  name := name
  errorCode := "EBMS:0103"
  shortDescription := "PolicyNoncompliance"
  description := "The processor determined that the message's security methods, parameters, scope or other " ++
    "security policy-level requirements or agreements were not satisfied."
  severity := "failure"
  category := "Processing"
  detail := detail

end Bases

section Classes

def bundledMessagesNotSupported :=
  baseFeatureNotSupported "BundledMessagesNotSupportedException" "eb:Messaging bundles more than one message"

def baseValueInconsistentException := baseValueInconsistent "BaseValueInconsistentException"

def userMessageNotFound :=
  baseValueInconsistent "UserMessageNotFoundException" "Missing UserMessage in ebMS Messaging header"

def payloadInfoNotFound := baseValueInconsistent "PayloadInfoNotFoundException" "Missing PayloadInfo in UserMessage"

def messagingNotFound := baseValueInconsistent "MessagingNotFoundException"

def messageIdNotFound := baseValueInconsistent "MessageIdNotFoundException"

def partyToNotFound := baseValueInconsistent "PartyToNotFoundException"

def partInfoWithoutMimePart (href : String) : BaseAS4ReceiptableError :=
  (baseMimeInconsistency "PartInfoWithoutMimePartException").new
    s!"eb:PartInfo/@href {href} names no MIME part in the message"

def duplicateHeaderElement :=
  baseInvalidHeader "DuplicateHeaderElementException" "A header element permitted once appears more than once"

def malformedSoapEnvelope := baseInvalidHeader "MalformedSoapEnvelopeException" "SOAP part is not well-formed XML"

def soapPartNotFound :=
  baseInvalidHeader "SoapPartNotFoundException" "Message carries no readable application/soap+xml part"

def payloadPartNotFound :=
  baseInvalidHeader "PayloadPartNotFoundException" "Message carries no readable application/octet-stream part"

def decompressionFailed := baseDecompressionFailure "DecompressionFailedException" "Payload is not valid gzip"

def decompressedPayloadTooLarge := baseDecompressionFailure "DecompressedPayloadTooLargeException"
  "Decompressed payload exceeds the configured maximum size"

def digestMismatch (uri : String) : BaseAS4ReceiptableError :=
  (baseFailedAuthentication "DigestMismatchException").new s!"Digest mismatch for signature reference {uri}"

def referenceTargetNotFound (uri : String) : BaseAS4ReceiptableError :=
  (baseFailedAuthentication "ReferenceTargetNotFoundException").new s!"Cannot resolve signature reference {uri}"

def duplicateElementId (identifier : String) : BaseAS4ReceiptableError :=
  (baseFailedAuthentication "DuplicateElementIdException").new s!"Duplicate element id {identifier}"

def signatureSecurityTokenReferenceNotFound :=
  baseFailedAuthentication "SignatureSecurityTokenReferenceNotFoundException"
    "Missing or empty SecurityTokenReference URI for Signature"

def signatureCoverageMissing (missing : List String) : BaseAS4ReceiptableError :=
  let parts := join ", " missing
  (baseFailedAuthentication "SignatureCoverageException").new s!"Signature does not cover {parts}"

def untrustedSigner := baseFailedAuthentication "UntrustedSignerException" "Signing certificate rejected"

def signatureVerificationFailed := baseFailedAuthentication "SignatureVerificationFailedException"
  "Signature does not verify against the signing certificate"

def encryptedDataReferenceNotFound := baseEncryptedDataReference "EncryptedDataReferenceNotFoundException"
  "Error processing the WSSecurity Header, cannot find a reference to the encrypted data"

def encryptedDataNotFound (uri : String) : BaseAS4ReceiptableError :=
  (baseEncryptedDataReference "EncryptedDataNotFoundException").new
    s!"Error processing the WSSecurity Header, cannot find the EncryptedData with the reference {uri}."

def cipherValueNotFound := baseEncryptedDataReference "CipherValueNotFoundException"
  "Error processing the WSSecurity Header, missing xenc:CipherData / xenc:CipherValue from EncryptedKey"

def cipherReferenceNotFound := baseEncryptedDataReference "CipherReferenceNotFoundException"
  "Error processing the WSSecurity Header, missing xenc:CipherData / xenc:CipherReference from EncryptedData"

def encryptedAttachmentNotFound (attachmentId : String) : BaseAS4ReceiptableError :=
  (baseEncryptedDataReference "EncryptedAttachmentNotFoundException").new
    s!"Error processing the WSSecurity Header, no MIME attachment matches cid:{attachmentId}"

def decryptionFailed :=
  baseEncryptedDataReference "DecryptionFailedException" "Could not decrypt the message payload"

def signatureRequired := basePolicyNoncompliance "SignatureRequiredException"
  "SecurityPolicy requires a signature and the message carries no ds:Signature"

def encryptionRequired := basePolicyNoncompliance "EncryptionRequiredException"
  "SecurityPolicy requires encryption and the message carries no xenc:EncryptedKey"

def unsupportedSecurityTokenType (valueType : String) : BaseAS4ReceiptableError :=
  (basePolicyNoncompliance "UnsupportedSecurityTokenTypeException").new
    s!"Unsupported security token value type {valueType}"

def unsupportedSignatureAlgorithm (algorithm : String) : BaseAS4ReceiptableError :=
  (basePolicyNoncompliance "UnsupportedSignatureAlgorithmException").new s!"Unsupported signature algorithm {algorithm}"

def unsupportedEncryptionAlgorithm (algorithm : String) : BaseAS4ReceiptableError :=
  (basePolicyNoncompliance "UnsupportedEncryptionAlgorithmException").new
    s!"Unsupported encryption algorithm {algorithm}"

def unsupportedTransform (algorithm : String) : BaseAS4ReceiptableError :=
  (basePolicyNoncompliance "UnsupportedTransformException").new s!"Unsupported transform {algorithm}"

def unsupportedDigestAlgorithm (algorithm : String) : BaseAS4ReceiptableError :=
  (basePolicyNoncompliance "UnsupportedDigestAlgorithmException").new s!"Unsupported digest algorithm {algorithm}"

def peppolSBDH := baseProfileLevel "PeppolSBDHException" "Undefined SBDH error"

def peppolPartyIdentifier :=
  baseProfileLevel "PeppolPartyIdentifierException" "Party identifier does not follow the Peppol AS4 profile"

def peppolNotServiced := baseProfileLevel "PeppolNotServicedException"
  "The addressed participant is not serviced by this access point" "PEPPOL:NOT_SERVICED"

end Classes

/-- Whatever a call may raise. -/
inductive PyError where
  | receiptable (error : BaseAS4ReceiptableError)
  | validationError (details : ErrorDetails)
  | xmlSyntaxError
  | c14nError
  | valueError (message : String)
  | unsupportedSecurityTokenType (message : String)
  | unsupportedSignatureAlgorithm (message : String)
  | unsupportedTransform (message : String)
  | unsupportedDigestAlgorithm (message : String)
  | invalidSignature
  | invalidTag
  | untrustedSigner
  | participantNotServiced
  | remotePartyNotVerified
  | receiptVerification (message : String)
  | mismatchedLocalParty (stored supplied : String)
  | other (typeName message : String)
  deriving DecidableEq, Repr

/-- `"/".join(str(item) for item in error_details["loc"])` -/
def location (details : ErrorDetails) : String :=
  join "/" (details.loc.map fun
    | .key name => name
    | .index position => toString position)

def ErrorClass.fromPydanticError (cls : ErrorClass) (details : ErrorDetails) : BaseAS4ReceiptableError :=
  match details.kind with
  | .missing => cls.new s!"Missing expected content at: {location details}"
  | .repeated count =>
      cls.new s!"Value error, expected exactly one element, got {count} at: {location details}"
  | .invalid message => cls.new s!"{message} at: {location details}"

def fromValidationError (details : ErrorDetails) : BaseAS4ReceiptableError :=
  match details.kind with
  | .repeated _ => duplicateHeaderElement.new s!"Repeated element at: {location details}"
  | _ => baseValueInconsistentException.fromPydanticError details

end AS4Errors
