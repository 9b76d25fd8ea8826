import AS4.SignatureModel

/-!
The standard business document of UN/CEFACT: its header and the wildcard content
that carries the business document itself.
-/

namespace BusinessDocument
open ElementTree ElementCodec ElementCodec.Codec PythonData AS4Libraries SignatureModel

def sbdh (localName : String) : QName :=
  ⟨"http://www.unece.org/cefact/namespaces/StandardBusinessDocumentHeader", localName⟩

structure Identifier where
  authority : Option String := none
  value : String

def Identifier.codec : Codec Identifier :=
  record (pair (optionalAttribute .string (plain "Authority") "authority") (stringText "value"))
    (fun (authority, value) => ⟨authority, value⟩) (fun identifier => (identifier.authority, identifier.value))

/-- `Sender` and `Receiver` -/
structure Participant where
  identifier : Identifier

def Participant.codec : Codec Participant :=
  record (singular (sbdh "Identifier") "identifier" Identifier.codec) Participant.mk Participant.identifier

structure DocumentIdentification where
  standard : String
  typeVersion : String
  instanceIdentifier : String
  documentIdentificationType : String
  creationDateAndTime : Datetime

def DocumentIdentification.codec [Libraries] : Codec DocumentIdentification :=
  record
    (pair (singular (sbdh "Standard") "standard" (stringText "value"))
      (pair (singular (sbdh "TypeVersion") "type_version" (stringText "value"))
        (pair (singular (sbdh "InstanceIdentifier") "instance_identifier" (stringText "value"))
          (pair (singular (sbdh "Type") "document_identification_type" (stringText "value"))
            (singular (sbdh "CreationDateAndTime") "creation_date_and_time"
              (requiredText datetimeScalar "value"))))))
    (fun (standard, version, instanceIdentifier, documentType, created) =>
      ⟨standard, version, instanceIdentifier, documentType, created⟩)
    (fun document => (document.standard, document.typeVersion, document.instanceIdentifier,
      document.documentIdentificationType, document.creationDateAndTime))

structure Scope where
  scopeType : String
  instanceIdentifier : String
  identifier : Option String := none

def Scope.codec : Codec Scope :=
  record
    (pair (singular (sbdh "Type") "scope_type" (stringText "value"))
      (pair (singular (sbdh "InstanceIdentifier") "instance_identifier" (stringText "value"))
        (optional (sbdh "Identifier") "identifier" (stringText "value"))))
    (fun (scopeType, instanceIdentifier, identifier) => ⟨scopeType, instanceIdentifier, identifier⟩)
    (fun scope => (scope.scopeType, scope.instanceIdentifier, scope.identifier))

structure BusinessScope where
  scopes : List Scope

def BusinessScope.codec : Codec BusinessScope :=
  record (someOf (sbdh "Scope") "scopes" Scope.codec) BusinessScope.mk BusinessScope.scopes

structure StandardBusinessDocumentHeader where
  headerVersion : String
  sender : Participant
  receiver : Participant
  documentIdentification : DocumentIdentification
  businessScope : BusinessScope

def StandardBusinessDocumentHeader.codec [Libraries] : Codec StandardBusinessDocumentHeader :=
  record
    (pair (singular (sbdh "HeaderVersion") "header_version" (stringText "value"))
      (pair (singular (sbdh "Sender") "sender" Participant.codec)
        (pair (singular (sbdh "Receiver") "receiver" Participant.codec)
          (pair (singular (sbdh "DocumentIdentification") "document_identification" DocumentIdentification.codec)
            (singular (sbdh "BusinessScope") "business_scope" BusinessScope.codec)))))
    (fun (version, sender, receiver, document, scope) => ⟨version, sender, receiver, document, scope⟩)
    (fun header => (header.headerVersion, header.sender, header.receiver, header.documentIdentification,
      header.businessScope))

structure StandardBusinessDocument where
  standardBusinessDocumentHeader : StandardBusinessDocumentHeader
  wildcardContent : List Node := []

def StandardBusinessDocument.codec [Libraries] : Codec StandardBusinessDocument :=
  record
    (withWildcard none
      (singular (sbdh "StandardBusinessDocumentHeader") "standard_business_document_header"
        StandardBusinessDocumentHeader.codec))
    (fun (header, content) => ⟨header, content⟩)
    (fun document => (document.standardBusinessDocumentHeader, document.wildcardContent))

end BusinessDocument
