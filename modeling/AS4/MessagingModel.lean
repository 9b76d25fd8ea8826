import AS4.SignatureModel

/-!
The ebMS records (`eb3:`): user messages, signal messages and the messaging header
that carries them. A class whose one field is its text is that text.
-/

namespace MessagingModel
open ElementTree ElementCodec ElementCodec.Codec PythonData AS4Libraries AS4Errors SignatureModel

def eb3 (localName : String) : QName :=
  ⟨"http://docs.oasis-open.org/ebxml-msg/ebms/v3.0/ns/core/200704/", localName⟩

def ebbpsig (localName : String) : QName := ⟨"http://docs.oasis-open.org/ebxml-bp/ebbp-signals-2.0", localName⟩

def soap12 (localName : String) : QName := ⟨"http://www.w3.org/2003/05/soap-envelope", localName⟩

def xmlNamespace (localName : String) : QName := ⟨"http://www.w3.org/XML/1998/namespace", localName⟩

/-- `str | LangValue | None` -/
def langScalar : Scalar (Option String) :=
  Scalar.optional { Scalar.string with alternative := [.key "str"] }

/-- A string attribute that may not be empty. -/
def nonEmptyString : Scalar String :=
  { Scalar.string with
    decode := fun s => if s = "" then .error "String should have at least 1 character" else .ok s }

structure Description where
  value : String
  lang : Option String := none

def Description.codec : Codec Description :=
  record (pair (stringText "value") (attributeOr langScalar none (xmlNamespace "lang") "lang"))
    (fun (value, lang) => ⟨value, lang⟩) (fun description => (description.value, description.lang))

section MessageInfo

structure MessageInfo where
  timestamp : Datetime
  messageId : String
  refToMessageId : Option String := none

def MessageInfo.codec [Libraries] : Codec MessageInfo :=
  record
    (pair (singular (eb3 "Timestamp") "timestamp" (requiredText datetimeScalar "value"))
      (pair (singular (eb3 "MessageId") "message_id" (stringText "value"))
        (optional (eb3 "RefToMessageId") "ref_to_message_id" (stringText "value"))))
    (fun (timestamp, messageId, refToMessageId) => ⟨timestamp, messageId, refToMessageId⟩)
    (fun info => (info.timestamp, info.messageId, info.refToMessageId))

end MessageInfo

section Parties

structure PartyId where
  value : String := ""
  typeValue : Option String := none

def PartyId.codec : Codec PartyId :=
  record (pair (textOr .string "" "value") (optionalAttribute .string (plain "type") "type_value"))
    (fun (value, typeValue) => ⟨value, typeValue⟩) (fun party => (party.value, party.typeValue))

/-- `PartyFrom` and `PartyTo` -/
structure Party where
  partyId : PartyId
  role : String

def Party.codec : Codec Party :=
  record
    (pair (singular (eb3 "PartyId") "party_id" PartyId.codec) (singular (eb3 "Role") "role" (stringText "value")))
    (fun (partyId, role) => ⟨partyId, role⟩) (fun party => (party.partyId, party.role))

structure PartyInfo where
  partyFrom : Party
  partyTo : Party

def PartyInfo.codec : Codec PartyInfo :=
  record
    (pair (singular (eb3 "From") "party_from" Party.codec) (singular (eb3 "To") "party_to" Party.codec))
    (fun (partyFrom, partyTo) => ⟨partyFrom, partyTo⟩) (fun info => (info.partyFrom, info.partyTo))

end Parties

section Collaboration

structure AgreementRef where
  value : String
  typeValue : Option String := none
  pmode : Option String := none

def AgreementRef.codec : Codec AgreementRef :=
  record
    (pair (stringText "value")
      (pair (optionalAttribute .string (plain "type") "type_value")
        (optionalAttribute .string (plain "pmode") "pmode")))
    (fun (value, typeValue, pmode) => ⟨value, typeValue, pmode⟩) (fun ref => (ref.value, ref.typeValue, ref.pmode))

structure Service where
  value : String
  typeValue : Option String := none

def Service.codec : Codec Service :=
  record (pair (stringText "value") (optionalAttribute .string (plain "type") "type_value"))
    (fun (value, typeValue) => ⟨value, typeValue⟩) (fun service => (service.value, service.typeValue))

structure CollaborationInfo where
  agreementRef : Option AgreementRef := none
  service : Service
  action : String
  conversationId : String

def CollaborationInfo.codec : Codec CollaborationInfo :=
  record
    (pair (optional (eb3 "AgreementRef") "agreement_ref" AgreementRef.codec)
      (pair (singular (eb3 "Service") "service" Service.codec)
        (pair (singular (eb3 "Action") "action" (stringText "value"))
          (singular (eb3 "ConversationId") "conversation_id" (stringText "value")))))
    (fun (agreementRef, service, action, conversationId) => ⟨agreementRef, service, action, conversationId⟩)
    (fun info => (info.agreementRef, info.service, info.action, info.conversationId))

end Collaboration

section Properties

structure Property where
  propertyType : Option String := none
  value : String
  name : String
  deriving DecidableEq

def Property.codec : Codec Property :=
  record
    (pair (optionalAttribute .string (plain "type") "property_type")
      (pair (stringText "value") (requiredAttribute .string (plain "name") "name")))
    (fun (propertyType, value, name) => ⟨propertyType, value, name⟩)
    (fun property => (property.propertyType, property.value, property.name))

structure MessageProperties where
  properties : List Property := []

def MessageProperties.codec : Codec MessageProperties :=
  record (manyMinOne (eb3 "Property") "properties" Property.codec) MessageProperties.mk MessageProperties.properties

def MessageProperties.getProperty (properties : MessageProperties) (name : String) : Option Property :=
  properties.properties.find? fun property => property.name == name

def MessageProperties.originalSender (properties : MessageProperties) : Option Property :=
  properties.getProperty "originalSender"

def MessageProperties.finalRecipient (properties : MessageProperties) : Option Property :=
  properties.getProperty "finalRecipient"

end Properties

section Payloads

structure Schema where
  location : String
  version : Option String := none
  namespaceName : Option String := none

def Schema.codec : Codec Schema :=
  record
    (pair (requiredAttribute .string (plain "location") "location")
      (pair (optionalAttribute nonEmptyString (plain "version") "version")
        (optionalAttribute nonEmptyString (plain "namespace") "namespace")))
    (fun (location, version, namespaceName) => ⟨location, version, namespaceName⟩)
    (fun schema => (schema.location, schema.version, schema.namespaceName))

structure PartProperties where
  properties : List Property := []

def PartProperties.codec : Codec PartProperties :=
  record (manyMinOne (eb3 "Property") "properties" Property.codec) PartProperties.mk PartProperties.properties

def PartProperties.compressionType (part : PartProperties) : Option String :=
  (part.properties.find? fun property => property.name == "CompressionType").map (·.value)

structure PartInfo where
  partSchema : List Schema := []
  description : List Description := []
  partProperties : PartProperties
  href : Option String := none

def PartInfo.codec : Codec PartInfo :=
  record
    (pair (many (eb3 "Schema") "part_schema" Schema.codec)
      (pair (many (eb3 "Description") "description" Description.codec)
        (pair (singular (eb3 "PartProperties") "part_properties" PartProperties.codec)
          (optionalAttribute .string (plain "href") "href"))))
    (fun (schemas, descriptions, properties, href) => ⟨schemas, descriptions, properties, href⟩)
    (fun part => (part.partSchema, part.description, part.partProperties, part.href))

structure PayloadInfo where
  partInfo : List PartInfo := []

def PayloadInfo.codec : Codec PayloadInfo :=
  record (manyMinOne (eb3 "PartInfo") "part_info" PartInfo.codec) PayloadInfo.mk PayloadInfo.partInfo

end Payloads

structure UserMessage where
  messageInfo : MessageInfo
  partyInfo : PartyInfo
  collaborationInfo : CollaborationInfo
  messageProperties : Option MessageProperties := none
  payloadInfo : Option PayloadInfo := none
  mpc : Option String := none

def UserMessage.codec [Libraries] : Codec UserMessage :=
  record
    (pair (singular (eb3 "MessageInfo") "message_info" MessageInfo.codec)
      (pair (singular (eb3 "PartyInfo") "party_info" PartyInfo.codec)
        (pair (singular (eb3 "CollaborationInfo") "collaboration_info" CollaborationInfo.codec)
          (pair (optional (eb3 "MessageProperties") "message_properties" MessageProperties.codec)
            (pair (optional (eb3 "PayloadInfo") "payload_info" PayloadInfo.codec)
              (optionalAttribute .string (plain "mpc") "mpc"))))))
    (fun (info, parties, collaboration, properties, payloads, mpc) =>
      ⟨info, parties, collaboration, properties, payloads, mpc⟩)
    (fun message => (message.messageInfo, message.partyInfo, message.collaborationInfo, message.messageProperties,
      message.payloadInfo, message.mpc))

section Signals

structure MessagePartNRInformation where
  references : List DsigReference

def MessagePartNRInformation.codec : Codec MessagePartNRInformation :=
  record (someOf (ds "Reference") "references" DsigReference.codec) MessagePartNRInformation.mk
    MessagePartNRInformation.references

structure NonRepudiationInformation where
  messagePartNrInformation : List MessagePartNRInformation := []

def NonRepudiationInformation.codec : Codec NonRepudiationInformation :=
  record
    (many (ebbpsig "MessagePartNRInformation") "message_part_nr_information" MessagePartNRInformation.codec)
    NonRepudiationInformation.mk NonRepudiationInformation.messagePartNrInformation

structure PullRequest where
  mpc : Option String := none
  wildcardContent : List Node := []

def PullRequest.codec : Codec PullRequest :=
  record (withWildcard none (optionalAttribute .string (plain "mpc") "mpc"))
    (fun (mpc, content) => ⟨mpc, content⟩) (fun request => (request.mpc, request.wildcardContent))

structure Receipt where
  nonRepudiationInformation : Option NonRepudiationInformation := none
  wildcardContent : List Node := []

def Receipt.codec : Codec Receipt :=
  record
    (withWildcard none
      (optional (ebbpsig "NonRepudiationInformation") "non_repudiation_information" NonRepudiationInformation.codec))
    (fun (information, content) => ⟨information, content⟩)
    (fun receipt => (receipt.nonRepudiationInformation, receipt.wildcardContent))

structure Error where
  description : Option Description := none
  errorDetail : Option String := none
  category : Option String := none
  refToMessageInError : Option String := none
  errorCode : String
  origin : Option String := none
  severity : String
  shortDescription : Option String := none

def Error.codec : Codec Error :=
  record
    (pair (optional (eb3 "Description") "description" Description.codec)
      (pair (optional (eb3 "ErrorDetail") "error_detail" (stringText "value"))
        (pair (optionalAttribute .string (plain "category") "category")
          (pair (optionalAttribute .string (plain "refToMessageInError") "ref_to_message_in_error")
            (pair (requiredAttribute .string (plain "errorCode") "error_code")
              (pair (optionalAttribute .string (plain "origin") "origin")
                (pair (requiredAttribute .string (plain "severity") "severity")
                  (optionalAttribute .string (plain "shortDescription") "short_description"))))))))
    (fun (description, detail, category, ref, code, origin, severity, shortDescription) =>
      ⟨description, detail, category, ref, code, origin, severity, shortDescription⟩)
    (fun error => (error.description, error.errorDetail, error.category, error.refToMessageInError, error.errorCode,
      error.origin, error.severity, error.shortDescription))

structure SignalMessage where
  messageInfo : MessageInfo
  pullRequest : Option PullRequest := none
  receipt : Option Receipt := none
  errors : List Error := []
  wildcardContent : List Node := []

def SignalMessage.codec [Libraries] : Codec SignalMessage :=
  record
    (withWildcard none
      (pair (singular (eb3 "MessageInfo") "message_info" MessageInfo.codec)
        (pair (optional (eb3 "PullRequest") "pull_request" PullRequest.codec)
          (pair (optional (eb3 "Receipt") "receipt" Receipt.codec) (many (eb3 "Error") "errors" Error.codec)))))
    (fun ((info, request, receipt, errors), content) => ⟨info, request, receipt, errors, content⟩)
    (fun signal => ((signal.messageInfo, signal.pullRequest, signal.receipt, signal.errors), signal.wildcardContent))

end Signals

structure Messaging where
  etreeElement : Option Located := none
  signalMessages : List SignalMessage := []
  userMessages : List UserMessage := []
  messagingId : Option String := none
  mustUnderstand : Option Bool := none
  wildcardContent : List Node := []

def Messaging.codec [Libraries] : Codec Messaging :=
  record
    (withWildcard none
      (pair Codec.etreeElement
        (pair (many (eb3 "SignalMessage") "signal_messages" SignalMessage.codec)
          (pair (many (eb3 "UserMessage") "user_messages" UserMessage.codec)
            (pair (optionalAttribute .string (wsu "Id") "messaging_id")
              (optionalAttribute boolScalar (soap12 "mustUnderstand")
                "w3_org_2003_05_soap_envelope_must_understand"))))))
    (fun ((element, signals, users, id, mustUnderstand), content) =>
      ⟨element, signals, users, id, mustUnderstand, content⟩)
    (fun messaging => ((messaging.etreeElement, messaging.signalMessages, messaging.userMessages,
      messaging.messagingId, messaging.mustUnderstand), messaging.wildcardContent))

def Messaging.onlyOne {α : Type} (messages : List α) (elementName : String) : Except PyError (Option α) :=
  match messages with
  | [] => .ok none
  | [only] => .ok (some only)
  | _ => .error (.receiptable (bundledMessagesNotSupported.new
      s!"found {messages.length} {elementName} elements, bundling is not supported"))

def Messaging.signalMessage (messaging : Messaging) : Except PyError (Option SignalMessage) :=
  Messaging.onlyOne messaging.signalMessages "eb:SignalMessage"

def Messaging.userMessage (messaging : Messaging) : Except PyError (Option UserMessage) :=
  Messaging.onlyOne messaging.userMessages "eb:UserMessage"

end MessagingModel
