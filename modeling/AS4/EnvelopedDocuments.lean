import AS4.BuiltMessages
import AS4.MessageReadings

/-!
The business document a build envelopes its payload in. Whatever the root of the payload,
it is read back beside the header it was put next to, and the header says what the build
was asked to say.
-/

namespace EnvelopedDocuments
open ElementTree ElementCodec ElementCodec.Codec FallibleSteps PythonData AS4Libraries SignatureModel BusinessDocument MessageParsing
  MessageBuilding RecordLaws RecordReadings WrittenEnvelope

variable [Libraries] {args : PeppolAS4MessageBuilderArgs} {draws : Draws} {payload : Bytes}

section Shape

/-- The header of the business document for a root element of this name. -/
def businessHeader (args : PeppolAS4MessageBuilderArgs) (draws : Draws) (rootElementName : String) :
    StandardBusinessDocumentHeader where
  headerVersion := "1.0"
  sender := ⟨{ value := args.sender, authority := some iso6523ActorId }⟩
  receiver := ⟨{ value := args.recipient, authority := some iso6523ActorId }⟩
  documentIdentification :=
    { standard := args.documentTypeIdentifier.rootElementNamespace
      typeVersion := args.documentTypeIdentifier.version
      instanceIdentifier := args.documentIdentificationInstanceIdentifier
      documentIdentificationType := rootElementName
      creationDateAndTime := draws.documentTime }
  businessScope :=
    ⟨[{ scopeType := "DOCUMENTID", instanceIdentifier := args.documentTypeIdentifier.identifierValue,
        identifier := some args.documentTypeIdentifier.scheme },
      { scopeType := "PROCESSID", instanceIdentifier := args.processIdentifier, identifier := some cenbiiProcidUbl },
      { scopeType := "COUNTRY_C1", instanceIdentifier := args.c1CountryId }]⟩

/-- The business document around the root of a payload. -/
def businessOver (args : PeppolAS4MessageBuilderArgs) (draws : Draws) (rootElementName : String) (root : Node) :
    StandardBusinessDocument := ⟨businessHeader args draws rootElementName, [root]⟩

def headerElement (args : PeppolAS4MessageBuilderArgs) (draws : Draws) (rootElementName : String) : Node :=
  StandardBusinessDocumentHeader.codec.element (sbdh "StandardBusinessDocumentHeader")
    (businessHeader args draws rootElementName)

def businessElement (args : PeppolAS4MessageBuilderArgs) (draws : Draws) (rootElementName : String) (root : Node) : Node :=
  StandardBusinessDocument.codec.element (sbdh "StandardBusinessDocument") (businessOver args draws rootElementName root)

theorem businessElement_content {name : String} {root : Node} :
    (businessElement args draws name root).content = [headerElement args draws name, root] := rfl

theorem envelopePayload_shape {enveloped : Bytes} : envelopePayload args draws payload = .ok enveloped ↔
    ∃ name root, args.documentTypeIdentifier.rootElementName = .ok name ∧ Libraries.parseXml payload = some root ∧
      enveloped = Libraries.tostring (businessElement args draws name root) := by
  simp only [envelopePayload, getStandardBusinessDocument, bind_ok, pure_ok, parseXml_ok]
  constructor
  · rintro ⟨_, ⟨name, named, rfl⟩, root, parsed, rfl⟩
    exact ⟨name, root, named, parsed, rfl⟩
  · rintro ⟨name, root, named, parsed, rfl⟩
    exact ⟨_, ⟨name, named, rfl⟩, root, parsed, rfl⟩

end Shape

section Reading

/-- The strings of a business document show when they are read. -/
structure Documented (args : PeppolAS4MessageBuilderArgs) : Prop where
  sender : strip args.sender ≠ ""
  recipient : strip args.recipient ≠ ""
  instanceIdentifier : strip args.documentIdentificationInstanceIdentifier ≠ ""
  processIdentifier : strip args.processIdentifier ≠ ""
  country : strip args.c1CountryId ≠ ""
  rootElementNamespace : strip args.documentTypeIdentifier.rootElementNamespace ≠ ""
  rootElementName : ∀ name, args.documentTypeIdentifier.rootElementName = .ok name → strip name ≠ ""
  version : strip args.documentTypeIdentifier.version ≠ ""
  scheme : strip args.documentTypeIdentifier.scheme ≠ ""

omit [Libraries] in
/-- A text with a solid character in it shows when it is stripped. -/
theorem strip_solid {s : String} {c : Char} (inside : c ∈ s.toList) (solid : isSpace c = false) : strip s ≠ "" := by
  intro empty
  have gone : stripChars s.toList = [] := by simpa [strip] using congrArg String.toList empty
  have blank : ∀ d ∈ s.toList.dropWhile isSpace, isSpace d = true := List.rdropWhile_eq_nil_iff.mp gone
  cases left : s.toList.dropWhile isSpace with
  | nil => simp [List.dropWhile_eq_nil_iff.mp left c inside] at solid
  | cons d rest =>
      -- what is left begins with a solid character, and all of it is blank
      have first := List.head?_dropWhile_not isSpace s.toList
      rw [left] at first blank
      simp [blank d List.mem_cons_self] at first

omit [Libraries] in
theorem identifierValue_shows (identifier : BusdoxDocidQnsDocumentIdentifier) : strip identifier.identifierValue ≠ "" :=
  strip_solid (c := '#') (by simp [BusdoxDocidQnsDocumentIdentifier.identifierValue, toString]) rfl

omit [Libraries] in
theorem action_shows (identifier : BusdoxDocidQnsDocumentIdentifier) : strip identifier.action ≠ "" :=
  strip_solid (c := '#') (by simp [BusdoxDocidQnsDocumentIdentifier.action, BusdoxDocidQnsDocumentIdentifier.identifierValue, toString]) rfl

theorem businessHeader_admits {name : String} :
    StandardBusinessDocumentHeader.codec.admits (businessHeader args draws name) := by
  simp [StandardBusinessDocumentHeader.codec, Participant.codec, Identifier.codec, DocumentIdentification.codec,
    BusinessScope.codec, Scope.codec, stringText, businessHeader]

theorem businessHeader_readable {name : String} (stamps : Stamps draws.documentTime) (documented : Documented args)
    (named : args.documentTypeIdentifier.rootElementName = .ok name) :
    StandardBusinessDocumentHeader.codec.readable (businessHeader args draws name) := by
  have stamped : (requiredText datetimeScalar "value").readable draws.documentTime := requiredText_readable.mpr stamps
  have words : strip "1.0" ≠ "" ∧ strip "DOCUMENTID" ≠ "" ∧ strip "PROCESSID" ≠ "" ∧ strip "COUNTRY_C1" ≠ "" ∧
      strip cenbiiProcidUbl ≠ "" := by decide
  simp [StandardBusinessDocumentHeader.codec, Participant.codec, Identifier.codec, DocumentIdentification.codec,
    BusinessScope.codec, Scope.codec, stringText, businessHeader, stamped, words, documented.sender, documented.recipient,
    documented.instanceIdentifier, documented.processIdentifier, documented.country, documented.rootElementNamespace,
    documented.rootElementName name named, documented.version, documented.scheme, identifierValue_shows]

/-- The root is the wildcard content of the document. -/
theorem business_wildcard {name : String} {root : Node} {tag : QName} (rooted : root.tag? = some tag)
    (other : tag ≠ sbdh "StandardBusinessDocumentHeader") :
    wildcardContent [sbdh "StandardBusinessDocumentHeader"] none false (businessElement args draws name root).content =
      [root] := by
  have header : ∀ node ∈ [headerElement args draws name], ∃ tag ∈ [sbdh "StandardBusinessDocumentHeader"],
      node.Tagged tag := List.forall_mem_singleton.mpr ⟨_, List.mem_cons_self, rfl⟩
  have skipped := @wildcardContent_fields [sbdh "StandardBusinessDocumentHeader"] none "" _ [root] header
  apply skipped.trans
  cases root with
  | element tag' attrib content =>
      obtain rfl : tag' = tag := Option.some.inj rooted
      simp [wildcardContent, wild, Node.tag?, other]
  | _ => simp [Node.tag?] at rooted

/-- A root element that is not another header is read beside the header as what it is. -/
theorem business_rereads {name : String} {root : Node} (stamps : Stamps draws.documentTime) (documented : Documented args)
    (named : args.documentTypeIdentifier.rootElementName = .ok name) {tag : QName} (rooted : root.tag? = some tag)
    (other : tag ≠ sbdh "StandardBusinessDocumentHeader") :
    ∃ business, StandardBusinessDocument.codec.validate (.root (businessElement args draws name root)) = .ok business ∧
      StandardBusinessDocument.codec.reread (.root (businessElement args draws name root))
        (businessOver args draws name root) business := by
  have alone : elementsTagged (sbdh "StandardBusinessDocumentHeader") [headerElement args draws name, root] =
      [headerElement args draws name] := by
    have first : (headerElement args draws name).Tagged (sbdh "StandardBusinessDocumentHeader") := rfl
    have second : ¬ root.Tagged (sbdh "StandardBusinessDocumentHeader") := by simpa [Node.Tagged, rooted] using other
    rw [elementsTagged, List.filter_cons_of_pos (by simpa using first), List.filter_cons_of_neg (by simpa using second),
      List.filter_nil]
  have nodes := (Located.root (businessElement args draws name root)).childrenTagged_nodes
    (sbdh "StandardBusinessDocumentHeader")
  obtain ⟨child, found, placed⟩ : ∃ child, (Located.root (businessElement args draws name root)).childrenTagged
      (sbdh "StandardBusinessDocumentHeader") = [child] ∧ child.node = headerElement args draws name := by
    rw [show (Located.root (businessElement args draws name root)).node.content = _ from businessElement_content, alone] at nodes
    obtain ⟨child, rest, same, head, tail⟩ := List.map_eq_cons_iff.mp nodes
    obtain rfl := List.map_eq_nil_iff.mp tail
    exact ⟨child, same, head⟩
  obtain ⟨reads, kept⟩ := rereads_element StandardBusinessDocumentHeader.lawful businessHeader_admits placed
  obtain ⟨header, read⟩ := reads.mp (businessHeader_readable stamps documented named)
  have looked : lookupChildren (.root (businessElement args draws name root)) (sbdh "StandardBusinessDocumentHeader")
      "standard_business_document_header" = some (clark (sbdh "StandardBusinessDocumentHeader"), [child]) := by
    simp [lookupChildren, found]
  refine ⟨⟨header, [root]⟩, ?_, ?_⟩
  · simp only [StandardBusinessDocument.codec, record_ok, withWildcard_ok]
    exact ⟨(header, [root]), ⟨singular_ok.mpr ⟨_, child, looked, read⟩, business_wildcard rooted other⟩, rfl⟩
  · simp only [StandardBusinessDocument.codec, record_reread, withWildcard_reread, singular_reread]
    exact ⟨⟨child, (Located.mem_childrenTagged.mp (found ▸ List.mem_singleton_self child)).1, placed, kept _ read⟩, rfl⟩

/-- The header of the document is the one the schema is asked about. -/
theorem business_valid {name : String} {root : Node}
    (valid : Libraries.sbdhValidationError (headerElement args draws name) = none) :
    requireSchemaValidHeader (.root (businessElement args draws name root)) = .ok () := by
  have placed := find_nodes [sbdh "StandardBusinessDocumentHeader"] (.root (businessElement args draws name root))
  obtain ⟨header, found, node⟩ := Option.map_eq_some_iff.mp (placed.trans (b := some (headerElement args draws name)) rfl)
  simp only [requireSchemaValidHeader, found, node, valid]

end Reading

end EnvelopedDocuments
