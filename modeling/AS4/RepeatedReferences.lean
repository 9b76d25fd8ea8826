import AS4.WrittenIdentifiers
import AS4.RecordReadings
import AS4.RecordLaws

/-!
The references of a received signature, written again in a receipt. What was read can be
written, brings in no identifier and no name that was not in the element it was read
from, and is read back as the same reference.
-/

namespace RepeatedReferences
open ElementTree ElementCodec ElementCodec.Codec FallibleSteps PythonData AS4Libraries SignatureModel EnvelopeModel
  Verification RecordLaws RecordReadings WrittenIdentifiers

section Content
variable [Libraries]

omit [Libraries] in
theorem wildcardContent_sublist {existing : List QName} {choices : Option (List QName)} {keeping : Bool}
    {content : List Node} : (wildcardContent existing choices keeping content).Sublist content := by
  induction content generalizing keeping with
  | nil => simp
  | cons node rest ih =>
      cases node <;> simp only [wildcardContent] <;> split <;>
        first | exact ih.cons_cons _ | exact ih.cons _

omit [Libraries] in
/-- What was kept as wild is all kept again. -/
theorem wildcardContent_again {existing : List QName} {choices : Option (List QName)} {first second : Bool}
    (weaker : first = true → second = true) {content : List Node} :
    wildcardContent existing choices second (wildcardContent existing choices first content) =
      wildcardContent existing choices first content := by
  induction content generalizing first second with
  | nil => simp
  | cons node rest ih =>
      have silent : ∀ again, wildcardContent existing choices again (wildcardContent existing choices false rest) =
          wildcardContent existing choices false rest := fun again => ih (by simp)
      have kept : wildcardContent existing choices true (wildcardContent existing choices true rest) =
          wildcardContent existing choices true rest := ih (by simp)
      cases node with
      | text data =>
          cases first with
          | true => simp [wildcardContent, weaker rfl, kept]
          | false => simpa [wildcardContent] using silent second
      | element _ _ _ | comment _ | processingInstruction _ _ _ | entity _ =>
          simp only [wildcardContent]
          split
          · rename_i wanted
            simp [wildcardContent, wanted, kept]
          · exact silent second

omit [Libraries] in
theorem identifiersIn_sublist {first second : List Node} (kept : first.Sublist second) :
    (identifiersIn first).Sublist (identifiersIn second) := by
  induction kept with
  | slnil => simp
  | cons node _ ih =>
      rw [identifiersIn_cons]
      exact ih.trans (List.sublist_append_right ..)
  | cons_cons node _ ih =>
      rw [identifiersIn_cons, identifiersIn_cons]
      exact (List.Sublist.refl _).append ih

theorem namedIn_sublist {first second : List Node} (kept : first.Sublist second) (named : NamedIn second) :
    NamedIn first := by
  induction kept with
  | slnil => exact named
  | cons node _ ih => exact ih ((namedIn_cons ..).mp named).2
  | cons_cons node _ ih =>
      have whole := (namedIn_cons ..).mp named
      exact (namedIn_cons ..).mpr ⟨whole.1, ih whole.2⟩

omit [Libraries] in
/-- The identifiers of a node are its own and those of its content. -/
theorem identifiers_node (node : Node) : identifiers node = identifiersOf node ++ identifiersIn node.content := by
  cases node <;> simp [identifiers, identifiersIn, Node.subtrees, Node.content, subtreesIn]

theorem named_content {node : Node} (named : Named node) : NamedIn node.content := by
  cases node with
  | element tag attrib content =>
      intro below member
      exact named below (List.mem_cons_of_mem _ member)
  | _ => simp [Node.content]

omit [Libraries] in
theorem foundChildren_sublist (n : Located) (tag : QName) (name : String) :
    ((foundChildren n tag name).map (·.node)).Sublist n.node.content := by
  have tagged : ∀ other, ((n.childrenTagged other).map (·.node)).Sublist n.node.content := by
    intro other
    rw [n.childrenTagged_nodes]
    exact List.filter_sublist
  unfold foundChildren lookupChildren
  split
  · split
    · simp
    · rename_i first rest byName
      simpa [← byName] using tagged _
  · rename_i first rest byAlias
    simpa [← byAlias] using tagged _

end Content

section Records
variable [Libraries] {α : Type} {c : Codec α} {tag : QName} {name : String} {n : Located}

/-- A record can be written again, and brings in nothing that its source does not. -/
structure Repeats (c : Codec α) (tag : QName) (value : α) (source : Node) : Prop where
  admits : c.admits value
  named : Named source → Named (c.element tag value)
  identified : (identifiers (c.element tag value)).Sublist (identifiers source)

/-- So can the records of a list, in their order. -/
theorem repeats_list {values : List α}
    (each : List.Forall₂ (fun child value => Repeats c tag value child.node) (foundChildren n tag name) values) :
    (∀ value ∈ values, c.admits value) ∧ (Named n.node → NamedIn (values.map (c.element tag))) ∧
      (identifiersIn (values.map (c.element tag))).Sublist (identifiersIn n.node.content) := by
  have inside := foundChildren_sublist n tag name
  have whole : (∀ value ∈ values, c.admits value) ∧
      (NamedIn ((foundChildren n tag name).map (·.node)) → NamedIn (values.map (c.element tag))) ∧
        (identifiersIn (values.map (c.element tag))).Sublist
          (identifiersIn ((foundChildren n tag name).map (·.node))) := by
    generalize foundChildren n tag name = children at each
    clear inside
    induction each with
    | nil => simp
    | cons one _ ih =>
        obtain ⟨admits, named, identified⟩ := ih
        refine ⟨List.forall_mem_cons.mpr ⟨one.admits, admits⟩, ?_, ?_⟩
        · simp only [List.map_cons, namedIn_cons]
          rintro ⟨first, rest⟩
          exact ⟨one.named first, named rest⟩
        · simp only [List.map_cons, identifiersIn_cons]
          exact one.identified.append identified
  exact ⟨whole.1, fun named => whole.2.1 (namedIn_sublist inside (named_content named)),
    whole.2.2.trans (identifiersIn_sublist inside)⟩

/-- And the one record of a singular field. -/
theorem repeats_child {value : α} {child : Located} {key : String}
    (looked : lookupChildren n tag name = some (key, [child])) (one : Repeats c tag value child.node) :
    c.admits value ∧ (Named n.node → Named (c.element tag value)) ∧
      (identifiers (c.element tag value)).Sublist (identifiersIn n.node.content) := by
  have found : foundChildren n tag name = [child] := by simp [foundChildren, looked]
  have each : List.Forall₂ (fun child value => Repeats c tag value child.node) (foundChildren n tag name) [value] := by
    rw [found]
    exact .cons one .nil
  obtain ⟨admits, named, identified⟩ := repeats_list each
  exact ⟨admits value List.mem_cons_self, fun source => by simpa using named source, by simpa using identified⟩

omit [Libraries] in
theorem optionalAttribute_some {attr : QName} {s : String}
    (read : (optionalAttribute .string attr name).validate n = .ok (some s)) : n.node.attribute attr = some s := by
  simp only [optionalAttribute, attributeOr] at read
  cases looked : lookupScalar (n.node.attribute attr) ("@" ++ clark attr) n name with
  | none => simp [looked] at read
  | some found =>
      obtain ⟨key, value⟩ := found
      simp only [looked, decodeAt_ok] at read
      obtain ⟨t, rfl, decoded⟩ := read
      obtain rfl : t = s := by simpa [Scalar.optional, Scalar.string, Except.map] using decoded
      exact (lookupScalar_some.mp looked).1

omit [Libraries] in
/-- An attribute that is an identifier is one of the node. -/
theorem attribute_identifies {node : Node} {value : Option String}
    (read : ∀ s, value = some s → node.attribute (plain "Id") = some s) :
    (attributeIds (attributeFragment (plain "Id") (Scalar.string.optional.encode value)).attributes).Sublist
      (identifiersOf node) := by
  cases value with
  | none => simp [Scalar.optional]
  | some s =>
      by_cases empty : s = ""
      · simp [Scalar.optional, Scalar.string, empty]
      · have carried := read s rfl
        cases node with
        | element tag attrib content =>
            have member : (plain "Id", s) ∈ attrib := mem_of_get carried
            have kept : s ∈ (attrib.filter fun entry => entry.1.localName == "Id").map (·.2) :=
              List.mem_map.mpr ⟨_, List.mem_filter.mpr ⟨member, rfl⟩, rfl⟩
            simpa [Scalar.optional, Scalar.string, empty, plain, QName.plain, identifiersOf] using kept
        | _ => simp [Node.attribute, Node.attrib] at carried

end Records

section References
variable [Libraries] {n : Located}

theorem transform_repeats {transform : Transform} (read : Transform.codec.validate n = .ok transform) :
    Repeats Transform.codec (ds "Transform") transform n.node := by
  simp only [Transform.codec, record_ok, withWildcard_ok] at read
  obtain ⟨⟨algorithm, content⟩, ⟨-, kept⟩, rfl⟩ := read
  change _ = content at kept
  have inside : content.Sublist n.node.content := by
    rw [← kept]
    exact wildcardContent_sublist
  have unidentified : attributeIds (attributeFragment (plain "Algorithm") (Scalar.string.optional.encode algorithm)).attributes =
      [] := by
    rw [attributeFragment_attributes]
    split <;> simp [plain, QName.plain]
  refine ⟨?_, ?_, ?_⟩
  · simp only [Transform.codec, record_admits, withWildcard_admits, optionalAttribute_admits, true_and]
    refine ⟨?_, fun node _ tag seen => ?_⟩
    · rw [← kept]
      exact wildcardContent_again (by simp)
    · exact absurd seen (by simp [optionalAttribute, attributeOr])
  · intro named
    rw [named_written]
    simpa [Transform.codec] using namedIn_sublist inside (named_content named)
  · rw [identifiers_written, identifiers_node]
    simp only [Transform.codec, record_dump, withWildcard_dump, optionalAttribute_dump, unidentified,
      attributeFragment_children, identifiersIn_nil, List.nil_append]
    exact (identifiersIn_sublist inside).trans (List.sublist_append_right ..)

theorem transforms_repeat {transforms : Transforms} (read : Transforms.codec.validate n = .ok transforms) :
    Repeats Transforms.codec (ds "Transforms") transforms n.node := by
  simp only [Transforms.codec, record_ok, many_ok] at read
  obtain ⟨values, each, rfl⟩ := read
  obtain ⟨admits, named, identified⟩ := repeats_list (each.imp fun _ _ one => transform_repeats one)
  refine ⟨admits, fun source => ?_, ?_⟩
  · rw [named_written]
    simpa [Transforms.codec] using named source
  · rw [identifiers_written, identifiers_node]
    simp only [Transforms.codec, record_dump, many_dump, attributeIds_nil, identifiersIn_nil, List.nil_append, List.append_nil]
    exact identified.trans (List.sublist_append_right ..)

/-- A reference that was read can be written again. -/
theorem reference_repeats {reference : DsigReference} (read : DsigReference.codec.validate n = .ok reference) :
    Repeats DsigReference.codec (ds "Reference") reference n.node := by
  simp only [DsigReference.codec, record_ok, pair_ok, singular_ok] at read
  obtain ⟨⟨transforms, method, value, id, uri, typeValue⟩, ⟨⟨_, transformsAt, looked, transformsRead⟩, -, -, idRead, -⟩, rfl⟩ :=
    read
  obtain ⟨admits, named, identified⟩ := repeats_child looked (transforms_repeat transformsRead)
  have own : (attributeIds (attributeFragment (plain "Id") (Scalar.string.optional.encode id)).attributes).Sublist
      (identifiersOf n.node) := attribute_identifies fun s given => optionalAttribute_some (given ▸ idRead)
  have words : ∀ attr s, attr.localName ≠ "Id" → attributeIds (attributeFragment attr s).attributes = [] := by
    intro attr s other
    rw [attributeFragment_attributes]
    split <;> simp [other]
  refine ⟨by simp [DsigReference.codec, DigestMethod.codec, DigestValue.codec, stringText, admits], fun source => ?_, ?_⟩
  · rw [named_written]
    simpa [DsigReference.codec, named_written, DigestMethod.codec, DigestValue.codec, stringText] using named source
  · rw [identifiers_written, identifiers_node]
    have attributes : attributeIds (DsigReference.codec.dump ⟨transforms, method, value, id, uri, typeValue⟩).attributes =
        attributeIds (attributeFragment (plain "Id") (Scalar.string.optional.encode id)).attributes := by
      simp only [DsigReference.codec, record_dump, pair_dump, append_attributes, attributeIds_append, singular_dump,
        optionalAttribute_dump, List.nil_append, words (plain "URI") _ (by decide),
        words (plain "Type") _ (by decide), List.append_nil]
    have children : identifiersIn (DsigReference.codec.dump ⟨transforms, method, value, id, uri, typeValue⟩).children ++
        identifiersIn (DsigReference.codec.dump ⟨transforms, method, value, id, uri, typeValue⟩).wildcard =
          identifiers (Transforms.codec.element (ds "Transforms") transforms) := by
      have quiet : identifiers (DigestMethod.codec.element (ds "DigestMethod") method) = [] := by
        rw [identifiers_written]
        simp only [DigestMethod.codec, record_dump, requiredAttribute_dump, words (plain "Algorithm") _ (by decide),
          attributeFragment_children, attributeFragment_wildcard, identifiersIn_nil, List.append_nil]
      have silent : identifiers (DigestValue.codec.element (ds "DigestValue") value) = [] := by
        simp [identifiers_written, DigestValue.codec, stringText]
      simp [DsigReference.codec, quiet, silent]
    rw [attributes, children]
    exact own.append identified

end References

section Signatures
variable [Libraries]

/-- What stands below a node is named and identified within it. -/
theorem child_within {n child : Located} {tag : QName} {name key : String}
    (looked : lookupChildren n tag name = some (key, [child])) :
    (Named n.node → Named child.node) ∧ (identifiers child.node).Sublist (identifiers n.node) := by
  have found : foundChildren n tag name = [child] := by simp [foundChildren, looked]
  have inside : [child.node].Sublist n.node.content := by simpa [found] using foundChildren_sublist n tag name
  constructor
  · intro named
    simpa using namedIn_sublist inside (named_content named)
  · have ids := identifiersIn_sublist inside
    rw [identifiers_node n.node]
    exact (by simpa using ids : (identifiers child.node).Sublist _).trans (List.sublist_append_right ..)

/-- The references of the signature of a document can all be written again. -/
theorem signature_repeats {document : Node} {envelope : Envelope} {signature : Signature}
    (read : Envelope.codec.validate (.root document) = .ok envelope)
    (carried : envelope.header.security.signature = some signature) :
    (∀ reference ∈ signature.signedInfo.references, DsigReference.codec.admits reference ∧
      ∃ n, DsigReference.codec.validate n = .ok reference) ∧
      (Named document →
        NamedIn (signature.signedInfo.references.map (DsigReference.codec.element (ds "Reference")))) ∧
        (identifiersIn (signature.signedInfo.references.map (DsigReference.codec.element (ds "Reference")))).Sublist
          (identifiers document) := by
  obtain ⟨-, ⟨_, headerAt, headerFound, headerRead⟩, -⟩ := Envelope.reads read
  obtain ⟨⟨_, securityAt, securityFound, securityRead⟩, -⟩ := Header.reads headerRead
  obtain ⟨_, signatureAt, signatureFound, signatureRead⟩ := (Security.reads securityRead).2 signature carried
  obtain ⟨_, infoAt, infoFound, infoRead⟩ := Signature.reads signatureRead
  have each := (SignedInfo.reads infoRead).2
  obtain ⟨headerNamed, headerWithin⟩ := child_within headerFound
  obtain ⟨securityNamed, securityWithin⟩ := child_within securityFound
  obtain ⟨signatureNamed, signatureWithin⟩ := child_within signatureFound
  obtain ⟨infoNamed, infoWithin⟩ := child_within infoFound
  obtain ⟨admits, named, identified⟩ := repeats_list (each.imp fun _ _ one => reference_repeats one)
  refine ⟨fun reference member => ⟨admits reference member, ?_⟩, fun source => ?_, ?_⟩
  · obtain ⟨n, -, one⟩ := forall₂_source each member
    exact ⟨n, one⟩
  · exact named (infoNamed (signatureNamed (securityNamed (headerNamed source))))
  · have within : (identifiersIn infoAt.node.content).Sublist (identifiers infoAt.node) := by
      rw [identifiers_node]
      exact List.sublist_append_right ..
    exact identified.trans (within.trans (infoWithin.trans (signatureWithin.trans (securityWithin.trans headerWithin))))

omit [Libraries] in
/-- The reference can be read when it is written again: its digest algorithm is not
empty, and an empty transform algorithm is not mistaken for an element of that name. -/
def Rereadable (reference : DsigReference) : Prop :=
  reference.digestMethod.algorithm ≠ "" ∧
    ∀ transform ∈ reference.transforms.transforms, transform.algorithm.getD "" = "" →
      ∀ node ∈ transform.wildcardContent, ¬ node.Tagged (.plain "algorithm")

omit [Libraries] in
theorem transform_readable {transform : Transform} : Transform.codec.readable transform ↔
    (transform.algorithm.getD "" = "" → ∀ node ∈ transform.wildcardContent, ¬ node.Tagged (.plain "algorithm")) := by
  by_cases empty : transform.algorithm.getD "" = ""
  · simp [Transform.codec, optionalAttribute, attributeOr, Scalar.optional, Scalar.string, empty]
  · simp [Transform.codec, optionalAttribute, attributeOr, Scalar.optional, Scalar.string, empty, Except.map]

omit [Libraries] in
/-- The digest value of a reference that was read is still one. -/
theorem reference_readable {n : Located} {reference : DsigReference}
    (read : DsigReference.codec.validate n = .ok reference) :
    DsigReference.codec.readable reference ↔ Rereadable reference := by
  have valued : strip reference.digestValue.text ≠ "" := by
    simp only [DsigReference.codec, record_ok, pair_ok, singular_ok, DigestValue.codec, stringText, requiredText_ok] at read
    obtain ⟨_, ⟨-, -, ⟨_, child, -, _, ⟨s, stripped, decoded⟩, valued⟩, -⟩, rfl⟩ := read
    rw [← valued, ← Except.ok.inj decoded]
    have solid := strippedText_ne stripped
    unfold strippedText at stripped
    split at stripped
    · simp at stripped
    · rw [← Option.some.inj stripped, strip_strip]
      assumption
  simp only [DsigReference.codec, record_readable, pair_readable, singular_readable, Transforms.codec, many_readable,
    transform_readable, DigestMethod.codec, requiredAttribute_string_readable, DigestValue.codec, stringText,
    requiredText_string_readable, optionalAttribute_string_readable, and_true, valued, ne_eq, not_false_eq_true, Rereadable]
  exact and_comm

omit [Libraries] in
/-- Whoever reads it again is shown the same reference. -/
theorem reference_same {n : Located} {before after : DsigReference} (read : DsigReference.codec.reread n before after) :
    ComparableReferenceFields.fromReference after = ComparableReferenceFields.fromReference before := by
  obtain ⟨transforms, method, value, -, uri⟩ := DsigReference.rereads read
  have uris : (written before.uri).getD "" = before.uri.getD "" := by
    cases before.uri with
    | none => rfl
    | some s => by_cases empty : s = "" <;> simp [written, Option.filter, empty]
  have algorithms : ∀ algorithm : Option String,
      (written algorithm).filter (· ≠ "") = algorithm.filter (· ≠ "") := by
    intro algorithm
    cases algorithm with
    | none => rfl
    | some s => by_cases empty : s = "" <;> simp [written, Option.filter, empty]
  simp only [ComparableReferenceFields.fromReference, uri, uris, method, value, strip_strip, transformAlgorithms, transforms,
    List.map_map, List.filterMap_map, Function.comp_def, algorithms]

end Signatures

end RepeatedReferences
