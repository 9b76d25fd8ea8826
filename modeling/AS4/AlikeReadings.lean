import AS4.WrappedTexts

/-!
What is read of two documents that differ only by wrapping. `Likeness` says it for one
codec: where one document can be read the other can, with a value like it. It composes
the way codecs do, and starts from fields whose text is the same, or the same but for
white space.
-/

namespace AlikeReadings
open ElementTree ElementCodec ElementCodec.Codec FallibleSteps PythonData AS4Libraries SignatureModel WrappedTexts

variable {α β γ : Type} {c : Codec α} {d : Codec β} {n n' : Located} {tag attr : QName} {name : String}
  {kind inner : QName → Bool}

section Alike

/-- What one of two twins is read as, the other is read as something like it. -/
def Alike (c : Codec α) (kind : QName → Bool) (same : α → α → Prop) : Prop :=
  ∀ ⦃n n' : Located⦄, Twins n n' → OfKind kind n.node → ∀ ⦃value : α⦄, c.validate n = .ok value →
    ∃ value', c.validate n' = .ok value' ∧ same value value'

theorem Alike.weaken {same same' : α → α → Prop} (alike : Alike c kind same)
    (weaker : ∀ value value', same value value' → same' value value') : Alike c kind same' := by
  intro n n' twins ofKind value read
  obtain ⟨value', read', like⟩ := alike twins ofKind read
  exact ⟨value', read', weaker _ _ like⟩

/-- A codec that reads twins the same way. -/
theorem alike_of_eq (reads : ∀ n n', Twins n n' → OfKind kind n.node → c.validate n = c.validate n') : Alike c kind Eq :=
  fun n n' twins ofKind value read => ⟨value, (reads n n' twins ofKind).symm.trans read, rfl⟩

/-- A field finds its children under the same name in both. -/
theorem lookup_twin (twins : Twins n n') (tag : QName) (name : String) :
    Option.Rel (fun found found' => found.1 = found'.1 ∧ List.Forall₂ Twins found.2 found'.2) (lookupChildren n tag name)
      (lookupChildren n' tag name) :=
  lookupChildren_related twins.childrenTagged tag name

theorem found_twin (twins : Twins n n') (tag : QName) (name : String) :
    List.Forall₂ Twins (foundChildren n tag name) (foundChildren n' tag name) :=
  foundChildren_related twins.childrenTagged tag name

/-- The children a field finds are of the kind of its alias, and of its own name. -/
theorem found_kind (fits : inner tag = true ∧ inner (.plain name) = true) :
    ∀ child ∈ foundChildren n tag name, OfKind inner child.node := by
  have tagged : ∀ {other : QName}, inner other = true → ∀ child ∈ n.childrenTagged other, OfKind inner child.node := by
    intro other fit child member found isFound
    have here := (Located.mem_childrenTagged.mp member).2
    obtain rfl : other = found := Option.some.inj (here.symm.trans isFound)
    exact fit
  intro child member
  unfold ElementCodec.Codec.foundChildren lookupChildren at member
  split at member
  · split at member
    · simp at member
    · rename_i first rest byName
      refine tagged fits.2 child ?_
      rw [byName]
      simpa using member
  · rename_i first rest byAlias
    refine tagged fits.1 child ?_
    rw [byAlias]
    simpa using member

theorem found_lookup {key : String} {children : List Located} (looked : lookupChildren n tag name = some (key, children)) :
    foundChildren n tag name = children := by
  simp [ElementCodec.Codec.foundChildren, looked]

/-- A list of twins is read as a list of likes. -/
theorem alike_each {same : α → α → Prop} (alike : Alike c inner same) {children children' : List Located}
    {values : List α} (twins : List.Forall₂ Twins children children') (kinds : ∀ child ∈ children, OfKind inner child.node)
    (read : List.Forall₂ (fun child value => c.validate child = .ok value) children values) :
    ∃ values', List.Forall₂ (fun child value => c.validate child = .ok value) children' values' ∧
      List.Forall₂ same values values' := by
  induction twins generalizing values with
  | nil =>
      obtain rfl := List.forall₂_nil_left_iff.mp read
      exact ⟨[], .nil, .nil⟩
  | cons one _ ih =>
      obtain ⟨value, rest, here, others, rfl⟩ := List.forall₂_cons_left_iff.mp read
      obtain ⟨value', here', like⟩ := alike one (kinds _ List.mem_cons_self) here
      obtain ⟨rest', others', likes⟩ := ih (fun child member => kinds child (List.mem_cons_of_mem _ member)) others
      exact ⟨value' :: rest', .cons here' others', .cons like likes⟩

end Alike

section Fields

theorem alike_many {same : α → α → Prop} (alike : Alike c inner same)
    (fits : inner tag = true ∧ inner (.plain name) = true) : Alike (many tag name c) kind (List.Forall₂ same) := by
  intro n n' twins _ values read
  obtain ⟨values', read', likes⟩ := alike_each alike (found_twin twins tag name) (found_kind fits) (many_ok.mp read)
  exact ⟨values', many_ok.mpr read', likes⟩

theorem alike_manyMinOne {same : α → α → Prop} (alike : Alike c inner same)
    (fits : inner tag = true ∧ inner (.plain name) = true) : Alike (manyMinOne tag name c) kind (List.Forall₂ same) := by
  intro n n' twins _ values read
  obtain ⟨values', read', likes⟩ :=
    alike_each alike (found_twin twins tag name) (found_kind fits) (manyMinOne_ok.mp read)
  exact ⟨values', manyMinOne_ok.mpr read', likes⟩

/-- The one child a singular field reads, and its twin. -/
theorem twin_child (twins : Twins n n') (fits : inner tag = true ∧ inner (.plain name) = true) {key : String}
    {child : Located} (looked : lookupChildren n tag name = some (key, [child])) :
    ∃ child', lookupChildren n' tag name = some (key, [child']) ∧ Twins child child' ∧ OfKind inner child.node := by
  have both := lookup_twin twins tag name
  have ofKind := found_kind (n := n) fits child (by simp [found_lookup looked])
  rw [looked] at both
  generalize lookupChildren n' tag name = looked' at both ⊢
  cases both with
  | some pair =>
      obtain ⟨rfl, below⟩ := pair
      obtain ⟨child', rest, one, others, rest'⟩ := List.forall₂_cons_left_iff.mp below
      obtain rfl := List.forall₂_nil_left_iff.mp others
      exact ⟨child', by rw [← rest'], one, ofKind⟩

theorem alike_singular {same : α → α → Prop} (alike : Alike c inner same)
    (fits : inner tag = true ∧ inner (.plain name) = true) : Alike (singular tag name c) kind same := by
  intro n n' twins _ value read
  obtain ⟨key, child, looked, one⟩ := singular_ok.mp read
  obtain ⟨child', looked', twin, ofKind⟩ := twin_child twins fits looked
  obtain ⟨value', one', like⟩ := alike twin ofKind one
  exact ⟨value', singular_ok.mpr ⟨key, child', looked', one'⟩, like⟩

theorem alike_optional {same : α → α → Prop} (alike : Alike c inner same)
    (fits : inner tag = true ∧ inner (.plain name) = true) :
    Alike (Codec.optional tag name c) kind (Option.Rel same) := by
  intro n n' twins _ value read
  cases value with
  | none =>
      have both := lookup_twin twins tag name
      rw [optional_none.mp read] at both
      generalize looked' : lookupChildren n' tag name = found' at both
      cases both
      exact ⟨none, optional_none.mpr looked', .none⟩
  | some value =>
      obtain ⟨key, child, looked, one⟩ := optional_some.mp read
      obtain ⟨child', looked', twin, ofKind⟩ := twin_child twins fits looked
      obtain ⟨value', one', like⟩ := alike twin ofKind one
      exact ⟨some value', optional_some.mpr ⟨key, child', looked', one'⟩, .some like⟩

theorem alike_someOf {same : α → α → Prop} (alike : Alike c inner same)
    (fits : inner tag = true ∧ inner (.plain name) = true) : Alike (someOf tag name c) kind (List.Forall₂ same) := by
  intro n n' twins _ values read
  obtain ⟨values', read', likes⟩ := alike_each alike (found_twin twins tag name) (found_kind fits) (someOf_ok read)
  have both := lookup_twin twins tag name
  refine ⟨values', ?_, likes⟩
  simp only [someOf] at read ⊢
  unfold ElementCodec.Codec.foundChildren at read'
  generalize lookupChildren n tag name = looked, lookupChildren n' tag name = looked' at both read read' ⊢
  cases both with
  | none => simp [missing] at read
  | some pair => exact every_ok.mpr read'

theorem alike_optionalMany {same : α → α → Prop} (alike : Alike c inner same)
    (fits : inner tag = true ∧ inner (.plain name) = true) :
    Alike (optionalMany tag name c) kind (Option.Rel (List.Forall₂ same)) := by
  intro n n' twins _ values read
  have both := lookup_twin twins tag name
  have kinds : ∀ child ∈ foundChildren n tag name, OfKind inner child.node := found_kind fits
  unfold ElementCodec.Codec.foundChildren at kinds
  simp only [optionalMany] at read ⊢
  generalize lookupChildren n tag name = looked, lookupChildren n' tag name = looked' at both read kinds ⊢
  cases both with
  | none =>
      obtain rfl := Except.ok.inj read
      exact ⟨none, rfl, .none⟩
  | some pair =>
      obtain ⟨present, each, rfl⟩ := map_ok.mp read
      obtain ⟨present', each', likes⟩ := alike_each alike pair.2 kinds (every_ok.mp each)
      exact ⟨some present', map_ok.mpr ⟨present', every_ok.mpr each', rfl⟩, .some likes⟩

end Fields

section Scalars
variable {scalar : Scalar α}

/-- A scalar is looked up in the same way where it is not in the element itself. -/
theorem lookupScalar_twin (twins : Twins n n') (direct : Option String) (key name : String) :
    lookupScalar direct key n name = lookupScalar direct key n' name := by
  have byName := twins.childrenTagged (.plain name)
  unfold lookupScalar
  generalize n.childrenTagged (.plain name) = named, n'.childrenTagged (.plain name) = named' at byName
  cases byName <;> rfl

theorem strippedText_twin (twins : Twins n n') (ofKind : OfKind steady n.node) : strippedText n = strippedText n' := by
  rw [strippedText, strippedText, twins.text ofKind]

theorem alike_requiredAttribute : Alike (requiredAttribute scalar attr name) kind Eq := by
  refine alike_of_eq fun n n' twins _ => ?_
  simp only [requiredAttribute, twins.attribute, lookupScalar_twin twins]

theorem alike_attributeOr {default : α} : Alike (attributeOr scalar default attr name) kind Eq := by
  refine alike_of_eq fun n n' twins _ => ?_
  simp only [attributeOr, twins.attribute, lookupScalar_twin twins]

theorem alike_requiredText : Alike (requiredText scalar name) steady Eq := by
  refine alike_of_eq fun n n' twins ofKind => ?_
  simp only [requiredText, strippedText_twin twins ofKind, lookupScalar_twin twins]

theorem alike_textOr {default : α} : Alike (textOr scalar default name) steady Eq := by
  refine alike_of_eq fun n n' twins ofKind => ?_
  simp only [textOr, strippedText_twin twins ofKind, lookupScalar_twin twins]

/-- Text that may be wrapped is there in both, the same but for white space. -/
theorem strippedText_solid (twins : Twins n n') (ofKind : OfKind unsigned n.node) :
    Option.Rel (fun s s' => withoutSpaces s = withoutSpaces s') (strippedText n) (strippedText n') := by
  have solid : withoutSpaces (strip n.node.leadingText) = withoutSpaces (strip n'.node.leadingText) := by
    rw [← strip_withoutSpaces, ← strip_withoutSpaces, twins.solid_text ofKind]
  have blank : strip n.node.leadingText = "" ↔ strip n'.node.leadingText = "" := by
    rw [strip_eq_empty_iff, strip_eq_empty_iff, solid]
  unfold strippedText
  by_cases empty : strip n.node.leadingText = ""
  · rw [if_pos empty, if_pos (blank.mp empty)]
    exact .none
  · rw [if_neg empty, if_neg (mt blank.mpr empty)]
    exact .some solid

theorem alike_wrappedText :
    Alike (requiredText .string name) unsigned fun s s' => withoutSpaces s = withoutSpaces s' := by
  intro n n' twins ofKind value read
  obtain ⟨s, stripped, decoded⟩ := requiredText_ok.mp read
  obtain rfl : s = value := Except.ok.inj decoded
  have both := strippedText_solid twins ofKind
  rw [stripped] at both
  generalize stripped' : strippedText n' = found at both
  cases both with
  | @some _ s' solid => exact ⟨s', requiredText_ok.mpr ⟨s', stripped', rfl⟩, solid⟩

theorem alike_optionalWrappedText : Alike (textOr (Scalar.optional .string) none name) unsigned
    (Option.Rel fun s s' => withoutSpaces s = withoutSpaces s') := by
  intro n n' twins ofKind value read
  have both := strippedText_solid twins ofKind
  have named := lookupScalar_twin twins none "#text" name
  simp only [textOr] at read ⊢
  generalize strippedText n = stripped, strippedText n' = stripped' at both read ⊢
  cases both with
  | none =>
      rw [named] at read
      cases looked : lookupScalar none "#text" n' name with
      | none =>
          obtain rfl : none = value := by simpa [looked] using read
          exact ⟨none, rfl, .none⟩
      | some found =>
          obtain ⟨key, none | s⟩ := found
          · simp [looked, decodeAt] at read
          · exact absurd (lookupScalar_some.mp looked).1 (by simp)
  | @some s s' solid =>
      obtain rfl := Except.ok.inj read
      exact ⟨some s', rfl, .some solid⟩

theorem base64_legible {s : String} {value : Option Bytes} (solid : strip s ≠ "")
    (decoded : decodeAt base64BytesOptional "#text" (some (strip s)) = .ok value) : legible s = true := by
  cases found : base64BytesOptional.decode (strip s) with
  | ok value => simp [legible, solid, found, Except.toBool]
  | error message => simp [decodeAt, found, Except.mapError] at decoded

theorem legible_base64 {s : String} (readable : legible s = true) :
    strip s ≠ "" ∧ ∃ value, decodeAt base64BytesOptional "#text" (some (strip s)) = .ok value := by
  simp only [legible, Bool.and_eq_true, decide_eq_true_eq] at readable
  refine ⟨readable.1, ?_⟩
  cases found : base64BytesOptional.decode (strip s) with
  | ok value => exact ⟨value, by simp [decodeAt, found, Except.mapError]⟩
  | error message => simp [found, Except.toBool] at readable

/-- A signature value is there to be read in both. -/
theorem alike_signatureText : Alike (textOr base64BytesOptional none name) valued fun _ _ => True := by
  intro n n' twins ofKind value read
  obtain ⟨both, blank⟩ := twins.legible ofKind
  have named := lookupScalar_twin twins none "#text" name
  simp only [textOr, strippedText] at read ⊢
  -- An element without text may be read from children of the field's own name instead.
  by_cases empty : strip n.node.leadingText = ""
  · rw [if_pos empty, named] at read
    rw [if_pos (blank.mp empty)]
    exact ⟨value, read, trivial⟩
  · rw [if_neg empty] at read
    rw [if_neg (mt blank.mpr empty)]
    have readable := base64_legible empty read
    rw [both] at readable
    obtain ⟨-, value', decoded⟩ := legible_base64 readable
    exact ⟨value', decoded, trivial⟩

end Scalars

section Records

theorem alike_pair {same : α → α → Prop} {same' : β → β → Prop} (first : Alike c kind same) (second : Alike d kind same') :
    Alike (pair c d) kind fun value value' => same value.1 value'.1 ∧ same' value.2 value'.2 := by
  intro n n' twins ofKind value read
  obtain ⟨one, other⟩ := pair_ok.mp read
  obtain ⟨one', read', like⟩ := first twins ofKind one
  obtain ⟨other', reads', likes⟩ := second twins ofKind other
  exact ⟨(one', other'), pair_ok.mpr ⟨read', reads'⟩, like, likes⟩

theorem alike_record {build : α → γ} {fields : γ → α} {same : α → α → Prop} {same' : γ → γ → Prop}
    (alike : Alike c kind same) (agrees : ∀ raw raw', same raw raw' → same' (build raw) (build raw')) :
    Alike (record c build fields) kind same' := by
  intro n n' twins ofKind value read
  obtain ⟨raw, one, rfl⟩ := record_ok.mp read
  obtain ⟨raw', one', like⟩ := alike twins ofKind one
  exact ⟨build raw', record_ok.mpr ⟨raw', one', rfl⟩, agrees _ _ like⟩

/-- What is kept of the other children names the same prefixes. -/
theorem alike_wildcard {choices : Option (List QName)} {same : α → α → Prop} (alike : Alike c kind same) :
    Alike (withWildcard choices c) kind fun value value' =>
      same value.1 value'.1 ∧ inclusivePrefixes value.2 = inclusivePrefixes value'.2 := by
  intro n n' twins ofKind value read
  obtain ⟨one, content⟩ := withWildcard_ok.mp read
  obtain ⟨fields', one', like⟩ := alike twins ofKind one
  refine ⟨(fields', wildcardContent c.aliases choices false n'.node.content), withWildcard_ok.mpr ⟨one', rfl⟩, like, ?_⟩
  rw [← content]
  exact twins.inclusivePrefixes _ _

theorem alike_etreeElement : Alike etreeElement kind fun _ _ => True :=
  fun _ n' _ _ _ _ => ⟨some n', rfl, trivial⟩

theorem alike_nothing : Alike nothing kind Eq := fun _ _ _ _ _ _ => ⟨(), rfl, rfl⟩

end Records

section Exact

/-- Read the same way in both. -/
abbrev Exact (c : Codec α) (kind : QName → Bool) : Prop := Alike c kind Eq

/-- Any element, as none of its own text is read. -/
def anything (_ : QName) : Bool := true

theorem exact_pair (first : Exact c kind) (second : Exact d kind) : Exact (pair c d) kind :=
  (alike_pair first second).weaken fun _ _ like => Prod.ext like.1 like.2

theorem exact_record {build : α → γ} {fields : γ → α} (exact : Exact c kind) : Exact (record c build fields) kind :=
  alike_record exact fun _ _ like => congrArg build like

theorem exact_many (exact : Exact c inner) (fits : inner tag = true ∧ inner (.plain name) = true) :
    Exact (many tag name c) kind :=
  (alike_many exact fits).weaken fun _ _ like => by rwa [List.forall₂_eq_eq_eq] at like

theorem exact_manyMinOne (exact : Exact c inner) (fits : inner tag = true ∧ inner (.plain name) = true) :
    Exact (manyMinOne tag name c) kind :=
  (alike_manyMinOne exact fits).weaken fun _ _ like => by rwa [List.forall₂_eq_eq_eq] at like

theorem exact_singular (exact : Exact c inner) (fits : inner tag = true ∧ inner (.plain name) = true) :
    Exact (singular tag name c) kind :=
  alike_singular exact fits

theorem exact_optional (exact : Exact c inner) (fits : inner tag = true ∧ inner (.plain name) = true) :
    Exact (Codec.optional tag name c) kind :=
  (alike_optional exact fits).weaken fun _ _ like => by
    cases like with
    | none => rfl
    | some same => rw [same]

end Exact

end AlikeReadings
