import AS4.ElementCodec

/-!
What dumping a record to JSON and loading it again keeps. A record loads again when
none of its lists that may not be empty is; written again it is the element it was
when it had no content beside its fields, since only fields are stored.
-/

namespace ElementCodec
namespace Codec
open ElementTree PythonData

section Storing

/-! When a record loads again, and when nothing of it is lost, field by field. -/
variable {α β γ : Type} {c : Codec α} {d : Codec β} {tag attr : QName} {name : String}

@[simp] theorem record_storable {build : α → γ} {fields : γ → α} {value : γ} :
    (record c build fields).storable value ↔ c.storable (fields value) := Iff.rfl

@[simp] theorem pair_storable {value : α × β} :
    (pair c d).storable value ↔ c.storable value.1 ∧ d.storable value.2 := Iff.rfl

@[simp] theorem singular_storable {value : α} :
    (singular tag name c).storable value ↔ c.storable value := Iff.rfl

@[simp] theorem optional_storable {value : Option α} :
    (Codec.optional tag name c).storable value ↔ ∀ present ∈ value, c.storable present := Iff.rfl

@[simp] theorem many_storable {values : List α} :
    (many tag name c).storable values ↔ ∀ value ∈ values, c.storable value := Iff.rfl

@[simp] theorem manyMinOne_storable {values : List α} :
    (manyMinOne tag name c).storable values ↔ values ≠ [] ∧ ∀ value ∈ values, c.storable value := Iff.rfl

@[simp] theorem someOf_storable {values : List α} :
    (someOf tag name c).storable values ↔ ∀ value ∈ values, c.storable value := Iff.rfl

@[simp] theorem optionalMany_storable {values : Option (List α)} :
    (optionalMany tag name c).storable values ↔ ∀ value ∈ values.getD [], c.storable value := Iff.rfl

@[simp] theorem withWildcard_storable {choices : Option (List QName)} {value : α × List Node} :
    (withWildcard choices c).storable value ↔ c.storable value.1 := Iff.rfl

@[simp] theorem requiredAttribute_storable {scalar : Scalar α} {value : α} : (requiredAttribute scalar attr name).storable value := trivial

@[simp] theorem optionalAttribute_storable {scalar : Scalar α} {value : Option α} : (optionalAttribute scalar attr name).storable value := trivial

@[simp] theorem attributeOr_storable {scalar : Scalar α} {default value : α} :
    (attributeOr scalar default attr name).storable value := trivial

@[simp] theorem requiredText_storable {scalar : Scalar α} {value : α} : (requiredText scalar name).storable value := trivial

@[simp] theorem textOr_storable {scalar : Scalar α} {default value : α} :
    (textOr scalar default name).storable value := trivial

@[simp] theorem etreeElement_storable {value : Option Located} : etreeElement.storable value := trivial

@[simp] theorem record_bare {build : α → γ} {fields : γ → α} {value : γ} :
    (record c build fields).bare value ↔ c.bare (fields value) := Iff.rfl

@[simp] theorem pair_bare {value : α × β} :
    (pair c d).bare value ↔ c.bare value.1 ∧ d.bare value.2 := Iff.rfl

@[simp] theorem singular_bare {value : α} :
    (singular tag name c).bare value ↔ c.bare value := Iff.rfl

@[simp] theorem optional_bare {value : Option α} :
    (Codec.optional tag name c).bare value ↔ ∀ present ∈ value, c.bare present := Iff.rfl

@[simp] theorem many_bare {values : List α} :
    (many tag name c).bare values ↔ ∀ value ∈ values, c.bare value := Iff.rfl

@[simp] theorem manyMinOne_bare {values : List α} :
    (manyMinOne tag name c).bare values ↔ ∀ value ∈ values, c.bare value := Iff.rfl

@[simp] theorem someOf_bare {values : List α} :
    (someOf tag name c).bare values ↔ ∀ value ∈ values, c.bare value := Iff.rfl

@[simp] theorem optionalMany_bare {values : Option (List α)} :
    (optionalMany tag name c).bare values ↔ ∀ value ∈ values.getD [], c.bare value := Iff.rfl

@[simp] theorem withWildcard_bare {choices : Option (List QName)} {value : α × List Node} :
    (withWildcard choices c).bare value ↔ c.bare value.1 ∧ value.2 = [] := Iff.rfl

@[simp] theorem requiredAttribute_bare {scalar : Scalar α} {value : α} : (requiredAttribute scalar attr name).bare value := trivial

@[simp] theorem optionalAttribute_bare {scalar : Scalar α} {value : Option α} : (optionalAttribute scalar attr name).bare value := trivial

@[simp] theorem attributeOr_bare {scalar : Scalar α} {default value : α} :
    (attributeOr scalar default attr name).bare value := trivial

@[simp] theorem requiredText_bare {scalar : Scalar α} {value : α} : (requiredText scalar name).bare value := trivial

@[simp] theorem textOr_bare {scalar : Scalar α} {default value : α} :
    (textOr scalar default name).bare value := trivial

@[simp] theorem etreeElement_bare {value : Option Located} : etreeElement.bare value := trivial

end Storing

section Laws
variable {α β : Type}

structure Keeps (c : Codec α) : Prop where
  stored : ∀ value, c.storable value ↔ ∃ value', c.reload value = some value'
  shown : ∀ value value', c.reload value = some value' →
    (c.dump value').attributes = (c.dump value).attributes ∧ (c.dump value').text = (c.dump value).text ∧
      (c.dump value').children.length = (c.dump value).children.length ∧ (c.dump value').wildcard = []
  written : ∀ value value', c.reload value = some value' → (c.dump value' = c.dump value ↔ c.bare value)
  settled : ∀ value value', c.reload value = some value' → c.storable value' ∧ c.bare value'

variable {c : Codec α} {d : Codec β} {tag attr : QName} {name : String}

/-- Only children and wildcard content can tell a loaded record from the stored one. -/
theorem dump_reload (law : Keeps c) {value value' : α} (loaded : c.reload value = some value') :
    c.dump value' = c.dump value ↔ (c.dump value').children = (c.dump value).children ∧ (c.dump value).wildcard = [] := by
  obtain ⟨attributes, text, -, wildcard⟩ := law.shown value value' loaded
  constructor
  · intro same
    rw [← same]
    exact ⟨rfl, wildcard⟩
  · rintro ⟨children, empty⟩
    cases dumped : c.dump value
    cases dumped' : c.dump value'
    simp_all

/-- A loaded record is written as the element it was just when it was bare. -/
theorem element_reload (law : Keeps c) {value value' : α} (loaded : c.reload value = some value') (tag : QName) :
    c.element tag value' = c.element tag value ↔ c.bare value := by
  obtain ⟨attributes, text, children, wildcard⟩ := law.shown value value' loaded
  rw [← law.written value value' loaded]
  constructor
  · intro same
    obtain ⟨-, -, content⟩ := Node.element.inj same
    rw [text, wildcard, List.append_nil, List.append_assoc, List.append_cancel_left_eq] at content
    have bare : (c.dump value).wildcard = [] := by
      have lengths := congrArg List.length content
      rw [List.length_append, children] at lengths
      exact List.eq_nil_of_length_eq_zero (by omega)
    rw [bare, List.append_nil] at content
    exact (dump_reload law loaded).mpr ⟨content, bare⟩
  · intro same
    rw [Codec.element, Codec.element, same]

theorem elements_reload (law : Keeps c) (tag : QName) {values values' : List α}
    (loaded : List.Forall₂ (fun value value' => c.reload value = some value') values values') :
    values'.map (c.element tag) = values.map (c.element tag) ↔ ∀ value ∈ values, c.bare value := by
  induction loaded with
  | nil => simp
  | cons first _ ih => simp [element_reload law first, ih]

theorem settled_all (law : Keeps c) {values values' : List α}
    (loaded : List.Forall₂ (fun value value' => c.reload value = some value') values values') :
    (∀ value ∈ values', c.storable value) ∧ ∀ value ∈ values', c.bare value := by
  induction loaded with
  | nil => simp
  | cons first _ ih =>
      obtain ⟨storable, bare⟩ := law.settled _ _ first
      exact ⟨List.forall_mem_cons.mpr ⟨storable, ih.1⟩, List.forall_mem_cons.mpr ⟨bare, ih.2⟩⟩

theorem storable_all (law : Keeps c) {values : List α} :
    (∀ value ∈ values, c.storable value) ↔ ∃ values', values.mapM c.reload = some values' := by
  simp only [mapM_some, law.stored]
  induction values with
  | nil => simp
  | cons value rest ih =>
      simp only [List.mem_cons, forall_eq_or_imp, ih]
      constructor
      · rintro ⟨⟨value', first⟩, values', others⟩
        exact ⟨value' :: values', .cons first others⟩
      · rintro ⟨_, first⟩
        cases first with
        | cons first others => exact ⟨⟨_, first⟩, _, others⟩

theorem singular_keeps (law : Keeps c) : Keeps (singular tag name c) where
  stored := law.stored
  shown _ _ _ := ⟨rfl, rfl, rfl, rfl⟩
  written value value' loaded := by
    simpa [singular] using element_reload law loaded tag
  settled := law.settled

theorem optional_keeps (law : Keeps c) : Keeps (Codec.optional tag name c) where
  stored value := by
    cases value with
    | none => simp [Codec.optional]
    | some present =>
        simp only [Codec.optional, Option.mem_def, Option.some.injEq, forall_eq', law.stored, Option.map_eq_some_iff]
        constructor
        · rintro ⟨kept, loaded⟩
          exact ⟨_, kept, loaded, rfl⟩
        · rintro ⟨_, kept, loaded, _⟩
          exact ⟨kept, loaded⟩
  shown value value' loaded := by
    cases optional_reload.mp loaded <;> exact ⟨rfl, rfl, rfl, rfl⟩
  written value value' loaded := by
    cases optional_reload.mp loaded with
    | none => simp [Codec.optional]
    | some kept => simpa [Codec.optional] using element_reload law kept tag
  settled value value' loaded := by
    cases optional_reload.mp loaded with
    | none => simp [Codec.optional]
    | some kept => simpa [Codec.optional] using law.settled _ _ kept

theorem many_keeps (law : Keeps c) : Keeps (many tag name c) where
  stored _ := storable_all law
  shown value value' loaded := by
    refine ⟨rfl, rfl, ?_, rfl⟩
    simpa [many] using (many_reload.mp loaded).length_eq.symm
  written value value' loaded := by
    simpa [many] using elements_reload law tag (many_reload.mp loaded)
  settled _ _ loaded := settled_all law (many_reload.mp loaded)

theorem manyMinOne_keeps (law : Keeps c) : Keeps (manyMinOne tag name c) where
  stored values := by
    cases values with
    | nil => simp [manyMinOne]
    | cons value rest =>
        have whole : (∀ each ∈ value :: rest, c.storable each) ↔ _ := storable_all law
        simpa [manyMinOne] using whole
  shown values values' loaded := by
    cases values with
    | nil => simp [manyMinOne] at loaded
    | cons value rest => exact (many_keeps law : Keeps (many tag name c)).shown (value :: rest) values' loaded
  written values values' loaded := by
    cases values with
    | nil => simp [manyMinOne] at loaded
    | cons value rest => exact (many_keeps law : Keeps (many tag name c)).written (value :: rest) values' loaded
  settled values values' loaded := by
    cases values with
    | nil => simp [manyMinOne] at loaded
    | cons value rest =>
        have loaded : (many tag name c).reload (value :: rest) = some values' := loaded
        have solid : values' ≠ [] := by
          rintro rfl
          cases many_reload.mp loaded
        obtain ⟨storable, bare⟩ := settled_all law (many_reload.mp loaded)
        exact ⟨⟨solid, storable⟩, bare⟩

theorem someOf_keeps (law : Keeps c) : Keeps (someOf tag name c) where
  stored _ := storable_all law
  shown value value' loaded := by
    refine ⟨rfl, rfl, ?_, rfl⟩
    simpa [someOf] using (someOf_reload.mp loaded).length_eq.symm
  written value value' loaded := by
    simpa [someOf] using elements_reload law tag (someOf_reload.mp loaded)
  settled _ _ loaded := settled_all law (someOf_reload.mp loaded)

theorem optionalMany_keeps (law : Keeps c) : Keeps (optionalMany tag name c) where
  stored values := by
    cases values with
    | none => simp [optionalMany]
    | some present =>
        have whole : (∀ each ∈ present, c.storable each) ↔ _ := storable_all law
        simp only [optionalMany, Option.getD_some, whole, Option.map_eq_some_iff]
        exact ⟨fun ⟨kept, loaded⟩ => ⟨_, kept, loaded, rfl⟩, fun ⟨_, kept, loaded, _⟩ => ⟨kept, loaded⟩⟩
  shown values values' loaded := by
    cases values with
    | none =>
        obtain rfl : none = values' := by simpa [optionalMany] using loaded
        exact ⟨rfl, rfl, rfl, rfl⟩
    | some present =>
        obtain ⟨kept, each, rfl⟩ : ∃ kept, present.mapM c.reload = some kept ∧ some kept = values' :=
          Option.map_eq_some_iff.mp loaded
        refine ⟨rfl, rfl, ?_, rfl⟩
        simpa [optionalMany] using (mapM_some.mp each).length_eq.symm
  written values values' loaded := by
    cases values with
    | none =>
        obtain rfl : none = values' := by simpa [optionalMany] using loaded
        simp [optionalMany]
    | some present =>
        obtain ⟨kept, each, rfl⟩ : ∃ kept, present.mapM c.reload = some kept ∧ some kept = values' :=
          Option.map_eq_some_iff.mp loaded
        simpa [optionalMany] using elements_reload law tag (mapM_some.mp each)
  settled values values' loaded := by
    cases values with
    | none =>
        obtain rfl : none = values' := by simpa [optionalMany] using loaded
        simp [optionalMany]
    | some present =>
        obtain ⟨kept, each, rfl⟩ : ∃ kept, present.mapM c.reload = some kept ∧ some kept = values' :=
          Option.map_eq_some_iff.mp loaded
        exact settled_all law (mapM_some.mp each)

/-- What is stored as it is and has no wildcard content. -/
theorem plain_keeps (stays : c.reload = some := by rfl) (free : ∀ value, c.storable value := by intro _; trivial)
    (solid : ∀ value, c.bare value := by intro _; trivial) (closed : ∀ value, (c.dump value).wildcard = [] := by intro _; rfl) :
    Keeps c where
  stored value := by simp [stays, free value]
  shown value value' loaded := by
    obtain rfl : value = value' := by simpa [stays] using loaded
    exact ⟨rfl, rfl, rfl, closed value⟩
  written value value' loaded := by
    obtain rfl : value = value' := by simpa [stays] using loaded
    simp [solid value]
  settled _ value' _ := ⟨free value', solid value'⟩

theorem requiredAttribute_keeps (scalar : Scalar α) : Keeps (requiredAttribute scalar attr name) := plain_keeps

theorem attributeOr_keeps (scalar : Scalar α) (default : α) : Keeps (attributeOr scalar default attr name) := plain_keeps

theorem optionalAttribute_keeps (scalar : Scalar α) : Keeps (optionalAttribute scalar attr name) := plain_keeps

theorem requiredText_keeps (scalar : Scalar α) : Keeps (requiredText scalar name) := plain_keeps

theorem textOr_keeps (scalar : Scalar α) (default : α) : Keeps (textOr scalar default name) := plain_keeps

theorem nothing_keeps : Keeps nothing := plain_keeps

theorem etreeElement_keeps : Keeps etreeElement where
  stored _ := by simp [etreeElement]
  shown _ _ _ := ⟨rfl, rfl, rfl, rfl⟩
  written _ _ _ := by simp [etreeElement]
  settled _ _ _ := ⟨trivial, trivial⟩

theorem pair_keeps (first : Keeps c) (second : Keeps d) : Keeps (pair c d) where
  stored value := by
    have whole : (∃ value', (pair c d).reload value = some value') ↔
        (∃ one, c.reload value.1 = some one) ∧ ∃ other, d.reload value.2 = some other := by
      simp only [pair_reload]
      exact ⟨fun ⟨value', one, other⟩ => ⟨⟨_, one⟩, _, other⟩, fun ⟨⟨one, kept⟩, other, kept'⟩ => ⟨(one, other), kept, kept'⟩⟩
    rw [whole, ← first.stored, ← second.stored]
    rfl
  shown value value' loaded := by
    obtain ⟨one, other⟩ := pair_reload.mp loaded
    obtain ⟨attributes, text, children, wildcard⟩ := first.shown _ _ one
    obtain ⟨attributes', text', children', wildcard'⟩ := second.shown _ _ other
    simp [pair, Fragment.append, attributes, text, children, wildcard, attributes', text', children', wildcard']
  written value value' loaded := by
    obtain ⟨one, other⟩ := pair_reload.mp loaded
    have lengths := (first.shown _ _ one).2.2.1
    rw [← show c.bare value.1 ∧ d.bare value.2 ↔ (pair c d).bare value from Iff.rfl, ← first.written _ _ one,
      ← second.written _ _ other, dump_reload first one, dump_reload second other]
    obtain ⟨attributes, text, -, wildcard⟩ := first.shown _ _ one
    obtain ⟨attributes', text', -, wildcard'⟩ := second.shown _ _ other
    simp only [pair, Fragment.append, Fragment.mk.injEq, attributes, text, wildcard, attributes', text', wildcard',
      List.append_nil, true_and]
    constructor
    · rintro ⟨children, empty⟩
      obtain ⟨children, children'⟩ := List.append_inj children lengths
      obtain ⟨empty, empty'⟩ := List.append_eq_nil_iff.mp empty.symm
      exact ⟨⟨children, empty⟩, children', empty'⟩
    · rintro ⟨⟨children, empty⟩, children', empty'⟩
      simp [children, children', empty, empty']
  settled value value' loaded := by
    obtain ⟨one, other⟩ := pair_reload.mp loaded
    obtain ⟨storable, bare⟩ := first.settled _ _ one
    obtain ⟨storable', bare'⟩ := second.settled _ _ other
    exact ⟨⟨storable, storable'⟩, bare, bare'⟩

theorem record_keeps {build : α → β} {fields : β → α} (law : Keeps c) (inverse : ∀ raw, fields (build raw) = raw) :
    Keeps (record c build fields) where
  stored value := by simp [record, law.stored]
  shown value value' loaded := by
    obtain ⟨raw, kept, rfl⟩ := record_reload.mp loaded
    simpa [record, inverse] using law.shown _ _ kept
  written value value' loaded := by
    obtain ⟨raw, kept, rfl⟩ := record_reload.mp loaded
    simpa [record, inverse] using law.written _ _ kept
  settled value value' loaded := by
    obtain ⟨raw, kept, rfl⟩ := record_reload.mp loaded
    simpa [record, inverse] using law.settled _ _ kept

theorem withWildcard_keeps {choices : Option (List QName)} (law : Keeps c)
    (closed : ∀ value, (c.dump value).wildcard = []) : Keeps (withWildcard choices c) where
  stored value := by simp [withWildcard, law.stored]
  shown value value' loaded := by
    obtain ⟨kept, empty⟩ := withWildcard_reload.mp loaded
    obtain ⟨attributes, text, children, -⟩ := law.shown _ _ kept
    exact ⟨attributes, text, children, empty⟩
  written value value' loaded := by
    obtain ⟨kept, empty⟩ := withWildcard_reload.mp loaded
    obtain ⟨attributes, text, -, -⟩ := law.shown _ _ kept
    rw [show (withWildcard choices c).bare value ↔ c.bare value.1 ∧ value.2 = [] from Iff.rfl,
      ← law.written _ _ kept, dump_reload law kept]
    simp only [withWildcard, Fragment.mk.injEq, attributes, text, empty, true_and, closed value.1, and_true]
    rw [eq_comm (a := [])]
  settled value value' loaded := by
    obtain ⟨kept, empty⟩ := withWildcard_reload.mp loaded
    obtain ⟨storable, bare⟩ := law.settled _ _ kept
    exact ⟨storable, bare, empty⟩

end Laws

end Codec
end ElementCodec
