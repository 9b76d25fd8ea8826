import AS4.ElementCodec

/-!
What reading back a written record gives. The law of a codec is stated on any
element that presents the fragment the codec wrote, so that a field's law speaks
about the element its record wrote, whatever the other fields put there.
-/

namespace ElementCodec
open ElementTree FallibleSteps PythonData

namespace Codec
variable {α β γ : Type}

/-! What the combinators make of `admits`, `readable` and `reread`. -/

section Meanings
variable {c : Codec α} {d : Codec β} {tag attr : QName} {name : String} {n : Located}

@[simp] theorem singular_admits {value : α} : (singular tag name c).admits value ↔ c.admits value := Iff.rfl

@[simp] theorem singular_readable {value : α} : (singular tag name c).readable value ↔ c.readable value := Iff.rfl

@[simp] theorem singular_reread {value value' : α} : (singular tag name c).reread n value value' ↔
    Below n (c.element tag value) fun child => c.reread child value value' := Iff.rfl

@[simp] theorem optional_admits {value : Option α} :
    (optional tag name c).admits value ↔ ∀ present ∈ value, c.admits present := Iff.rfl

@[simp] theorem optional_readable {value : Option α} :
    (optional tag name c).readable value ↔ ∀ present ∈ value, c.readable present := Iff.rfl

@[simp] theorem optional_reread_none {value' : Option α} : (optional tag name c).reread n none value' ↔ value' = none := by
  constructor
  · rintro ⟨⟩
    rfl
  · rintro rfl
    exact .none

@[simp] theorem optional_reread_some {value : α} {value' : Option α} : (optional tag name c).reread n (some value) value' ↔
    ∃ read, value' = some read ∧ Below n (c.element tag value) fun child => c.reread child value read := by
  constructor
  · rintro ⟨below⟩
    exact ⟨_, rfl, below⟩
  · rintro ⟨read, rfl, below⟩
    exact .some below

@[simp] theorem many_admits {values : List α} : (many tag name c).admits values ↔ ∀ value ∈ values, c.admits value := Iff.rfl

@[simp] theorem many_readable {values : List α} :
    (many tag name c).readable values ↔ ∀ value ∈ values, c.readable value := Iff.rfl

@[simp] theorem many_reread {values values' : List α} : (many tag name c).reread n values values' ↔
    List.Forall₂ (fun value value' => Below n (c.element tag value) fun child => c.reread child value value')
      values values' := Iff.rfl

@[simp] theorem manyMinOne_admits {values : List α} :
    (manyMinOne tag name c).admits values ↔ ∀ value ∈ values, c.admits value := Iff.rfl

@[simp] theorem manyMinOne_readable {values : List α} :
    (manyMinOne tag name c).readable values ↔ ∀ value ∈ values, c.readable value := Iff.rfl

@[simp] theorem manyMinOne_reread {values values' : List α} : (manyMinOne tag name c).reread n values values' ↔
    List.Forall₂ (fun value value' => Below n (c.element tag value) fun child => c.reread child value value')
      values values' := Iff.rfl

@[simp] theorem someOf_admits {values : List α} :
    (someOf tag name c).admits values ↔ ∀ value ∈ values, c.admits value := Iff.rfl

@[simp] theorem someOf_readable {values : List α} :
    (someOf tag name c).readable values ↔ values ≠ [] ∧ ∀ value ∈ values, c.readable value := Iff.rfl

@[simp] theorem someOf_reread {values values' : List α} : (someOf tag name c).reread n values values' ↔
    List.Forall₂ (fun value value' => Below n (c.element tag value) fun child => c.reread child value value')
      values values' := Iff.rfl

@[simp] theorem optionalMany_admits {values : Option (List α)} :
    (optionalMany tag name c).admits values ↔ ∀ value ∈ values.getD [], c.admits value := Iff.rfl

@[simp] theorem optionalMany_readable {values : Option (List α)} :
    (optionalMany tag name c).readable values ↔ ∀ value ∈ values.getD [], c.readable value := Iff.rfl

theorem optionalMany_reread {values values' : Option (List α)} (read : (optionalMany tag name c).reread n values values') :
    List.Forall₂ (fun value value' => Below n (c.element tag value) fun child => c.reread child value value')
      (values.getD []) (values'.getD []) := by
  cases values' with
  | none =>
      have none : values.getD [] = [] := read
      rw [none]
      exact .nil
  | some read' => exact read.2

@[simp] theorem requiredAttribute_admits {scalar : Scalar α} {value : α} :
    (requiredAttribute scalar attr name).admits value ↔ True := Iff.rfl

@[simp] theorem attributeOr_admits {scalar : Scalar α} {default value : α} :
    (attributeOr scalar default attr name).admits value ↔ True := Iff.rfl

@[simp] theorem optionalAttribute_admits {scalar : Scalar α} {value : Option α} :
    (optionalAttribute scalar attr name).admits value ↔ True := Iff.rfl

@[simp] theorem requiredText_admits {scalar : Scalar α} {value : α} :
    (requiredText scalar name).admits value ↔ True := Iff.rfl

@[simp] theorem textOr_admits {scalar : Scalar α} {default value : α} :
    (textOr scalar default name).admits value ↔ True := Iff.rfl

theorem requiredText_readable {scalar : Scalar α} {value : α} : (requiredText scalar name).readable value ↔
    strip (scalar.encode value) ≠ "" ∧ ∃ value', scalar.decode (strip (scalar.encode value)) = .ok value' := Iff.rfl

theorem textOr_readable {scalar : Scalar α} {default value : α} : (textOr scalar default name).readable value ↔
    strip (scalar.encode value) = "" ∨ ∃ value', scalar.decode (strip (scalar.encode value)) = .ok value' := Iff.rfl

@[simp] theorem etreeElement_readable {value : Option Located} : etreeElement.readable value ↔ True := Iff.rfl

@[simp] theorem etreeElement_admits {value : Option Located} : etreeElement.admits value ↔ True := Iff.rfl

@[simp] theorem etreeElement_reread {value value' : Option Located} : etreeElement.reread n value value' ↔ value' = some n :=
  Iff.rfl

@[simp] theorem pair_admits {value : α × β} : (pair c d).admits value ↔ c.admits value.1 ∧ d.admits value.2 := Iff.rfl

@[simp] theorem pair_readable {value : α × β} : (pair c d).readable value ↔ c.readable value.1 ∧ d.readable value.2 := Iff.rfl

@[simp] theorem pair_reread {value value' : α × β} :
    (pair c d).reread n value value' ↔ c.reread n value.1 value'.1 ∧ d.reread n value.2 value'.2 := Iff.rfl

@[simp] theorem record_admits {build : α → β} {fields : β → α} {value : β} :
    (record c build fields).admits value ↔ c.admits (fields value) := Iff.rfl

@[simp] theorem record_readable {build : α → β} {fields : β → α} {value : β} :
    (record c build fields).readable value ↔ c.readable (fields value) := Iff.rfl

@[simp] theorem record_reread {build : α → β} {fields : β → α} {value value' : β} :
    (record c build fields).reread n value value' ↔ c.reread n (fields value) (fields value') := Iff.rfl

@[simp] theorem wildcardContent_nil {existing : List QName} {choices : Option (List QName)} {keeping : Bool} :
    wildcardContent existing choices keeping [] = [] := by
  cases keeping <;> rfl

@[simp] theorem withWildcard_admits {choices : Option (List QName)} {value : α × List Node} :
    (withWildcard choices c).admits value ↔ c.admits value.1 ∧ wildcardContent c.aliases choices false value.2 = value.2 ∧
      ∀ node ∈ value.2, ∀ tag ∈ c.sees value.1, ¬ node.Tagged tag := Iff.rfl

@[simp] theorem withWildcard_readable {choices : Option (List QName)} {value : α × List Node} :
    (withWildcard choices c).readable value ↔
      c.readable value.1 ∧ ∀ node ∈ value.2, ∀ tag ∈ c.wants value.1, ¬ node.Tagged tag := Iff.rfl

@[simp] theorem withWildcard_reread {choices : Option (List QName)} {value value' : α × List Node} :
    (withWildcard choices c).reread n value value' ↔ c.reread n value.1 value'.1 ∧ value'.2 = value.2 := Iff.rfl

/-! Strings are read back as they were, but for the white space around text and the
empty ones that are not written. -/

@[simp] theorem requiredAttribute_string_readable {value : String} :
    (requiredAttribute .string attr name).readable value ↔ value ≠ "" := by
  simp [requiredAttribute, Scalar.string]

@[simp] theorem requiredAttribute_string_reread {value value' : String} :
    (requiredAttribute .string attr name).reread n value value' ↔ value' = value := by
  rw [eq_comm]
  simp [requiredAttribute, Scalar.string]

@[simp] theorem optionalAttribute_string_readable {value : Option String} :
    (optionalAttribute .string attr name).readable value ↔ True := by
  simp [optionalAttribute, attributeOr, Scalar.optional, Scalar.string, Except.map]

/-- An empty attribute is not written, and so not read. -/
def written (s : Option String) : Option String := s.filter (· ≠ "")

@[simp] theorem written_none : written none = none := rfl

theorem written_empty : written (some "") = none := by simp [written, Option.filter]

theorem written_some {s : String} (solid : s ≠ "") : written (some s) = some s := by
  simp [written, Option.filter, solid]

@[simp] theorem optionalAttribute_string_reread {value value' : Option String} :
    (optionalAttribute .string attr name).reread n value value' ↔ value' = written value := by
  cases value with
  | none => simp [optionalAttribute, attributeOr, Scalar.optional]
  | some s =>
      by_cases empty : s = ""
      · simp [optionalAttribute, attributeOr, Scalar.optional, Scalar.string, empty, written_empty]
      · rw [written_some empty, eq_comm]
        simp [optionalAttribute, attributeOr, Scalar.optional, Scalar.string, empty, Except.map]

@[simp] theorem attributeOr_string_readable {value : String} : (attributeOr .string "" attr name).readable value ↔ True := by
  simp [attributeOr, Scalar.string]

@[simp] theorem attributeOr_string_reread {value value' : String} :
    (attributeOr .string "" attr name).reread n value value' ↔ value' = value := by
  by_cases empty : value = ""
  · simp [attributeOr, Scalar.string, empty]
  · rw [eq_comm]
    simp [attributeOr, Scalar.string, empty]

@[simp] theorem requiredText_string_readable {value : String} :
    (requiredText .string name).readable value ↔ strip value ≠ "" := by
  simp [requiredText, Scalar.string]

@[simp] theorem requiredText_string_reread {value value' : String} :
    (requiredText .string name).reread n value value' ↔ value' = strip value := by
  rw [eq_comm]
  simp [requiredText, Scalar.string]

@[simp] theorem textOr_string_readable {value : String} : (textOr .string "" name).readable value ↔ True := by
  simp [textOr, Scalar.string]

@[simp] theorem textOr_string_reread {value value' : String} :
    (textOr .string "" name).reread n value value' ↔ value' = strip value := by
  by_cases empty : strip value = ""
  · simp [textOr, Scalar.string, empty]
  · rw [eq_comm]
    simp [textOr, Scalar.string, empty]

end Meanings

/-- The element has the attributes and the text of the fragment, where the codec
reads any. -/
structure Shows (c : Codec α) (n : Located) (fragment : Fragment) : Prop where
  attributes : ∀ name ∈ c.attributes, n.node.attribute name = fragment.attributes.lookup name
  text : c.hasText = true → n.node.leadingText = fragment.text

/-- Where the codec looks, the element shows the fragment and nothing else. -/
structure Presents (c : Codec α) (n : Located) (value : α) (fragment : Fragment) : Prop extends
    c.Shows n fragment where
  children : ∀ tag ∈ c.sees value ++ c.wants value,
    elementsTagged tag n.node.content = elementsTagged tag fragment.children
  content : c.openContent = true →
    n.node.content = textNode fragment.text ++ fragment.children ++ fragment.wildcard

/-- What a codec writes stays where it says, and reading that back succeeds just
for readable values, with a value they are reread as. -/
structure Lawful (c : Codec α) : Prop where
  tagged : ∀ value, ∀ node ∈ (c.dump value).children, ∃ tag ∈ c.aliases, node.Tagged tag
  named : ∀ value, ∀ entry ∈ (c.dump value).attributes, entry.1 ∈ c.attributes
  textless : c.hasText = false → ∀ value, (c.dump value).text = ""
  closed : c.openContent = false → ∀ value, (c.dump value).wildcard = []
  seen : ∀ value, ∀ tag ∈ c.sees value ++ c.wants value, tag ∈ c.childTags
  settled : ∀ value, ∀ node ∈ (c.dump value).wildcard, ∀ tag ∈ c.wants value, ¬ node.Tagged tag
  refuses : ∀ value n, c.Shows n (c.dump value) →
    ∀ tag ∈ c.wants value, elementsTagged tag n.node.content ≠ [] → ¬ ∃ value', c.validate n = .ok value'
  apart : ∀ value, c.admits value → ∀ node ∈ (c.dump value).wildcard, ∀ tag ∈ c.sees value, ¬ node.Tagged tag
  untexted : ∀ value, c.admits value → leadingText (c.dump value).wildcard = ""
  rereads : ∀ value, c.admits value → ∀ n, c.Presents n value (c.dump value) →
    (c.readable value ↔ ∃ value', c.validate n = .ok value') ∧
      ∀ value', c.validate n = .ok value' → c.reread n value value'

section Elements

theorem elementsTagged_append (tag : QName) (first second : List Node) :
    elementsTagged tag (first ++ second) = elementsTagged tag first ++ elementsTagged tag second :=
  List.filter_append ..

theorem elementsTagged_none {tag : QName} {content : List Node}
    (other : ∀ node ∈ content, ¬ node.Tagged tag) : elementsTagged tag content = [] := by
  apply List.filter_eq_nil_iff.mpr
  intro node member
  simpa using other node member

theorem elementsTagged_all {tag : QName} {content : List Node}
    (tagged : ∀ node ∈ content, node.Tagged tag) : elementsTagged tag content = content := by
  apply List.filter_eq_self.mpr
  intro node member
  simpa using tagged node member

theorem elementsTagged_textNode (tag : QName) (s : String) : elementsTagged tag (textNode s) = [] := by
  unfold textNode
  split
  · rfl
  · exact elementsTagged_none (by simp [Node.Tagged, Node.tag?])

theorem leadingText_append_of_text (s : String) (rest : List Node) (silent : leadingText rest = "") :
    leadingText (textNode s ++ rest) = s := by
  unfold textNode
  split
  · rename_i empty
    simpa [empty] using silent
  · simp [leadingText, silent]

theorem leadingText_append_elements (elements rest : List Node)
    (tagged : ∀ node ∈ elements, ∃ tag, node.Tagged tag) (silent : leadingText rest = "") :
    leadingText (elements ++ rest) = "" := by
  cases elements with
  | nil => exact silent
  | cons node others =>
      obtain ⟨tag, isTagged⟩ := tagged node List.mem_cons_self
      cases node <;> first | rfl | simp [Node.Tagged, Node.tag?] at isTagged

theorem tagged_unique {node : Node} {first second : QName} (one : node.Tagged first)
    (other : node.Tagged second) : first = second :=
  Option.some.inj (one.symm.trans other)

theorem element_tagged (c : Codec α) (tag : QName) (value : α) : (c.element tag value).Tagged tag := rfl

end Elements

/-- An element written for a record presents what the record wrote. -/
theorem presents_element {c : Codec α} (law : c.Lawful) {value : α} (admitted : c.admits value)
    {n : Located} {tag : QName} (written : n.node = c.element tag value) : c.Presents n value (c.dump value) := by
  have content : n.node.content =
      textNode (c.dump value).text ++ (c.dump value).children ++ (c.dump value).wildcard := by
    rw [written]
    rfl
  refine ⟨⟨?_, ?_⟩, ?_, fun _ => content⟩
  · intro name _
    rw [written]
    rfl
  · intro _
    rw [Node.leadingText, content, List.append_assoc]
    apply leadingText_append_of_text
    apply leadingText_append_elements
    · intro node member
      obtain ⟨tag, _, isTagged⟩ := law.tagged value node member
      exact ⟨tag, isTagged⟩
    · exact law.untexted value admitted
  · intro tag member
    have silent : elementsTagged tag (c.dump value).wildcard = [] := by
      apply elementsTagged_none
      intro node inside
      rcases List.mem_append.mp member with sees | wants
      · exact law.apart value admitted node inside tag sees
      · exact law.settled value node inside tag wants
    rw [content, elementsTagged_append, elementsTagged_append, elementsTagged_textNode, silent]
    simp

/-- Reading a written element back. -/
theorem rereads_element {c : Codec α} (law : c.Lawful) {value : α} (admitted : c.admits value)
    {n : Located} {tag : QName} (written : n.node = c.element tag value) :
    (c.readable value ↔ ∃ value', c.validate n = .ok value') ∧
      ∀ value', c.validate n = .ok value' → c.reread n value value' :=
  law.rereads value admitted n (presents_element law admitted written)

section Children

/-- The children a field wrote are the children it finds. -/
theorem lookup_written {n : Located} {tag : QName} {name : String} {written : List Node}
    (byTag : elementsTagged tag n.node.content = written)
    (byName : elementsTagged (.plain name) n.node.content = []) :
    (n.childrenTagged tag).map (·.node) = written ∧
      lookupChildren n tag name =
        if written = [] then none else some (clark tag, n.childrenTagged tag) := by
  have nodes := n.childrenTagged_nodes tag
  rw [byTag] at nodes
  refine ⟨nodes, ?_⟩
  have noneByName : n.childrenTagged (.plain name) = [] := by
    have mapped := n.childrenTagged_nodes (.plain name)
    rw [byName] at mapped
    exact List.map_eq_nil_iff.mp mapped
  unfold lookupChildren
  cases found : n.childrenTagged tag with
  | nil =>
      rw [found] at nodes
      simp only [List.map_nil] at nodes
      simp [← nodes, noneByName]
  | cons child rest =>
      rw [found] at nodes
      simp [← nodes]

theorem presents_children {c : Codec α} {tag : QName} {name : String} {n : Located} {value : α} {fragment : Fragment}
    (shown : c.Presents n value fragment) (looks : c.sees value ++ c.wants value = [tag, .plain name])
    (tagged : ∀ node ∈ fragment.children, node.Tagged tag) (different : QName.plain name ≠ tag) :
    elementsTagged tag n.node.content = fragment.children ∧
      elementsTagged (.plain name) n.node.content = [] := by
  constructor
  · rw [shown.children tag (by simp [looks])]
    exact elementsTagged_all tagged
  · rw [shown.children (.plain name) (by simp [looks])]
    exact elementsTagged_none fun node member isPlain => different (tagged_unique isPlain (tagged node member))

/-- Reading a list of children, one written element each. -/
theorem every_written {c : Codec α} (key : String) (law : c.Lawful) {tag : QName} {values : List α}
    (admitted : ∀ value ∈ values, c.admits value) {n : Located} {children : List Located}
    (inside : ∀ child ∈ children, child ∈ n.children)
    (written : children.map (·.node) = values.map (c.element tag)) :
    ((∀ value ∈ values, c.readable value) ↔ ∃ read, every c.validate key children = .ok read) ∧
      ∀ read, every c.validate key children = .ok read → List.Forall₂
        (fun value value' => Below n (c.element tag value) fun child => c.reread child value value') values read := by
  simp only [every_ok]
  induction values generalizing children with
  | nil =>
      obtain rfl : children = [] := by simpa using written
      simp
  | cons value rest ih =>
      cases children with
      | nil => simp at written
      | cons child others =>
          simp only [List.map_cons, List.cons.injEq] at written
          obtain ⟨here, later⟩ := written
          have one := rereads_element law (admitted value List.mem_cons_self) here
          have tail := ih (fun v member => admitted v (List.mem_cons_of_mem _ member))
            (fun other member => inside other (List.mem_cons_of_mem _ member)) later
          simp only [List.mem_cons, forall_eq_or_imp, one.1, tail.1]
          constructor
          · constructor
            · rintro ⟨⟨value', first⟩, read, remaining⟩
              exact ⟨_, .cons first remaining⟩
            · rintro ⟨_, _ | ⟨first, remaining⟩⟩
              exact ⟨⟨_, first⟩, _, remaining⟩
          · rintro _ (_ | ⟨first, remaining⟩)
            exact .cons ⟨child, inside child List.mem_cons_self, here, one.2 _ first⟩ (tail.2 _ remaining)

theorem childrenTagged_inside (n : Located) (tag : QName) : ∀ child ∈ n.childrenTagged tag, child ∈ n.children :=
  fun _ member => (Located.mem_childrenTagged.mp member).1

end Children

section FieldLaws
variable {c : Codec α} {tag : QName} {name : String}

theorem singular_lawful (law : c.Lawful) (different : QName.plain name ≠ tag) :
    (singular tag name c).Lawful where
  tagged value node member := by
    obtain rfl := List.mem_singleton.mp member
    exact ⟨tag, List.mem_singleton_self _, rfl⟩
  named value entry member := by simp [singular] at member
  textless _ _ := rfl
  closed _ _ := rfl
  seen _ _ member := by simpa [childTags, singular] using member
  settled _ _ _ _ wanted := by simp [singular] at wanted
  refuses _ _ _ _ wanted := by simp [singular] at wanted
  apart value _ node member := by simp [singular] at member
  untexted _ _ := rfl
  rereads value admitted n shown := by
    obtain ⟨byTag, byName⟩ := presents_children shown rfl
      (by simp [singular, element_tagged]) different
    obtain ⟨nodes, looked⟩ := lookup_written byTag byName
    simp only [singular, List.cons_ne_nil, ↓reduceIte] at looked nodes
    cases found : n.childrenTagged tag with
    | nil => simp [found] at nodes
    | cons child rest =>
        rw [found] at nodes looked
        obtain ⟨here, rfl⟩ : child.node = c.element tag value ∧ rest = [] := by simpa using nodes
        have one := rereads_element law admitted here
        have inside : child ∈ n.children := childrenTagged_inside n tag child (by simp [found])
        simp only [singular, looked, only, mapError_ok]
        exact ⟨one.1, fun value' read => ⟨child, inside, here, one.2 value' read⟩⟩

theorem optional_lawful (law : c.Lawful) (different : QName.plain name ≠ tag) :
    (optional tag name c).Lawful where
  tagged value node member := by
    obtain ⟨present, _, rfl⟩ := List.mem_map.mp member
    exact ⟨tag, List.mem_singleton_self _, rfl⟩
  named value entry member := by simp [optional] at member
  textless _ _ := rfl
  closed _ _ := rfl
  seen _ _ member := by simpa [childTags, optional] using member
  settled _ _ _ _ wanted := by simp [optional] at wanted
  refuses _ _ _ _ wanted := by simp [optional] at wanted
  apart value _ node member := by simp [optional] at member
  untexted _ _ := rfl
  rereads value admitted n shown := by
    obtain ⟨byTag, byName⟩ := presents_children shown rfl
      (by
        intro node member
        obtain ⟨present, _, rfl⟩ := List.mem_map.mp member
        rfl) different
    obtain ⟨nodes, looked⟩ := lookup_written byTag byName
    cases value with
    | none =>
        simp only [optional, Option.toList_none, List.map_nil, ↓reduceIte] at looked
        constructor
        · simp [optional, looked]
        · intro value' read
          obtain rfl : none = value' := by simpa [optional, looked] using read
          exact .none
    | some value =>
        simp only [optional, Option.toList_some, List.map_cons, List.map_nil, List.cons_ne_nil,
          ↓reduceIte] at looked nodes
        cases found : n.childrenTagged tag with
        | nil => simp [found] at nodes
        | cons child rest =>
            rw [found] at nodes looked
            obtain ⟨here, rfl⟩ : child.node = c.element tag value ∧ rest = [] := by simpa using nodes
            have one := rereads_element law (admitted value rfl) here
            have inside : child ∈ n.children := childrenTagged_inside n tag child (by simp [found])
            simp only [optional, looked, only, map_ok, mapError_ok]
            constructor
            · simp only [Option.mem_def, Option.some.injEq, forall_eq']
              rw [one.1]
              constructor
              · rintro ⟨value', read⟩
                exact ⟨_, value', read, rfl⟩
              · rintro ⟨_, value', read, -⟩
                exact ⟨value', read⟩
            · rintro _ ⟨value', read, rfl⟩
              exact .some ⟨child, inside, here, one.2 value' read⟩

theorem many_lawful (law : c.Lawful) (different : QName.plain name ≠ tag) :
    (many tag name c).Lawful where
  tagged values node member := by
    obtain ⟨value, _, rfl⟩ := List.mem_map.mp member
    exact ⟨tag, List.mem_singleton_self _, rfl⟩
  named value entry member := by simp [many] at member
  textless _ _ := rfl
  closed _ _ := rfl
  seen _ _ member := by simpa [childTags, many] using member
  settled _ _ _ _ wanted := by simp [many] at wanted
  refuses _ _ _ _ wanted := by simp [many] at wanted
  apart value _ node member := by simp [many] at member
  untexted _ _ := rfl
  rereads values admitted n shown := by
    obtain ⟨byTag, byName⟩ := presents_children shown rfl
      (by
        intro node member
        obtain ⟨value, _, rfl⟩ := List.mem_map.mp member
        rfl) different
    obtain ⟨nodes, looked⟩ := lookup_written byTag byName
    cases values with
    | nil =>
        simp only [many, List.map_nil, ↓reduceIte] at looked
        simp [many, looked]
    | cons value rest =>
        simp only [many, List.map_cons, reduceCtorEq, ↓reduceIte] at looked
        simp only [many, looked]
        exact every_written _ law admitted (childrenTagged_inside n tag) nodes

theorem someOf_lawful (law : c.Lawful) (different : QName.plain name ≠ tag) :
    (someOf tag name c).Lawful where
  tagged values node member := by
    obtain ⟨value, _, rfl⟩ := List.mem_map.mp member
    exact ⟨tag, List.mem_singleton_self _, rfl⟩
  named value entry member := by simp [someOf] at member
  textless _ _ := rfl
  closed _ _ := rfl
  seen _ _ member := by simpa [childTags, someOf] using member
  settled _ _ _ _ wanted := by simp [someOf] at wanted
  refuses _ _ _ _ wanted := by simp [someOf] at wanted
  apart value _ node member := by simp [someOf] at member
  untexted _ _ := rfl
  rereads values admitted n shown := by
    obtain ⟨byTag, byName⟩ := presents_children shown rfl
      (by
        intro node member
        obtain ⟨value, _, rfl⟩ := List.mem_map.mp member
        rfl) different
    obtain ⟨nodes, looked⟩ := lookup_written byTag byName
    cases values with
    | nil =>
        simp only [someOf, List.map_nil, ↓reduceIte] at looked
        simp [someOf, looked, missing]
    | cons value rest =>
        simp only [someOf, List.map_cons, reduceCtorEq, ↓reduceIte] at looked
        simp only [someOf, looked, ne_eq, reduceCtorEq, not_false_eq_true, true_and]
        exact every_written _ law admitted (childrenTagged_inside n tag) nodes

theorem optionalMany_lawful (law : c.Lawful) (different : QName.plain name ≠ tag) :
    (optionalMany tag name c).Lawful where
  tagged values node member := by
    obtain ⟨value, _, rfl⟩ := List.mem_map.mp member
    exact ⟨tag, List.mem_singleton_self _, rfl⟩
  named value entry member := by simp [optionalMany] at member
  textless _ _ := rfl
  closed _ _ := rfl
  seen _ _ member := by simpa [childTags, optionalMany] using member
  settled _ _ _ _ wanted := by simp [optionalMany] at wanted
  refuses _ _ _ _ wanted := by simp [optionalMany] at wanted
  apart value _ node member := by simp [optionalMany] at member
  untexted _ _ := rfl
  rereads values admitted n shown := by
    obtain ⟨byTag, byName⟩ := presents_children shown rfl
      (by
        intro node member
        obtain ⟨value, _, rfl⟩ := List.mem_map.mp member
        rfl) different
    obtain ⟨nodes, looked⟩ := lookup_written byTag byName
    have all := every_written (clark tag) law admitted (childrenTagged_inside n tag) nodes
    simp only [optionalMany] at looked all ⊢
    by_cases empty : values.getD [] = []
    · simp only [empty, List.map_nil, ↓reduceIte] at looked
      simp [looked, empty]
    · have looked : lookupChildren n tag name = some (clark tag, n.childrenTagged tag) := by simpa [empty] using looked
      simp only [looked, map_ok]
      constructor
      · rw [all.1]
        constructor
        · rintro ⟨read, succeeded⟩
          exact ⟨_, read, succeeded, rfl⟩
        · rintro ⟨_, read, succeeded, -⟩
          exact ⟨read, succeeded⟩
      · rintro _ ⟨read, succeeded, rfl⟩
        have matched := all.2 read succeeded
        refine ⟨?_, matched⟩
        rintro rfl
        exact empty (List.forall₂_nil_right_iff.mp matched)

theorem manyMinOne_lawful (law : c.Lawful) (different : QName.plain name ≠ tag) :
    (manyMinOne tag name c).Lawful :=
  let same := many_lawful law different
  { tagged := same.tagged
    named := same.named
    textless := same.textless
    closed := same.closed
    seen := same.seen
    settled := same.settled
    refuses := fun value n shown => same.refuses value n ⟨shown.attributes, shown.text⟩
    apart := same.apart
    untexted := same.untexted
    rereads := fun value admitted n shown =>
      same.rereads value admitted n ⟨⟨shown.attributes, shown.text⟩, shown.children, shown.content⟩ }

end FieldLaws

section ScalarLaws

/-- With no child under the field's own name, a scalar field finds its value where
it belongs or nowhere. -/
theorem lookupScalar_written {n : Located} (direct : Option String) (key name : String)
    (unnamed : direct = none → elementsTagged (.plain name) n.node.content = []) :
    lookupScalar direct key n name = direct.map fun s => (key, some s) := by
  cases direct with
  | some s => rfl
  | none =>
      have nodes := n.childrenTagged_nodes (.plain name)
      rw [unnamed rfl, List.map_eq_nil_iff] at nodes
      simp [lookupScalar, nodes]

/-- Where it is not, a child under the field's own name is found, and is no string. -/
theorem lookupScalar_child {n : Located} (key name : String)
    (present : elementsTagged (.plain name) n.node.content ≠ []) : lookupScalar none key n name = some (name, none) := by
  have nodes := n.childrenTagged_nodes (.plain name)
  cases found : n.childrenTagged (.plain name) with
  | nil => simp [← nodes, found] at present
  | cons child rest => simp [lookupScalar, found]

/-- What an attribute field wrote is what its element shows. -/
theorem attribute_written {n : Located} {attr : QName} {s : String}
    (shown : n.node.attribute attr = (attributeFragment attr s).attributes.lookup attr) :
    n.node.attribute attr = if s = "" then none else some s := by
  rw [shown]
  unfold attributeFragment
  split <;> simp

theorem attribute_unnamed {c : Codec α} {n : Located} {value : α} {fragment : Fragment} {s name : String}
    (shown : c.Presents n value fragment)
    (looks : c.sees value ++ c.wants value = if s = "" then [.plain name] else [])
    (childless : fragment.children = []) (empty : s = "") :
    elementsTagged (.plain name) n.node.content = [] := by
  rw [shown.children (.plain name) (by simp [looks, empty]), childless]
  rfl

theorem requiredAttribute_lawful (scalar : Scalar α) (attr : QName) (name : String) :
    (requiredAttribute scalar attr name).Lawful where
  tagged _ node member := by simp [requiredAttribute, attributeFragment] at member
  named value entry member := by
    simp only [requiredAttribute, attributeFragment] at member ⊢
    split at member
    · simp at member
    · obtain rfl := List.mem_singleton.mp member
      simp
  textless _ _ := rfl
  closed _ _ := rfl
  seen value tag member := by
    simp only [requiredAttribute, List.nil_append] at member
    split at member
    · simpa [childTags, requiredAttribute] using member
    · simp at member
  settled _ node member := by simp [requiredAttribute, attributeFragment] at member
  refuses value n shown tag wanted present := by
    simp only [requiredAttribute] at wanted
    split at wanted
    · rename_i empty
      obtain rfl := List.mem_singleton.mp wanted
      have carried := attribute_written (shown.attributes attr (List.mem_singleton_self attr))
      simp only [requiredAttribute] at carried ⊢
      rw [carried, if_pos empty, lookupScalar_child _ _ present]
      simp [decodeAt]
    · simp at wanted
  apart _ _ node member := by simp [requiredAttribute, attributeFragment] at member
  untexted _ _ := rfl
  rereads value _ n shown := by
    have carried := attribute_written (shown.attributes attr (List.mem_singleton_self attr))
    have looked := lookupScalar_written (n.node.attribute attr) ("@" ++ clark attr) name
      fun absent => attribute_unnamed shown rfl rfl (by simpa [carried] using absent)
    simp only [requiredAttribute]
    rw [looked, carried]
    by_cases empty : scalar.encode value = ""
    · simp [empty, missing]
    · simp [empty, decodeAt, mapError_ok]

theorem attributeOr_lawful (scalar : Scalar α) (default : α) (attr : QName) (name : String) :
    (attributeOr scalar default attr name).Lawful where
  tagged _ node member := by simp [attributeOr, attributeFragment] at member
  named value entry member := by
    simp only [attributeOr, attributeFragment] at member ⊢
    split at member
    · simp at member
    · obtain rfl := List.mem_singleton.mp member
      simp
  textless _ _ := rfl
  closed _ _ := rfl
  seen value tag member := by
    simp only [attributeOr, List.nil_append] at member
    split at member
    · simpa [childTags, attributeOr] using member
    · simp at member
  settled _ node member := by simp [attributeOr, attributeFragment] at member
  refuses value n shown tag wanted present := by
    simp only [attributeOr] at wanted
    split at wanted
    · rename_i empty
      obtain rfl := List.mem_singleton.mp wanted
      have carried := attribute_written (shown.attributes attr (List.mem_singleton_self attr))
      simp only [attributeOr] at carried ⊢
      rw [carried, if_pos empty, lookupScalar_child _ _ present]
      simp [decodeAt]
    · simp at wanted
  apart _ _ node member := by simp [attributeOr, attributeFragment] at member
  untexted _ _ := rfl
  rereads value _ n shown := by
    have carried := attribute_written (shown.attributes attr (List.mem_singleton_self attr))
    have looked := lookupScalar_written (n.node.attribute attr) ("@" ++ clark attr) name
      fun absent => attribute_unnamed shown rfl rfl (by simpa [carried] using absent)
    simp only [attributeOr]
    rw [looked, carried]
    by_cases empty : scalar.encode value = ""
    · simp [empty, eq_comm]
    · simp [empty, decodeAt, mapError_ok]

theorem optionalAttribute_lawful (scalar : Scalar α) (attr : QName) (name : String) :
    (optionalAttribute scalar attr name).Lawful :=
  attributeOr_lawful ..

/-- What a text field wrote is what its element shows, stripped. -/
theorem text_written {n : Located} {s : String} (shown : n.node.leadingText = s) :
    strippedText n = if strip s = "" then none else some (strip s) := by
  rw [strippedText, shown]

theorem requiredText_lawful (scalar : Scalar α) (name : String) : (requiredText scalar name).Lawful where
  tagged _ node member := by simp [requiredText] at member
  named _ entry member := by simp [requiredText] at member
  textless untexted := by simp [requiredText] at untexted
  closed _ _ := rfl
  seen value tag member := by
    simp only [requiredText, List.nil_append] at member
    split at member
    · simpa [childTags, requiredText] using member
    · simp at member
  settled _ node member := by simp [requiredText] at member
  refuses value n shown tag wanted present := by
    simp only [requiredText] at wanted
    split at wanted
    · rename_i empty
      obtain rfl := List.mem_singleton.mp wanted
      have carried : strippedText n = none := (text_written (shown.text rfl)).trans (if_pos empty)
      simp only [requiredText]
      rw [carried, lookupScalar_child _ _ present]
      simp [decodeAt]
    · simp at wanted
  apart _ _ node member := by simp [requiredText] at member
  untexted _ _ := rfl
  rereads value _ n shown := by
    have carried := text_written (shown.text rfl)
    have unnamed : strippedText n = none → elementsTagged (.plain name) n.node.content = [] := by
      intro absent
      have empty : strip (scalar.encode value) = "" := by
        rw [carried] at absent
        by_contra solid
        simp [requiredText, solid] at absent
      exact attribute_unnamed shown (by simp [requiredText, empty]) rfl empty
    have looked := lookupScalar_written (strippedText n) "#text" name unnamed
    simp only [requiredText] at carried ⊢
    rw [looked, carried]
    by_cases empty : strip (scalar.encode value) = ""
    · simp [empty, missing]
    · simp [empty, decodeAt, mapError_ok]

theorem textOr_lawful (scalar : Scalar α) (default : α) (name : String) : (textOr scalar default name).Lawful where
  tagged _ node member := by simp [textOr] at member
  named _ entry member := by simp [textOr] at member
  textless untexted := by simp [textOr] at untexted
  closed _ _ := rfl
  seen value tag member := by
    simp only [textOr, List.nil_append] at member
    split at member
    · simpa [childTags, textOr] using member
    · simp at member
  settled _ node member := by simp [textOr] at member
  refuses value n shown tag wanted present := by
    simp only [textOr] at wanted
    split at wanted
    · rename_i empty
      obtain rfl := List.mem_singleton.mp wanted
      have carried : strippedText n = none := (text_written (shown.text rfl)).trans (if_pos empty)
      simp only [textOr]
      rw [carried, lookupScalar_child _ _ present]
      simp [decodeAt]
    · simp at wanted
  apart _ _ node member := by simp [textOr] at member
  untexted _ _ := rfl
  rereads value _ n shown := by
    have carried := text_written (shown.text rfl)
    have unnamed : strippedText n = none → elementsTagged (.plain name) n.node.content = [] := by
      intro absent
      have empty : strip (scalar.encode value) = "" := by
        rw [carried] at absent
        by_contra solid
        simp [textOr, solid] at absent
      exact attribute_unnamed shown (by simp [textOr, empty]) rfl empty
    have looked := lookupScalar_written (strippedText n) "#text" name unnamed
    simp only [textOr] at carried ⊢
    rw [looked, carried]
    by_cases empty : strip (scalar.encode value) = ""
    · simp [empty, eq_comm]
    · simp [empty, decodeAt, mapError_ok]

theorem etreeElement_lawful : etreeElement.Lawful where
  tagged _ node member := by simp [etreeElement] at member
  named _ entry member := by simp [etreeElement] at member
  textless _ _ := rfl
  closed _ _ := rfl
  seen _ tag member := by simp [etreeElement] at member
  settled _ node member := by simp [etreeElement] at member
  refuses _ _ _ tag wanted := by simp [etreeElement] at wanted
  apart _ _ node member := by simp [etreeElement] at member
  untexted _ _ := rfl
  rereads value _ n _ := by simp [etreeElement]

theorem nothing_lawful : nothing.Lawful where
  tagged _ node member := by simp [nothing] at member
  named _ entry member := by simp [nothing] at member
  textless _ _ := rfl
  closed _ _ := rfl
  seen _ tag member := by simp [nothing] at member
  settled _ node member := by simp [nothing] at member
  refuses _ _ _ tag wanted := by simp [nothing] at wanted
  apart _ _ node member := by simp [nothing] at member
  untexted _ _ := rfl
  rereads value _ n _ := by simp [nothing]

end ScalarLaws

section RecordLaws

/-- Two groups of fields that do not get in each other's way. -/
def Apart (c : Codec α) (d : Codec β) : Prop :=
  (∀ tag ∈ c.aliases, tag ∉ d.childTags) ∧ (∀ tag ∈ d.aliases, tag ∉ c.childTags) ∧
    (∀ name ∈ c.attributes, name ∉ d.attributes) ∧ (c.hasText && d.hasText) = false ∧
      c.openContent = false ∧ d.openContent = false

instance (c : Codec α) (d : Codec β) : Decidable (Apart c d) := by
  unfold Apart
  infer_instance

theorem lookup_append_none {entries more : List (QName × String)} {name : QName}
    (absent : ∀ entry ∈ entries, entry.1 ≠ name) : (entries ++ more).lookup name = more.lookup name := by
  induction entries with
  | nil => rfl
  | cons entry rest ih =>
      obtain ⟨first, s⟩ := entry
      have other : name ≠ first := Ne.symm (absent (first, s) List.mem_cons_self)
      rw [List.cons_append, List.lookup_cons, beq_eq_false_iff_ne.mpr other]
      exact ih fun entry member => absent entry (List.mem_cons_of_mem _ member)

theorem lookup_append_left {entries more : List (QName × String)} {name : QName}
    (absent : ∀ entry ∈ more, entry.1 ≠ name) : (entries ++ more).lookup name = entries.lookup name := by
  induction entries with
  | nil =>
      rw [List.nil_append, List.lookup_nil, List.lookup_eq_none_iff]
      intro entry member
      simpa using Ne.symm (absent entry member)
  | cons entry rest ih =>
      obtain ⟨first, s⟩ := entry
      simp only [List.cons_append, List.lookup_cons, ih]

theorem pair_shows_left {c : Codec α} {d : Codec β} (second : d.Lawful) (apart : Apart c d) {n : Located}
    {value : α × β} (shown : (pair c d).Shows n ((pair c d).dump value)) : c.Shows n (c.dump value.1) := by
  obtain ⟨-, -, attributesApart, textApart, -, -⟩ := apart
  constructor
  · intro name member
    rw [shown.attributes name (by simp [pair, member])]
    simp only [pair, Fragment.append]
    apply lookup_append_left
    rintro entry inside rfl
    exact attributesApart _ member (second.named _ entry inside)
  · intro texted
    rw [shown.text (by simp [pair, texted])]
    have silent : (d.dump value.2).text = "" := second.textless (by simpa [texted] using textApart) _
    simp [pair, Fragment.append, silent]

theorem pair_shows_right {c : Codec α} {d : Codec β} (first : c.Lawful) (apart : Apart c d) {n : Located}
    {value : α × β} (shown : (pair c d).Shows n ((pair c d).dump value)) : d.Shows n (d.dump value.2) := by
  obtain ⟨-, -, attributesApart, textApart, -, -⟩ := apart
  constructor
  · intro name member
    rw [shown.attributes name (by simp [pair, member])]
    simp only [pair, Fragment.append]
    apply lookup_append_none
    rintro entry inside rfl
    exact attributesApart _ (first.named _ entry inside) member
  · intro texted
    rw [shown.text (by simp [pair, texted])]
    have silent : (c.dump value.1).text = "" := first.textless (by simpa [texted] using textApart) _
    simp [pair, Fragment.append, silent]

theorem pair_presents_left {c : Codec α} {d : Codec β} (first : c.Lawful) (second : d.Lawful) (apart : Apart c d)
    {n : Located} {value : α × β} (shown : (pair c d).Presents n value ((pair c d).dump value)) :
    c.Presents n value.1 (c.dump value.1) := by
  have closed : c.openContent = false := apart.2.2.2.2.1
  refine ⟨pair_shows_left second apart shown.toShows, ?_, by simp [closed]⟩
  intro tag member
  rw [shown.children tag (by simp only [pair, List.mem_append] at member ⊢; tauto)]
  simp only [pair, Fragment.append]
  rw [elementsTagged_append, (elementsTagged_none ?_ : elementsTagged tag (d.dump value.2).children = []), List.append_nil]
  intro node inside isTagged
  obtain ⟨other, declared, isOther⟩ := second.tagged _ node inside
  obtain rfl := tagged_unique isOther isTagged
  exact apart.2.1 other declared (first.seen _ other member)

theorem pair_presents_right {c : Codec α} {d : Codec β} (first : c.Lawful) (second : d.Lawful) (apart : Apart c d)
    {n : Located} {value : α × β} (shown : (pair c d).Presents n value ((pair c d).dump value)) :
    d.Presents n value.2 (d.dump value.2) := by
  have closed : d.openContent = false := apart.2.2.2.2.2
  refine ⟨pair_shows_right first apart shown.toShows, ?_, by simp [closed]⟩
  intro tag member
  rw [shown.children tag (by simp only [pair, List.mem_append] at member ⊢; tauto)]
  simp only [pair, Fragment.append]
  rw [elementsTagged_append, (elementsTagged_none ?_ : elementsTagged tag (c.dump value.1).children = []), List.nil_append]
  intro node inside isTagged
  obtain ⟨other, declared, isOther⟩ := first.tagged _ node inside
  obtain rfl := tagged_unique isOther isTagged
  exact apart.1 other declared (second.seen _ other member)

theorem pair_lawful {c : Codec α} {d : Codec β} (first : c.Lawful) (second : d.Lawful) (apart : Apart c d) :
    (pair c d).Lawful where
  tagged value node member := by
    simp only [pair, Fragment.append, List.mem_append] at member ⊢
    rcases member with inFirst | inSecond
    · obtain ⟨tag, declared, isTagged⟩ := first.tagged _ node inFirst
      exact ⟨tag, .inl declared, isTagged⟩
    · obtain ⟨tag, declared, isTagged⟩ := second.tagged _ node inSecond
      exact ⟨tag, .inr declared, isTagged⟩
  named value entry member := by
    simp only [pair, Fragment.append, List.mem_append] at member ⊢
    exact member.imp (first.named _ entry) (second.named _ entry)
  textless untexted value := by
    simp only [pair, Bool.or_eq_false_iff] at untexted
    simp [pair, Fragment.append, first.textless untexted.1, second.textless untexted.2]
  closed _ value := by
    obtain ⟨-, -, -, -, one, other⟩ := apart
    simp [pair, Fragment.append, first.closed one, second.closed other]
  seen value tag member := by
    simp only [pair, childTags, List.map_append, List.mem_append] at member ⊢
    have one := first.seen value.1 tag
    have other := second.seen value.2 tag
    simp only [childTags, List.mem_append] at one other
    tauto
  settled value node member := by
    obtain ⟨-, -, -, -, one, other⟩ := apart
    simp [pair, Fragment.append, first.closed one, second.closed other] at member
  refuses value n shown tag wanted present := by
    rintro ⟨read, succeeded⟩
    obtain ⟨one, other⟩ := pair_ok.mp succeeded
    rcases List.mem_append.mp wanted with inFirst | inSecond
    · exact first.refuses _ n (pair_shows_left second apart shown) tag inFirst present ⟨_, one⟩
    · exact second.refuses _ n (pair_shows_right first apart shown) tag inSecond present ⟨_, other⟩
  apart value admitted node member := by
    obtain ⟨-, -, -, -, one, other⟩ := apart
    simp [pair, Fragment.append, first.closed one, second.closed other] at member
  untexted value _ := by
    obtain ⟨-, -, -, -, one, other⟩ := apart
    simp [pair, Fragment.append, first.closed one, second.closed other, leadingText]
  rereads value admitted n shown := by
    have one := first.rereads _ admitted.1 n (pair_presents_left first second apart shown)
    have other := second.rereads _ admitted.2 n (pair_presents_right first second apart shown)
    simp only [pair_ok, Prod.forall, Prod.exists]
    constructor
    · simp only [pair, one.1, other.1]
      constructor
      · rintro ⟨⟨value', read⟩, value'', read'⟩
        exact ⟨value', value'', read, read'⟩
      · rintro ⟨value', value'', read, read'⟩
        exact ⟨⟨value', read⟩, value'', read'⟩
    · rintro value' value'' ⟨read, read'⟩
      exact ⟨one.2 _ read, other.2 _ read'⟩

/-- The fields of a record are apart by computation. -/
theorem pair_checked {c : Codec α} {d : Codec β} (checked : decide (Apart c d) = true) (first : c.Lawful)
    (second : d.Lawful) : (pair c d).Lawful :=
  pair_lawful first second (of_decide_eq_true checked)

theorem record_lawful {c : Codec α} {build : α → β} {fields : β → α} (law : c.Lawful)
    (inverse : ∀ raw, fields (build raw) = raw) : (record c build fields).Lawful where
  tagged value := law.tagged (fields value)
  named value := law.named (fields value)
  textless untexted value := law.textless untexted (fields value)
  closed isClosed value := law.closed isClosed (fields value)
  seen value := law.seen (fields value)
  settled value := law.settled (fields value)
  refuses value n shown tag wanted present := by
    rintro ⟨_, succeeded⟩
    obtain ⟨raw, read, -⟩ := record_ok.mp succeeded
    exact law.refuses (fields value) n ⟨shown.attributes, shown.text⟩ tag wanted present ⟨raw, read⟩
  apart value := law.apart (fields value)
  untexted value := law.untexted (fields value)
  rereads value admitted n shown := by
    have one := law.rereads (fields value) admitted n
      ⟨⟨shown.attributes, shown.text⟩, shown.children, shown.content⟩
    simp only [record_ok]
    constructor
    · simp only [record, one.1]
      constructor
      · rintro ⟨raw, read⟩
        exact ⟨_, raw, read, rfl⟩
      · rintro ⟨_, raw, read, -⟩
        exact ⟨raw, read⟩
    · rintro _ ⟨raw, read, rfl⟩
      simp only [record, inverse]
      exact one.2 raw read

theorem wildcardContent_length (existing : List QName) (choices : Option (List QName)) (keeping : Bool)
    (content : List Node) : (wildcardContent existing choices keeping content).length ≤ content.length := by
  induction content generalizing keeping with
  | nil => simp [wildcardContent]
  | cons node rest ih =>
      cases node <;> simp only [wildcardContent] <;> split <;> simp only [List.length_cons] <;>
        first | exact Nat.succ_le_succ (ih _) | exact Nat.le_succ_of_le (ih _)

/-- Content that is kept whole does not begin with text. -/
theorem leadingText_of_kept {existing : List QName} {choices : Option (List QName)} {content : List Node}
    (kept : wildcardContent existing choices false content = content) : leadingText content = "" := by
  cases content with
  | nil => rfl
  | cons node rest =>
      cases node with
      | text data =>
          have short := wildcardContent_length existing choices false rest
          simp only [wildcardContent, Bool.false_eq_true, ↓reduceIte] at kept
          rw [kept, List.length_cons] at short
          omega
      | _ => rfl

/-- The fields an element was written with are no wildcard content. -/
theorem wildcardContent_fields {existing : List QName} {choices : Option (List QName)} {text : String}
    {children wildcard : List Node} (declared : ∀ node ∈ children, ∃ tag ∈ existing, node.Tagged tag) :
    wildcardContent existing choices false (textNode text ++ children ++ wildcard) =
      wildcardContent existing choices false wildcard := by
  have skipped : wildcardContent existing choices false (children ++ wildcard) =
      wildcardContent existing choices false wildcard := by
    induction children with
    | nil => rfl
    | cons node rest ih =>
        obtain ⟨tag, member, isTagged⟩ := declared node List.mem_cons_self
        have later := ih fun node member => declared node (List.mem_cons_of_mem _ member)
        cases node with
        | element tag' attrib content =>
            obtain rfl : tag' = tag := Option.some.inj isTagged
            simpa [wildcardContent, wild, Node.tag?, member] using later
        | _ => simp [Node.Tagged, Node.tag?] at isTagged
  unfold textNode
  split
  · simpa using skipped
  · simpa [wildcardContent] using skipped

theorem withWildcard_lawful {c : Codec α} {choices : Option (List QName)} (law : c.Lawful)
    (closed : c.openContent = false) : (withWildcard choices c).Lawful where
  tagged value := law.tagged value.1
  named value := law.named value.1
  textless untexted value := law.textless untexted value.1
  closed isClosed := by simp [withWildcard] at isClosed
  seen value tag member := law.seen value.1 tag (List.mem_append_left _ (by simpa [withWildcard] using member))
  settled _ _ _ _ wanted := by simp [withWildcard] at wanted
  refuses _ _ _ _ wanted := by simp [withWildcard] at wanted
  apart value admitted := admitted.2.2
  untexted value admitted := leadingText_of_kept admitted.2.1
  rereads value admitted n shown := by
    have content : wildcardContent c.aliases choices false n.node.content = value.2 := by
      rw [shown.content rfl]
      exact (wildcardContent_fields (law.tagged value.1)).trans admitted.2.1
    have shows : c.Shows n (c.dump value.1) := ⟨shown.attributes, shown.text⟩
    have besides : ∀ tag, elementsTagged tag n.node.content =
        elementsTagged tag (c.dump value.1).children ++ elementsTagged tag value.2 := by
      intro tag
      rw [shown.content rfl, elementsTagged_append, elementsTagged_append, elementsTagged_textNode]
      rfl
    simp only [withWildcard_ok, content, Prod.forall, Prod.exists]
    by_cases clear : ∀ node ∈ value.2, ∀ tag ∈ c.wants value.1, ¬ node.Tagged tag
    · have one := law.rereads value.1 admitted.1 n ⟨shows, ?_, by simp [closed]⟩
      · constructor
        · simp only [withWildcard, one.1, and_iff_left clear]
          constructor
          · rintro ⟨value', read⟩
            exact ⟨value', _, read, rfl⟩
          · rintro ⟨value', _, read, -⟩
            exact ⟨value', read⟩
        · rintro value' _ ⟨read, rfl⟩
          exact ⟨one.2 _ read, rfl⟩
      · intro tag member
        rcases List.mem_append.mp member with sees | wants
        · exact shown.children tag (List.mem_append_left _ sees)
        · rw [besides, elementsTagged_none fun node inside => clear node inside tag wants, List.append_nil]
    · simp only [not_forall, not_not] at clear
      obtain ⟨node, inside, tag, wanted, isTagged⟩ := clear
      have present : elementsTagged tag n.node.content ≠ [] := by
        rw [besides]
        apply List.append_ne_nil_of_right_ne_nil
        exact List.ne_nil_of_mem (List.mem_filter.mpr ⟨inside, decide_eq_true isTagged⟩)
      have refused := law.refuses value.1 n shows tag wanted present
      constructor
      · constructor
        · rintro ⟨-, clear⟩
          exact absurd isTagged (clear node inside tag wanted)
        · rintro ⟨value', _, read, -⟩
          exact absurd ⟨value', read⟩ refused
      · rintro value' _ ⟨read, -⟩
        exact absurd ⟨value', read⟩ refused

end RecordLaws

end Codec

end ElementCodec
