import AS4.Comments

/-!
Two readings of trees that differ only by comments. The elements, their names and their
attributes are the same in both, and so is what is read of them; text is read up to the
first node that is not text, so it may be cut short in one tree and not in the other.
-/

namespace TwinReadings
open ElementTree ElementCodec ElementCodec.Codec FallibleSteps PythonData Comments

section Trees

theorem withoutComments_tag? (node : Node) : (withoutComments node).tag? = node.tag? := by
  cases node <;> rfl

theorem withoutComments_attrib (node : Node) : (withoutComments node).attrib = node.attrib := by
  cases node <;> rfl

theorem withoutComments_content (node : Node) : (withoutComments node).content = contentWithoutComments node.content := by
  cases node <;> simp [withoutComments, Node.content, contentWithoutComments]

theorem elementsTagged_joinText (tag : QName) (data : String) (content : List Node) :
    elementsTagged tag (joinText data content) = elementsTagged tag content := by
  cases content with
  | nil => simp [joinText, elementsTagged, Node.Tagged, Node.tag?]
  | cons node rest => cases node <;> simp [joinText, elementsTagged, Node.Tagged, Node.tag?]

/-- Dropping comments keeps every element in its place. -/
theorem elementsTagged_withoutComments (tag : QName) (content : List Node) :
    elementsTagged tag (contentWithoutComments content) = (elementsTagged tag content).map withoutComments := by
  induction content with
  | nil => simp [contentWithoutComments, elementsTagged]
  | cons node rest ih =>
      have kept : ∀ node, elementsTagged tag (withoutComments node :: contentWithoutComments rest) =
          (elementsTagged tag (node :: rest)).map withoutComments := by
        intro node
        by_cases tagged : node.Tagged tag
        · have still : (withoutComments node).Tagged tag := (withoutComments_tag? node).trans tagged
          simpa [elementsTagged, tagged, still] using ih
        · have still : ¬ (withoutComments node).Tagged tag := fun other => tagged ((withoutComments_tag? node).symm.trans other)
          simpa [elementsTagged, tagged, still] using ih
      cases node with
      | comment data => simpa [contentWithoutComments, elementsTagged, Node.Tagged, Node.tag?] using ih
      | text data =>
          rw [contentWithoutComments, elementsTagged_joinText, ih]
          simp [elementsTagged, Node.Tagged, Node.tag?]
      | element _ _ _ | processingInstruction _ _ _ | entity _ => exact kept _

end Trees

section Twins
variable {n n' : Located} {tag attr : QName} {name : String}

/-- The two nodes are the same but for comments. -/
def Twins (n n' : Located) : Prop := withoutComments n.node = withoutComments n'.node

theorem Twins.attribute (twins : Twins n n') : n.node.attribute attr = n'.node.attribute attr := by
  rw [Node.attribute, Node.attribute, ← withoutComments_attrib n.node, ← withoutComments_attrib n'.node, twins]

theorem Twins.childrenTagged (twins : Twins n n') (tag : QName) :
    List.Forall₂ Twins (n.childrenTagged tag) (n'.childrenTagged tag) := by
  have nodes : ((n.childrenTagged tag).map (·.node)).map withoutComments =
      ((n'.childrenTagged tag).map (·.node)).map withoutComments := by
    rw [n.childrenTagged_nodes, n'.childrenTagged_nodes, ← elementsTagged_withoutComments, ← elementsTagged_withoutComments,
      ← withoutComments_content, ← withoutComments_content, twins]
  rw [List.map_map, List.map_map] at nodes
  rw [← List.forall₂_eq_eq_eq, List.forall₂_map_left_iff, List.forall₂_map_right_iff] at nodes
  exact nodes

theorem Twins.foundChildren (twins : Twins n n') (tag : QName) (name : String) :
    List.Forall₂ Twins (foundChildren n tag name) (foundChildren n' tag name) :=
  foundChildren_related twins.childrenTagged tag name

end Twins

section Agreement
variable {α β γ : Type} {c : Codec α} {d : Codec β} {tag attr : QName} {name : String}

/-- What two readings of twins have in common, and when: `same` holds of the values just
when `texts` does of the nodes. -/
def Agree (c : Codec α) (same : α → α → Prop) (texts : Located → Located → Prop) : Prop :=
  ∀ ⦃n n' : Located⦄, Twins n n' → ∀ ⦃value value' : α⦄, c.validate n = .ok value → c.validate n' = .ok value' →
    (same value value' ↔ texts n n')

def Unread : Located → Located → Prop := fun _ _ => True

/-- Something holds of each two children a field finds. -/
def Beneath (tag : QName) (name : String) (texts : Located → Located → Prop) (n n' : Located) : Prop :=
  List.Forall₂ texts (foundChildren n tag name) (foundChildren n' tag name)

/-- The texts read at the end of a chain of fields are the same. -/
def SameTexts : List (QName × String) → Located → Located → Prop
  | [] => fun n n' => strip n.node.leadingText = strip n'.node.leadingText
  | (tag, name) :: rest => Beneath tag name (SameTexts rest)

/-- Where nothing is read, nothing has to be the same. -/
theorem Twins.beneath_unread (twins : Twins n n') (tag : QName) (name : String) :
    Beneath tag name (fun _ _ => True) n n' :=
  (twins.foundChildren tag name).imp fun _ _ _ => trivial

theorem beneath_and {texts texts' : Located → Located → Prop} :
    Beneath tag name (fun n n' => texts n n' ∧ texts' n n') n n' ↔ Beneath tag name texts n n' ∧ Beneath tag name texts' n n' := by
  unfold Beneath
  generalize foundChildren n tag name = children, foundChildren n' tag name = children'
  constructor
  · intro both
    exact ⟨both.imp fun _ _ => And.left, both.imp fun _ _ => And.right⟩
  · rintro ⟨first, second⟩
    exact forall₂_both first second

/-- Chains of fields that go on from one field. -/
theorem Twins.beneath_all (twins : Twins n n') (tag : QName) (name : String) (chains : List (List (QName × String))) :
    Beneath tag name (fun n n' => ∀ chain ∈ chains, SameTexts chain n n') n n' ↔
      ∀ chain ∈ chains, SameTexts ((tag, name) :: chain) n n' := by
  induction chains with
  | nil => simpa using twins.beneath_unread tag name
  | cons chain rest ih =>
      simp only [List.forall_mem_cons, ← ih]
      exact beneath_and

theorem leadingText_joinText (data : String) (content : List Node) :
    leadingText (joinText data content) = data ++ leadingText content := by
  cases content with
  | nil => rfl
  | cons node rest => cases node <;> simp [joinText, leadingText, String.append_assoc]

/-- The text that is read is where the whole text begins. -/
theorem whole_text (content : List Node) :
    ∃ more, leadingText (contentWithoutComments content) = leadingText content ++ more := by
  induction content with
  | nil => exact ⟨"", rfl⟩
  | cons node rest ih =>
      cases node with
      | text data =>
          obtain ⟨more, whole⟩ := ih
          exact ⟨more, by rw [contentWithoutComments, leadingText_joinText, whole, leadingText, String.append_assoc]⟩
      | element _ _ _ | comment _ | processingInstruction _ _ _ | entity _ => exact ⟨_, (String.empty_append ..).symm⟩

/-- What comments cut off the text of an element is nothing that is read. -/
def Uncut (n : Located) : Prop := strip (withoutComments n.node).leadingText = strip n.node.leadingText

theorem uncut_iff_blank (n : Located) : ∃ more, (withoutComments n.node).leadingText = n.node.leadingText ++ more ∧
    (Uncut n ↔ ∀ c ∈ more.toList, isSpace c = true) := by
  obtain ⟨more, whole⟩ := whole_text n.node.content
  rw [← withoutComments_content] at whole
  exact ⟨more, whole, by rw [Uncut, Node.leadingText, whole]; exact strip_append_iff⟩

/-- No text at the end of a chain of fields is cut. -/
def UncutTexts : List (QName × String) → Located → Prop
  | [], n => Uncut n
  | (tag, name) :: rest, n => ∀ child ∈ foundChildren n tag name, UncutTexts rest child

/-- Beside a document in which nothing is cut, texts are the same just where nothing is
cut either. -/
theorem Twins.sameTexts_iff {chain : List (QName × String)} (twins : Twins n n') (uncut : UncutTexts chain n) :
    SameTexts chain n n' ↔ UncutTexts chain n' := by
  induction chain generalizing n n' with
  | nil =>
      have whole : strip (withoutComments n.node).leadingText = strip n.node.leadingText := uncut
      have same : withoutComments n.node = withoutComments n'.node := twins
      change strip n.node.leadingText = strip n'.node.leadingText ↔ Uncut n'
      rw [Uncut, ← whole, same]
  | cons step rest ih =>
      obtain ⟨tag, name⟩ := step
      have found := twins.foundChildren tag name
      simp only [SameTexts, Beneath, UncutTexts] at uncut ⊢
      generalize Codec.foundChildren n tag name = children, Codec.foundChildren n' tag name = children' at found uncut
      induction found with
      | nil => simp
      | cons one _ others =>
          obtain ⟨first, remaining⟩ := List.forall_mem_cons.mp uncut
          rw [List.forall₂_cons, List.forall_mem_cons]
          exact and_congr (ih one first) (others remaining)

theorem Agree.congr {same same' : α → α → Prop} {texts texts' : Located → Located → Prop} (agree : Agree c same texts)
    (values : ∀ value value', same value value' ↔ same' value value')
    (nodes : ∀ n n', Twins n n' → (texts n n' ↔ texts' n n')) : Agree c same' texts' :=
  fun n n' twins value value' read read' =>
    (values value value').symm.trans ((agree twins read read').trans (nodes n n' twins))

theorem agree_any : Agree c (fun _ _ => True) Unread := fun _ _ _ _ _ _ _ => Iff.rfl

theorem attribute_read {value : Option String} (read : (optionalAttribute .string attr name).validate n = .ok value) :
    value = n.node.attribute attr := by
  simp only [optionalAttribute, attributeOr] at read
  cases carried : n.node.attribute attr with
  | some s =>
      simp only [carried, lookupScalar_direct] at read
      exact (Except.ok.inj read).symm
  | none =>
      simp only [carried, lookupScalar] at read
      cases named : n.childrenTagged (.plain name) with
      | nil =>
          simp only [named] at read
          exact (Except.ok.inj read).symm
      | cons child rest => simp [named, decodeAt] at read

theorem agree_attribute : Agree (optionalAttribute .string attr name) Eq Unread := by
  intro n n' twins value value' read read'
  rw [attribute_read read, attribute_read read', twins.attribute]
  exact iff_of_true rfl trivial

theorem agree_requiredAttribute : Agree (requiredAttribute .string attr name) Eq Unread := by
  intro n n' twins value value' read read'
  obtain ⟨s, carried, decoded⟩ := requiredAttribute_ok.mp read
  obtain ⟨s', carried', decoded'⟩ := requiredAttribute_ok.mp read'
  obtain rfl : s = s' := Option.some.inj (carried.symm.trans (twins.attribute.trans carried'))
  exact iff_of_true (Except.ok.inj (decoded.symm.trans decoded')) trivial

theorem strippedText_read {s : String} (stripped : strippedText n = some s) : s = strip n.node.leadingText := by
  unfold strippedText at stripped
  split at stripped
  · simp at stripped
  · exact (Option.some.inj stripped).symm

theorem agree_requiredText : Agree (requiredText .string name) Eq (SameTexts []) := by
  intro n n' twins value value' read read'
  obtain ⟨s, stripped, decoded⟩ := requiredText_ok.mp read
  obtain ⟨s', stripped', decoded'⟩ := requiredText_ok.mp read'
  rw [← Except.ok.inj decoded, ← Except.ok.inj decoded', strippedText_read stripped, strippedText_read stripped']
  rfl

/-- Text with the empty text as default is read as it is. -/
theorem textOr_read {value : String} (read : (textOr .string "" name).validate n = .ok value) :
    value = strip n.node.leadingText := by
  simp only [textOr] at read
  cases stripped : strippedText n with
  | some s =>
      simp only [stripped, lookupScalar_direct] at read
      rw [← strippedText_read stripped]
      exact (Except.ok.inj read).symm
  | none =>
      have blank : strip n.node.leadingText = "" := by
        unfold strippedText at stripped
        split at stripped
        · assumption
        · simp at stripped
      simp only [stripped, lookupScalar] at read
      cases named : n.childrenTagged (.plain name) with
      | nil =>
          simp only [named] at read
          rw [blank, ← Except.ok.inj read]
      | cons child rest => simp [named, decodeAt] at read

theorem agree_textOr : Agree (textOr .string "" name) Eq (SameTexts []) := by
  intro n n' twins value value' read read'
  rw [textOr_read read, textOr_read read']
  rfl

theorem agree_pair {same : α → α → Prop} {same' : β → β → Prop} {texts texts' : Located → Located → Prop}
    (first : Agree c same texts) (second : Agree d same' texts') :
    Agree (pair c d) (fun value value' => same value.1 value'.1 ∧ same' value.2 value'.2)
      (fun n n' => texts n n' ∧ texts' n n') := by
  intro n n' twins value value' read read'
  obtain ⟨one, other⟩ := pair_ok.mp read
  obtain ⟨one', other'⟩ := pair_ok.mp read'
  exact and_congr (first twins one one') (second twins other other')

theorem agree_record {build : α → γ} {fields : γ → α} {same : α → α → Prop} {texts : Located → Located → Prop}
    (kept : ∀ raw, fields (build raw) = raw) (agree : Agree c same texts) :
    Agree (record c build fields) (fun value value' => same (fields value) (fields value')) texts := by
  intro n n' twins value value' read read'
  obtain ⟨raw, one, rfl⟩ := record_ok.mp read
  obtain ⟨raw', one', rfl⟩ := record_ok.mp read'
  simp only [kept]
  exact agree twins one one'

theorem agree_wildcard {choices : Option (List QName)} {same : α → α → Prop} {texts : Located → Located → Prop}
    (agree : Agree c same texts) : Agree (withWildcard choices c) (fun value value' => same value.1 value'.1) texts :=
  fun _ _ twins _ _ read read' => agree twins (withWildcard_ok.mp read).1 (withWildcard_ok.mp read').1

/-- Two lists of values read from twins, one for one. -/
theorem agree_each {same : α → α → Prop} {texts : Located → Located → Prop} (agree : Agree c same texts)
    {children children' : List Located} {values values' : List α} (twins : List.Forall₂ Twins children children')
    (read : List.Forall₂ (fun child value => c.validate child = .ok value) children values)
    (read' : List.Forall₂ (fun child value => c.validate child = .ok value) children' values') :
    List.Forall₂ same values values' ↔ List.Forall₂ texts children children' := by
  induction twins generalizing values values' with
  | nil =>
      obtain rfl := List.forall₂_nil_left_iff.mp read
      obtain rfl := List.forall₂_nil_left_iff.mp read'
      exact iff_of_true .nil .nil
  | cons one _ ih =>
      obtain ⟨value, rest, here, others, rfl⟩ := List.forall₂_cons_left_iff.mp read
      obtain ⟨value', rest', here', others', rfl⟩ := List.forall₂_cons_left_iff.mp read'
      rw [List.forall₂_cons, List.forall₂_cons, agree one here here', ih others others']

theorem agree_many {same : α → α → Prop} {texts : Located → Located → Prop} (agree : Agree c same texts) :
    Agree (many tag name c) (List.Forall₂ same) (Beneath tag name texts) :=
  fun _ _ twins _ _ read read' => agree_each agree (twins.foundChildren tag name) (many_ok.mp read) (many_ok.mp read')

theorem agree_manyMinOne {same : α → α → Prop} {texts : Located → Located → Prop} (agree : Agree c same texts) :
    Agree (manyMinOne tag name c) (List.Forall₂ same) (Beneath tag name texts) :=
  fun _ _ twins _ _ read read' =>
    agree_each agree (twins.foundChildren tag name) (manyMinOne_ok.mp read) (manyMinOne_ok.mp read')

theorem agree_singular {same : α → α → Prop} {texts : Located → Located → Prop} (agree : Agree c same texts) :
    Agree (singular tag name c) same (Beneath tag name texts) := by
  intro n n' twins value value' read read'
  obtain ⟨key, child, looked, one⟩ := singular_ok.mp read
  obtain ⟨key', child', looked', one'⟩ := singular_ok.mp read'
  have found : foundChildren n tag name = [child] := by simp [ElementCodec.Codec.foundChildren, looked]
  have found' : foundChildren n' tag name = [child'] := by simp [ElementCodec.Codec.foundChildren, looked']
  have pair := twins.foundChildren tag name
  rw [found, found', List.forall₂_cons] at pair
  rw [Beneath, found, found', List.forall₂_cons, agree pair.1 one one']
  simp

theorem agree_optional {same : α → α → Prop} {texts : Located → Located → Prop} (agree : Agree c same texts) :
    Agree (Codec.optional tag name c) (Option.Rel same) (Beneath tag name texts) := by
  intro n n' twins value value' read read'
  have pair := twins.foundChildren tag name
  have found : ∀ {m : Located} {value : Option α}, (Codec.optional tag name c).validate m = .ok value →
      List.Forall₂ (fun child value => c.validate child = .ok value) (foundChildren m tag name) value.toList := by
    intro m value read
    cases value with
    | none => simp [ElementCodec.Codec.foundChildren, optional_none.mp read]
    | some value =>
        obtain ⟨key, child, looked, one⟩ := optional_some.mp read
        simpa [ElementCodec.Codec.foundChildren, looked] using one
  rw [Beneath, ← agree_each agree pair (found read) (found read')]
  cases value <;> cases value' <;> simp

end Agreement

end TwinReadings
