import AS4.CodecLaws
import AS4.Verification

/-!
What a written element brings into the index of its document: its identifiers, and
the names of its processing instructions, are those of its fields.
-/

namespace WrittenIdentifiers
open ElementTree ElementCodec ElementCodec.Codec PythonData AS4Libraries Verification

section Dumping
variable {α β γ : Type} {c : Codec α} {d : Codec β} {tag attr : QName} {name : String}

/-! What each field of a record writes. -/

@[simp] theorem append_attributes (first second : Fragment) :
    (first.append second).attributes = first.attributes ++ second.attributes := rfl

@[simp] theorem append_children (first second : Fragment) :
    (first.append second).children = first.children ++ second.children := rfl

@[simp] theorem append_wildcard (first second : Fragment) :
    (first.append second).wildcard = first.wildcard ++ second.wildcard := rfl

@[simp] theorem record_dump {build : α → γ} {fields : γ → α} {value : γ} :
    (record c build fields).dump value = c.dump (fields value) := rfl

@[simp] theorem pair_dump {value : α × β} : (pair c d).dump value = (c.dump value.1).append (d.dump value.2) := rfl

@[simp] theorem singular_dump {value : α} : (singular tag name c).dump value = { children := [c.element tag value] } := rfl

@[simp] theorem optional_dump_none : (Codec.optional tag name c).dump none = {} := rfl

@[simp] theorem optional_dump_some {value : α} :
    (Codec.optional tag name c).dump (some value) = { children := [c.element tag value] } := rfl

@[simp] theorem many_dump {values : List α} :
    (many tag name c).dump values = { children := values.map (c.element tag) } := rfl

@[simp] theorem manyMinOne_dump {values : List α} :
    (manyMinOne tag name c).dump values = { children := values.map (c.element tag) } := rfl

@[simp] theorem someOf_dump {values : List α} :
    (someOf tag name c).dump values = { children := values.map (c.element tag) } := rfl

@[simp] theorem optionalMany_dump {values : Option (List α)} :
    (optionalMany tag name c).dump values = { children := (values.getD []).map (c.element tag) } := rfl

@[simp] theorem requiredAttribute_dump {scalar : Scalar α} {value : α} :
    (requiredAttribute scalar attr name).dump value = attributeFragment attr (scalar.encode value) := rfl

@[simp] theorem attributeOr_dump {scalar : Scalar α} {default value : α} :
    (attributeOr scalar default attr name).dump value = attributeFragment attr (scalar.encode value) := rfl

@[simp] theorem optionalAttribute_dump {scalar : Scalar α} {value : Option α} :
    (optionalAttribute scalar attr name).dump value = attributeFragment attr (scalar.optional.encode value) := rfl

@[simp] theorem requiredText_dump {scalar : Scalar α} {value : α} :
    (requiredText scalar name).dump value = { text := scalar.encode value } := rfl

@[simp] theorem textOr_dump {scalar : Scalar α} {default value : α} :
    (textOr scalar default name).dump value = { text := scalar.encode value } := rfl

@[simp] theorem etreeElement_dump {value : Option Located} : etreeElement.dump value = {} := rfl

@[simp] theorem nothing_dump : nothing.dump () = {} := rfl

@[simp] theorem withWildcard_dump {choices : Option (List QName)} {value : α × List Node} :
    (withWildcard choices c).dump value = { c.dump value.1 with wildcard := value.2 } := rfl

@[simp] theorem attributeFragment_children (attr : QName) (s : String) : (attributeFragment attr s).children = [] := rfl

@[simp] theorem attributeFragment_wildcard (attr : QName) (s : String) : (attributeFragment attr s).wildcard = [] := rfl

@[simp] theorem attributeFragment_attributes (attr : QName) (s : String) :
    (attributeFragment attr s).attributes = if s = "" then [] else [(attr, s)] := rfl

end Dumping

section Identifiers
variable [Libraries] {α : Type}

def attributeIds (attributes : List (QName × String)) : List String :=
  (attributes.filter fun entry => entry.1.localName == "Id").map (·.2)

omit [Libraries] in
@[simp] theorem attributeIds_nil : attributeIds [] = [] := rfl

omit [Libraries] in
@[simp] theorem attributeIds_append (first second : List (QName × String)) :
    attributeIds (first ++ second) = attributeIds first ++ attributeIds second := by
  simp [attributeIds]

omit [Libraries] in
@[simp] theorem attributeIds_cons (entry : QName × String) (rest : List (QName × String)) :
    attributeIds (entry :: rest) = (if entry.1.localName == "Id" then [entry.2] else []) ++ attributeIds rest := by
  simp only [attributeIds, List.filter_cons]
  split <;> simp

omit [Libraries] in
/-- The identifiers of a written element, from what its fields write. -/
theorem identifiers_written (c : Codec α) (tag : QName) (value : α) :
    identifiers (c.element tag value) = attributeIds (c.dump value).attributes ++
      (identifiersIn (c.dump value).children ++ identifiersIn (c.dump value).wildcard) := by
  simp [Codec.element, Fragment.toElement, identifiers_element, identifiersOf, attributeIds]

/-- Every processing instruction below is well named. -/
def Named (node : Node) : Prop := ∀ below ∈ node.subtrees, wellNamed below = true

def NamedIn (content : List Node) : Prop := ∀ below ∈ subtreesIn content, wellNamed below = true

@[simp] theorem namedIn_nil : NamedIn [] := by simp [NamedIn, subtreesIn]

@[simp] theorem namedIn_cons (node : Node) (rest : List Node) : NamedIn (node :: rest) ↔ Named node ∧ NamedIn rest := by
  simp only [NamedIn, Named, subtreesIn, List.mem_append, or_imp, forall_and]

@[simp] theorem namedIn_append (first second : List Node) :
    NamedIn (first ++ second) ↔ NamedIn first ∧ NamedIn second := by
  induction first with
  | nil => simp
  | cons node rest ih => simp [ih, and_assoc]

@[simp] theorem namedIn_textNode (s : String) : NamedIn (textNode s) := by
  unfold textNode
  split <;> simp [NamedIn, subtreesIn, Node.subtrees, wellNamed]

/-- The names in a written element are well formed where those in its content are. -/
theorem named_written (c : Codec α) (tag : QName) (value : α) :
    Named (c.element tag value) ↔ NamedIn (c.dump value).children ∧ NamedIn (c.dump value).wildcard := by
  have content : Named (c.element tag value) ↔
      NamedIn (textNode (c.dump value).text ++ (c.dump value).children ++ (c.dump value).wildcard) := by
    simp [Named, NamedIn, Codec.element, Fragment.toElement, Node.subtrees, wellNamed]
  simp [content]

end Identifiers

end WrittenIdentifiers
