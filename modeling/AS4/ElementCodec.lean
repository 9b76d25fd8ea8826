import AS4.ElementTree
import AS4.FallibleSteps
import AS4.PythonData

/-!
Record types read from and written to XML elements. A record is declared field by
field: where the field is kept (a child element, an attribute, the text), under
which alias, and under which field name. From the declaration come a reader,
which looks an alias up before the field's own name, and a writer.

The reader works on the element as a dictionary: child elements by tag, `@name`
for attributes, `#text` for the stripped leading text. Only a child element in no
namespace can be found by a field's own name.

`Lawful` says what reading back a written record gives, and composes: a record is
lawful when its fields are and no field reads what another writes.
-/

namespace ElementCodec
open ElementTree FallibleSteps PythonData

/-- The tag as the library prints it, `{namespace}name`. -/
def clark (name : QName) : String :=
  if name.uri = "" then name.localName else "\x7b" ++ name.uri ++ "\x7d" ++ name.localName

inductive LocItem where
  | key (name : String)
  | index (position : Nat)
  deriving DecidableEq, Repr

inductive ErrorKind where
  | missing
  | repeated (count : Nat)
  | invalid (message : String)
  deriving DecidableEq, Repr

/-- The first error a validation reports: what is wrong, and where. -/
structure ErrorDetails where
  loc : List LocItem
  kind : ErrorKind
  deriving DecidableEq, Repr

def ErrorDetails.under (item : LocItem) (details : ErrorDetails) : ErrorDetails :=
  { details with loc := item :: details.loc }

abbrev Validation (α : Type) := Except ErrorDetails α

/-- A value kept as a string; `expected` is the complaint about anything else,
made at the first of its alternatives when the type is a union. -/
structure Scalar (α : Type) where
  decode : String → Except String α
  encode : α → String
  expected : String
  alternative : List LocItem := []

/-- `T | None` -/
def Scalar.optional {α : Type} (scalar : Scalar α) : Scalar (Option α) where
  decode s := (scalar.decode s).map some
  encode value := (value.map scalar.encode).getD ""
  expected := scalar.expected
  alternative := scalar.alternative

def Scalar.string : Scalar String := ⟨.ok, id, "Input should be a valid string", []⟩

/-- What a record, or one of its fields, adds to the element written for it. -/
structure Fragment where
  attributes : List (QName × String) := []
  text : String := ""
  children : List Node := []
  wildcard : List Node := []

namespace Fragment

def append (first second : Fragment) : Fragment where
  attributes := first.attributes ++ second.attributes
  text := first.text ++ second.text
  children := first.children ++ second.children
  wildcard := first.wildcard ++ second.wildcard

end Fragment

/-- Setting an empty text leaves no text behind. -/
def textNode (s : String) : List Node := if s = "" then [] else [.text s]

def Fragment.toElement (tag : QName) (fragment : Fragment) : Node :=
  .element tag fragment.attributes (textNode fragment.text ++ fragment.children ++ fragment.wildcard)

section Lookup

/-- The child elements a field reads, with the key they were found under: the
alias, or else the field's own name. -/
def lookupChildren (n : Located) (tag : QName) (name : String) : Option (String × List Located) :=
  match n.childrenTagged tag with
  | [] =>
      match n.childrenTagged (.plain name) with
      | [] => none
      | child :: rest => some (name, child :: rest)
  | child :: rest => some (clark tag, child :: rest)

/-- The value a scalar field reads. `none` inside stands for child elements found
under the field's own name, which are no string. -/
def lookupScalar (direct : Option String) (key : String) (n : Located) (name : String) :
    Option (String × Option String) :=
  match direct with
  | some s => some (key, some s)
  | none =>
      match n.childrenTagged (.plain name) with
      | [] => none
      | _ :: _ => some (name, none)

/-- `element.text.strip()`, when that leaves anything. -/
def strippedText (n : Located) : Option String :=
  if strip n.node.leadingText = "" then none else some (strip n.node.leadingText)

def missing {α : Type} (key : String) : Validation α := .error ⟨[.key key], .missing⟩

def decodeAt {α : Type} (scalar : Scalar α) (key : String) (value : Option String) : Validation α :=
  match value with
  | some s => (scalar.decode s).mapError fun message => ⟨[.key key], .invalid message⟩
  | none => .error ⟨.key key :: scalar.alternative, .invalid scalar.expected⟩

def only {α : Type} (read : Located → Validation α) (key : String) : List Located → Validation α
  | [child] => (read child).mapError (·.under (.key key))
  | children => .error ⟨[.key key], .repeated children.length⟩

def every {α : Type} (read : Located → Validation α) (key : String) (children : List Located) :
    Validation (List α) :=
  readFrom (fun index child => (read child).mapError fun details =>
    (details.under (.index index)).under (.key key)) 0 children

theorem lookupChildren_subset {n : Located} {tag : QName} {name key : String} {found : List Located}
    (looked : lookupChildren n tag name = some (key, found)) : ∀ child ∈ found, child ∈ n.children := by
  unfold lookupChildren at looked
  intro child member
  split at looked
  · split at looked
    · simp at looked
    · rename_i first rest byName
      obtain ⟨-, rfl⟩ := Prod.mk.inj (Option.some.inj looked)
      rw [← byName] at member
      exact (Located.mem_childrenTagged.mp member).1
  · rename_i first rest byAlias
    obtain ⟨-, rfl⟩ := Prod.mk.inj (Option.some.inj looked)
    rw [← byAlias] at member
    exact (Located.mem_childrenTagged.mp member).1

theorem lookupChildren_document {n child : Located} {tag : QName} {name key : String} {rest : List Located}
    (looked : lookupChildren n tag name = some (key, child :: rest)) : child.document = n.document :=
  (Located.mem_children.mp (lookupChildren_subset looked child List.mem_cons_self)).1

/-- Where the alias has a child, it has just the one a singular field reads. -/
theorem childrenTagged_of_lookup {n child : Located} {tag : QName} {name key : String}
    (looked : lookupChildren n tag name = some (key, [child])) (present : n.childrenTagged tag ≠ []) :
    n.childrenTagged tag = [child] := by
  unfold lookupChildren at looked
  split at looked
  · rename_i absent
    exact absurd absent present
  · rename_i first rest byAlias
    rw [byAlias]
    exact (Prod.mk.inj (Option.some.inj looked)).2

/-- A child under the alias settles what the field reads. -/
theorem lookupChildren_alias {n c : Located} {tag : QName} {name : String}
    (present : c ∈ n.childrenTagged tag) :
    lookupChildren n tag name = some (clark tag, n.childrenTagged tag) := by
  unfold lookupChildren
  split
  · rename_i absent
    simp [absent] at present
  · rename_i first rest byAlias
    rw [byAlias]

end Lookup

/-- A field, or a whole record, with what it reads and writes. `reload` is what
dumping it to JSON and validating that again gives, when it validates. `readable`
says when the written form can be read back, `reread` what that gives at an
element, and `admits` which values the two describe. `storable` says when a dumped
value validates again, and `bare` that it has no content beside its fields. `sees` are the tags of the
children that are looked for when a written value is read back, and `wants` the
tags of those that would stand in for text that was not written. -/
structure Codec (α : Type) where
  validate : Located → Validation α
  dump : α → Fragment
  reload : α → Option α := some
  aliases : List QName := []
  names : List String := []
  attributes : List QName := []
  hasText : Bool := false
  openContent : Bool := false
  sees : α → List QName := fun _ => []
  wants : α → List QName := fun _ => []
  admits : α → Prop := fun _ => True
  readable : α → Prop
  reread : Located → α → α → Prop
  storable : α → Prop := fun _ => True
  bare : α → Prop := fun _ => True

namespace Codec
variable {α β γ : Type}

/-- `dump_to_xml` -/
def element (c : Codec α) (tag : QName) (value : α) : Node := (c.dump value).toElement tag

/-- The tags of the children a codec may look at. -/
def childTags (c : Codec α) : List QName := c.aliases ++ c.names.map .plain

/-- Some child is this node, and there something holds. -/
def Below (n : Located) (node : Node) (holds : Located → Prop) : Prop :=
  ∃ child ∈ n.children, child.node = node ∧ holds child

section Fields

/-- `Singular[T]` -/
def singular (tag : QName) (name : String) (c : Codec α) : Codec α where
  validate n :=
    match lookupChildren n tag name with
    | none => missing (clark tag)
    | some (key, children) => only c.validate key children
  dump value := { children := [c.element tag value] }
  reload := c.reload
  aliases := [tag]
  names := [name]
  sees _ := [tag, .plain name]
  admits := c.admits
  readable := c.readable
  reread n value value' := Below n (c.element tag value) fun child => c.reread child value value'
  storable := c.storable
  bare := c.bare

/-- `Singular[T] | None`, absent by default -/
def optional (tag : QName) (name : String) (c : Codec α) : Codec (Option α) where
  validate n :=
    match lookupChildren n tag name with
    | none => .ok none
    | some (key, children) => (only c.validate key children).map some
  dump value := { children := value.toList.map (c.element tag) }
  reload value :=
    match value with
    | none => some none
    | some present => (c.reload present).map some
  aliases := [tag]
  names := [name]
  sees _ := [tag, .plain name]
  admits value := ∀ present ∈ value, c.admits present
  readable value := ∀ present ∈ value, c.readable present
  reread n := Option.Rel fun value value' => Below n (c.element tag value) fun child => c.reread child value value'
  storable value := ∀ present ∈ value, c.storable present
  bare value := ∀ present ∈ value, c.bare present

/-- `list[T]`, empty by default -/
def many (tag : QName) (name : String) (c : Codec α) : Codec (List α) where
  validate n :=
    match lookupChildren n tag name with
    | none => .ok []
    | some (key, children) => every c.validate key children
  dump values := { children := values.map (c.element tag) }
  reload values := values.mapM c.reload
  aliases := [tag]
  names := [name]
  sees _ := [tag, .plain name]
  admits values := ∀ value ∈ values, c.admits value
  readable values := ∀ value ∈ values, c.readable value
  reread n := List.Forall₂ fun value value' => Below n (c.element tag value) fun child => c.reread child value value'
  storable values := ∀ value ∈ values, c.storable value
  bare values := ∀ value ∈ values, c.bare value

/-- `list[T]`, empty by default but never validated empty. -/
def manyMinOne (tag : QName) (name : String) (c : Codec α) : Codec (List α) :=
  { many tag name c with
    reload := fun values => if values.isEmpty then none else values.mapM c.reload
    storable := fun values => values ≠ [] ∧ ∀ value ∈ values, c.storable value }

/-- `list[T]` without a default -/
def someOf (tag : QName) (name : String) (c : Codec α) : Codec (List α) where
  validate n :=
    match lookupChildren n tag name with
    | none => missing (clark tag)
    | some (key, children) => every c.validate key children
  dump values := { children := values.map (c.element tag) }
  reload values := values.mapM c.reload
  aliases := [tag]
  names := [name]
  sees _ := [tag, .plain name]
  admits values := ∀ value ∈ values, c.admits value
  readable values := values ≠ [] ∧ ∀ value ∈ values, c.readable value
  reread n := List.Forall₂ fun value value' => Below n (c.element tag value) fun child => c.reread child value value'
  storable values := ∀ value ∈ values, c.storable value
  bare values := ∀ value ∈ values, c.bare value

/-- `list[T] | None`, absent by default -/
def optionalMany (tag : QName) (name : String) (c : Codec α) : Codec (Option (List α)) where
  validate n :=
    match lookupChildren n tag name with
    | none => .ok none
    | some (key, children) => (every c.validate key children).map some
  dump values := { children := (values.getD []).map (c.element tag) }
  reload values :=
    match values with
    | none => some none
    | some present => (present.mapM c.reload).map some
  aliases := [tag]
  names := [name]
  sees _ := [tag, .plain name]
  admits values := ∀ value ∈ values.getD [], c.admits value
  readable values := ∀ value ∈ values.getD [], c.readable value
  reread n values values' :=
    match values' with
    | none => values.getD [] = []
    | some read => read ≠ [] ∧ List.Forall₂
        (fun value value' => Below n (c.element tag value) fun child => c.reread child value value') (values.getD []) read
  storable values := ∀ value ∈ values.getD [], c.storable value
  bare values := ∀ value ∈ values.getD [], c.bare value

/-- An attribute is only written when its text is not empty. -/
def attributeFragment (name : QName) (s : String) : Fragment :=
  { attributes := if s = "" then [] else [(name, s)] }

/-- A required attribute. -/
def requiredAttribute (scalar : Scalar α) (attr : QName) (name : String) : Codec α where
  validate n :=
    match lookupScalar (n.node.attribute attr) ("@" ++ clark attr) n name with
    | none => missing ("@" ++ clark attr)
    | some (key, value) => decodeAt scalar key value
  dump value := attributeFragment attr (scalar.encode value)
  names := [name]
  attributes := [attr]
  wants value := if scalar.encode value = "" then [.plain name] else []
  readable value := scalar.encode value ≠ "" ∧ ∃ value', scalar.decode (scalar.encode value) = .ok value'
  reread _ value value' := scalar.decode (scalar.encode value) = .ok value'

/-- An attribute with a default. -/
def attributeOr (scalar : Scalar α) (default : α) (attr : QName) (name : String) : Codec α where
  validate n :=
    match lookupScalar (n.node.attribute attr) ("@" ++ clark attr) n name with
    | none => .ok default
    | some (key, value) => decodeAt scalar key value
  dump value := attributeFragment attr (scalar.encode value)
  names := [name]
  attributes := [attr]
  wants value := if scalar.encode value = "" then [.plain name] else []
  readable value := scalar.encode value = "" ∨ ∃ value', scalar.decode (scalar.encode value) = .ok value'
  reread _ value value' :=
    if scalar.encode value = "" then value' = default else scalar.decode (scalar.encode value) = .ok value'

/-- An optional attribute, absent by default. -/
def optionalAttribute (scalar : Scalar α) (attr : QName) (name : String) : Codec (Option α) :=
  attributeOr (Scalar.optional scalar) none attr name

/-- The element's text, required. -/
def requiredText (scalar : Scalar α) (name : String) : Codec α where
  validate n :=
    match lookupScalar (strippedText n) "#text" n name with
    | none => missing "#text"
    | some (key, value) => decodeAt scalar key value
  dump value := { text := scalar.encode value }
  names := [name]
  hasText := true
  wants value := if strip (scalar.encode value) = "" then [.plain name] else []
  readable value :=
    strip (scalar.encode value) ≠ "" ∧ ∃ value', scalar.decode (strip (scalar.encode value)) = .ok value'
  reread _ value value' := scalar.decode (strip (scalar.encode value)) = .ok value'

/-- The element's text, with a default. -/
def textOr (scalar : Scalar α) (default : α) (name : String) : Codec α where
  validate n :=
    match lookupScalar (strippedText n) "#text" n name with
    | none => .ok default
    | some (key, value) => decodeAt scalar key value
  dump value := { text := scalar.encode value }
  names := [name]
  hasText := true
  wants value := if strip (scalar.encode value) = "" then [.plain name] else []
  readable value :=
    strip (scalar.encode value) = "" ∨ ∃ value', scalar.decode (strip (scalar.encode value)) = .ok value'
  reread _ value value' :=
    if strip (scalar.encode value) = "" then value' = default
    else scalar.decode (strip (scalar.encode value)) = .ok value'

/-- The element itself, kept beside what was read from it and never written or
stored. -/
def etreeElement : Codec (Option Located) where
  validate n := .ok (some n)
  dump _ := {}
  reload _ := some none
  readable _ := True
  reread n _ value := value = some n

/-- A record without fields. -/
def nothing : Codec Unit where
  validate _ := .ok ()
  dump _ := {}
  readable _ := True
  reread _ _ _ := True

end Fields

section Records

/-- Two groups of fields, the first read and written before the second. -/
def pair (c : Codec α) (d : Codec β) : Codec (α × β) where
  validate n := do
    let first ← c.validate n
    let second ← d.validate n
    return (first, second)
  dump value := (c.dump value.1).append (d.dump value.2)
  reload value := do
    let first ← c.reload value.1
    let second ← d.reload value.2
    return (first, second)
  aliases := c.aliases ++ d.aliases
  names := c.names ++ d.names
  attributes := c.attributes ++ d.attributes
  hasText := c.hasText || d.hasText
  openContent := c.openContent || d.openContent
  sees value := c.sees value.1 ++ d.sees value.2
  wants value := c.wants value.1 ++ d.wants value.2
  admits value := c.admits value.1 ∧ d.admits value.2
  readable value := c.readable value.1 ∧ d.readable value.2
  reread n value value' := c.reread n value.1 value'.1 ∧ d.reread n value.2 value'.2
  storable value := c.storable value.1 ∧ d.storable value.2
  bare value := c.bare value.1 ∧ d.bare value.2

/-- The fields of a structure, given how to take it apart and put it together. -/
def record (c : Codec α) (build : α → β) (fields : β → α) : Codec β where
  validate n := (c.validate n).map build
  dump value := c.dump (fields value)
  reload value := (c.reload (fields value)).map build
  aliases := c.aliases
  names := c.names
  attributes := c.attributes
  hasText := c.hasText
  openContent := c.openContent
  sees value := c.sees (fields value)
  wants value := c.wants (fields value)
  admits value := c.admits (fields value)
  readable value := c.readable (fields value)
  reread n value value' := c.reread n (fields value) (fields value')
  storable value := c.storable (fields value)
  bare value := c.bare (fields value)

/-- Whether a child counts as wildcard content. The tag of a comment or of a
processing instruction is no name, so it is no declared alias and no choice. -/
def wild (existing : List QName) (choices : Option (List QName)) (node : Node) : Bool :=
  match node.tag? with
  | some tag => !existing.contains tag && (choices.all fun allowed => allowed.contains tag)
  | none => choices.isNone

/-- The wildcard children of an element, each with the text that follows it. -/
def wildcardContent (existing : List QName) (choices : Option (List QName)) : Bool → List Node → List Node
  | _, [] => []
  | keeping, .text data :: rest =>
      if keeping then .text data :: wildcardContent existing choices keeping rest
      else wildcardContent existing choices keeping rest
  | _, node :: rest =>
      if wild existing choices node then node :: wildcardContent existing choices true rest
      else wildcardContent existing choices false rest

/-- A record whose class declares a wildcard: its other children are kept as they
are and written after the fields. -/
def withWildcard (choices : Option (List QName)) (c : Codec α) : Codec (α × List Node) where
  validate n := do
    let fields ← c.validate n
    return (fields, wildcardContent c.aliases choices false n.node.content)
  dump value := { c.dump value.1 with wildcard := value.2 }
  reload value := (c.reload value.1).map fun fields => (fields, [])
  aliases := c.aliases
  names := c.names
  attributes := c.attributes
  hasText := c.hasText
  openContent := true
  sees value := c.sees value.1
  admits value := c.admits value.1 ∧ wildcardContent c.aliases choices false value.2 = value.2 ∧
    ∀ node ∈ value.2, ∀ tag ∈ c.sees value.1, ¬ node.Tagged tag
  readable value := c.readable value.1 ∧ ∀ node ∈ value.2, ∀ tag ∈ c.wants value.1, ¬ node.Tagged tag
  reread n value value' := c.reread n value.1 value'.1 ∧ value'.2 = value.2
  storable value := c.storable value.1
  bare value := c.bare value.1 ∧ value.2 = []

end Records

section Inversion
variable {c : Codec α} {d : Codec β} {n : Located} {tag : QName} {name : String}

theorem only_ok {read : Located → Validation α} {key : String} {children : List Located} {value : α} :
    only read key children = .ok value ↔ ∃ child, children = [child] ∧ read child = .ok value := by
  unfold only
  split
  · simp [mapError_ok]
  · rename_i several
    simp only [reduceCtorEq, false_iff, not_exists, not_and]
    intro child same
    exact absurd same (several child)

theorem every_ok {read : Located → Validation α} {key : String} {children : List Located} {values : List α} :
    every read key children = .ok values ↔
      List.Forall₂ (fun child value => read child = .ok value) children values := by
  constructor
  · intro succeeded
    unfold every at succeeded
    refine readFrom_forall₂ ?_ succeeded
    intro index child value here
    exact mapError_ok.mp here
  · intro each
    refine readFrom_of_forall₂ ?_ each 0
    intro index child value here
    exact mapError_ok.mpr here

theorem record_ok {build : α → γ} {fields : γ → α} {value : γ} :
    (record c build fields).validate n = .ok value ↔ ∃ raw, c.validate n = .ok raw ∧ build raw = value :=
  map_ok

theorem pair_ok {value : α × β} :
    (pair c d).validate n = .ok value ↔ c.validate n = .ok value.1 ∧ d.validate n = .ok value.2 := by
  simp only [pair, bind_ok, pure_ok]
  constructor
  · rintro ⟨first, one, second, two, rfl⟩
    exact ⟨one, two⟩
  · rintro ⟨one, two⟩
    exact ⟨_, one, _, two, rfl⟩

theorem withWildcard_ok {choices : Option (List QName)} {value : α × List Node} :
    (withWildcard choices c).validate n = .ok value ↔
      c.validate n = .ok value.1 ∧ wildcardContent c.aliases choices false n.node.content = value.2 := by
  simp only [withWildcard, bind_ok, pure_ok]
  constructor
  · rintro ⟨fields, read, rfl⟩
    exact ⟨read, rfl⟩
  · rintro ⟨read, content⟩
    exact ⟨_, read, Prod.ext rfl content⟩

theorem singular_ok {value : α} :
    (singular tag name c).validate n = .ok value ↔
      ∃ key child, lookupChildren n tag name = some (key, [child]) ∧ c.validate child = .ok value := by
  simp only [singular]
  cases lookupChildren n tag name with
  | none => simp [missing]
  | some found =>
      obtain ⟨key, children⟩ := found
      simp only [only_ok, Option.some.injEq, Prod.mk.injEq]
      constructor
      · rintro ⟨child, rfl, read⟩
        exact ⟨key, child, ⟨rfl, rfl⟩, read⟩
      · rintro ⟨_, child, ⟨-, rfl⟩, read⟩
        exact ⟨child, rfl, read⟩

theorem optional_some {value : α} :
    (optional tag name c).validate n = .ok (some value) ↔
      ∃ key child, lookupChildren n tag name = some (key, [child]) ∧ c.validate child = .ok value := by
  simp only [optional]
  cases lookupChildren n tag name with
  | none => simp
  | some found =>
      obtain ⟨key, children⟩ := found
      simp only [map_ok, only_ok, Option.some.injEq, Prod.mk.injEq]
      constructor
      · rintro ⟨_, ⟨child, rfl, read⟩, rfl⟩
        exact ⟨key, child, ⟨rfl, rfl⟩, read⟩
      · rintro ⟨_, child, ⟨-, rfl⟩, read⟩
        exact ⟨value, ⟨child, rfl, read⟩, rfl⟩

theorem optional_none :
    (optional tag name c).validate n = .ok none ↔ lookupChildren n tag name = none := by
  simp only [optional]
  cases lookupChildren n tag name with
  | none => simp
  | some found => simp [map_ok]

/-- The children a list field reads: those found, or none. -/
def foundChildren (n : Located) (tag : QName) (name : String) : List Located :=
  ((lookupChildren n tag name).map Prod.snd).getD []

theorem many_ok {values : List α} :
    (many tag name c).validate n = .ok values ↔
      List.Forall₂ (fun child value => c.validate child = .ok value) (foundChildren n tag name) values := by
  simp only [many, foundChildren]
  cases lookupChildren n tag name with
  | none => simp [eq_comm]
  | some found => exact every_ok

theorem manyMinOne_ok {values : List α} :
    (manyMinOne tag name c).validate n = .ok values ↔
      List.Forall₂ (fun child value => c.validate child = .ok value) (foundChildren n tag name) values :=
  many_ok

theorem someOf_ok {values : List α} (succeeded : (someOf tag name c).validate n = .ok values) :
    List.Forall₂ (fun child value => c.validate child = .ok value) (foundChildren n tag name) values := by
  simp only [someOf] at succeeded
  unfold foundChildren
  cases looked : lookupChildren n tag name with
  | none => simp [looked, missing] at succeeded
  | some found =>
      simp only [looked] at succeeded
      exact every_ok.mp succeeded

theorem foundChildren_nodup (n : Located) (tag : QName) (name : String) : (foundChildren n tag name).Nodup := by
  have distinct : ∀ other, (n.childrenTagged other).Nodup := fun other => n.children_nodup.filter _
  unfold foundChildren lookupChildren
  split
  · split
    · simp
    · rename_i first rest byName
      simpa [← byName] using distinct _
  · rename_i first rest byAlias
    simpa [← byAlias] using distinct _

/-- Related elements are looked up in under the same name, with related results. -/
theorem lookupChildren_related {related : Located → Located → Prop} {n n' : Located}
    (children : ∀ tag, List.Forall₂ related (n.childrenTagged tag) (n'.childrenTagged tag)) (tag : QName) (name : String) :
    Option.Rel (fun found found' => found.1 = found'.1 ∧ List.Forall₂ related found.2 found'.2) (lookupChildren n tag name)
      (lookupChildren n' tag name) := by
  have byAlias := children tag
  have byName := children (.plain name)
  unfold lookupChildren
  generalize n.childrenTagged tag = tagged, n'.childrenTagged tag = tagged' at byAlias
  generalize n.childrenTagged (.plain name) = named, n'.childrenTagged (.plain name) = named' at byName
  cases byAlias with
  | cons one rest => exact .some ⟨rfl, .cons one rest⟩
  | nil =>
      cases byName with
      | nil => exact .none
      | cons one rest => exact .some ⟨rfl, .cons one rest⟩

theorem foundChildren_related {related : Located → Located → Prop} {n n' : Located}
    (children : ∀ tag, List.Forall₂ related (n.childrenTagged tag) (n'.childrenTagged tag)) (tag : QName) (name : String) :
    List.Forall₂ related (foundChildren n tag name) (foundChildren n' tag name) := by
  have found := lookupChildren_related children tag name
  unfold foundChildren
  generalize lookupChildren n tag name = looked, lookupChildren n' tag name = looked' at found ⊢
  cases found with
  | none => exact .nil
  | some both => exact both.2

theorem mem_foundChildren {n child : Located} {tag : QName} {name : String}
    (member : child ∈ foundChildren n tag name) : child ∈ n.children := by
  unfold foundChildren at member
  cases looked : lookupChildren n tag name with
  | none => simp [looked] at member
  | some found =>
      obtain ⟨key, children⟩ := found
      exact lookupChildren_subset looked child (by simpa [looked] using member)

theorem etreeElement_ok {value : Option Located} : etreeElement.validate n = .ok value ↔ value = some n := by
  simp [etreeElement, eq_comm]

theorem decodeAt_ok {scalar : Scalar α} {key : String} {found : Option String} {value : α} :
    decodeAt scalar key found = .ok value ↔ ∃ s, found = some s ∧ scalar.decode s = .ok value := by
  unfold decodeAt
  cases found with
  | none => simp
  | some s => simp [mapError_ok]

theorem lookupScalar_direct {key s : String} : lookupScalar (some s) key n name = some (key, some s) := rfl

theorem lookupScalar_some {direct : Option String} {key found s : String} :
    lookupScalar direct key n name = some (found, some s) ↔ direct = some s ∧ found = key := by
  unfold lookupScalar
  cases direct with
  | none =>
      simp only [reduceCtorEq, false_and, iff_false]
      split <;> simp
  | some t => simp [and_comm, eq_comm]

theorem requiredAttribute_ok {scalar : Scalar α} {attr : QName} {value : α} :
    (requiredAttribute scalar attr name).validate n = .ok value ↔
      ∃ s, n.node.attribute attr = some s ∧ scalar.decode s = .ok value := by
  simp only [requiredAttribute]
  cases looked : lookupScalar (n.node.attribute attr) ("@" ++ clark attr) n name with
  | none =>
      simp only [missing, reduceCtorEq, false_iff, not_exists, not_and]
      intro s present
      simp [lookupScalar, present] at looked
  | some found =>
      obtain ⟨key, read⟩ := found
      simp only [decodeAt_ok]
      constructor
      · rintro ⟨s, rfl, decoded⟩
        exact ⟨s, (lookupScalar_some.mp looked).1, decoded⟩
      · rintro ⟨s, present, decoded⟩
        rw [present, lookupScalar_direct] at looked
        obtain ⟨rfl, rfl⟩ := Prod.mk.inj (Option.some.inj looked)
        exact ⟨s, rfl, decoded⟩

theorem requiredText_ok {scalar : Scalar α} {value : α} :
    (requiredText scalar name).validate n = .ok value ↔
      ∃ s, strippedText n = some s ∧ scalar.decode s = .ok value := by
  simp only [requiredText]
  cases looked : lookupScalar (strippedText n) "#text" n name with
  | none =>
      simp only [missing, reduceCtorEq, false_iff, not_exists, not_and]
      intro s present
      simp [lookupScalar, present] at looked
  | some found =>
      obtain ⟨key, read⟩ := found
      simp only [decodeAt_ok]
      constructor
      · rintro ⟨s, rfl, decoded⟩
        exact ⟨s, (lookupScalar_some.mp looked).1, decoded⟩
      · rintro ⟨s, present, decoded⟩
        rw [present, lookupScalar_direct] at looked
        obtain ⟨rfl, rfl⟩ := Prod.mk.inj (Option.some.inj looked)
        exact ⟨s, rfl, decoded⟩

/-- Text that is read is never empty. -/
theorem strippedText_ne {s : String} (read : strippedText n = some s) : s ≠ "" := by
  unfold strippedText at read
  split at read
  · simp at read
  · rename_i solid
    obtain rfl := Option.some.inj read
    exact solid

end Inversion

section Reloading
variable {c : Codec α} {d : Codec β} {tag : QName} {name : String}

theorem mapM_some {items : List α} {values : List β} {read : α → Option β} :
    items.mapM read = some values ↔ List.Forall₂ (fun item value => read item = some value) items values := by
  induction items generalizing values with
  | nil => simp [eq_comm]
  | cons item rest ih =>
      simp only [List.mapM_cons, bind, Option.bind_eq_some_iff, pure, Option.some.injEq]
      constructor
      · rintro ⟨value, first, others, remaining, rfl⟩
        exact .cons first (ih.mp remaining)
      · rintro (_ | ⟨first, remaining⟩)
        exact ⟨_, first, _, ih.mpr remaining, rfl⟩

theorem record_reload {build : α → γ} {fields : γ → α} {before after : γ} :
    (record c build fields).reload before = some after ↔
      ∃ raw, c.reload (fields before) = some raw ∧ build raw = after := by
  simp [record]

theorem pair_reload {before after : α × β} :
    (pair c d).reload before = some after ↔
      c.reload before.1 = some after.1 ∧ d.reload before.2 = some after.2 := by
  simp only [pair, bind, Option.bind_eq_some_iff, pure, Option.some.injEq]
  constructor
  · rintro ⟨first, one, second, two, rfl⟩
    exact ⟨one, two⟩
  · rintro ⟨one, two⟩
    exact ⟨_, one, _, two, rfl⟩

theorem withWildcard_reload {choices : Option (List QName)} {before after : α × List Node} :
    (withWildcard choices c).reload before = some after ↔ c.reload before.1 = some after.1 ∧ after.2 = [] := by
  simp only [withWildcard, Option.map_eq_some_iff]
  constructor
  · rintro ⟨fields, kept, rfl⟩
    exact ⟨kept, rfl⟩
  · rintro ⟨kept, empty⟩
    exact ⟨_, kept, Prod.ext rfl empty.symm⟩

theorem optional_reload {before after : Option α} :
    (optional tag name c).reload before = some after ↔
      Option.Rel (fun present kept => c.reload present = some kept) before after := by
  cases before with
  | none =>
      cases after with
      | none => simp [optional]
      | some kept => simp only [optional, Option.some.injEq, reduceCtorEq, false_iff]; rintro ⟨⟩
  | some present =>
      cases after with
      | none => simp only [optional, Option.map_eq_some_iff, reduceCtorEq, and_false, exists_false, false_iff]; rintro ⟨⟩
      | some kept =>
          simp only [optional, Option.map_eq_some_iff, Option.some.injEq, exists_eq_right]
          constructor
          · intro same
            exact Option.Rel.some same
          · rintro ⟨same⟩
            exact same

theorem many_reload {before after : List α} :
    (many tag name c).reload before = some after ↔
      List.Forall₂ (fun item kept => c.reload item = some kept) before after :=
  mapM_some

theorem someOf_reload {before after : List α} :
    (someOf tag name c).reload before = some after ↔
      List.Forall₂ (fun item kept => c.reload item = some kept) before after :=
  mapM_some

end Reloading

end Codec

end ElementCodec
