import Mathlib

/-!
XML element trees as an ElementTree-style library shows them to a program: names
in Clark notation (namespace, local part), attributes as an association list in
document order, and a mixed content of elements, text, comments, processing
instructions and unexpanded entities. Prefixes are not represented.

A `Located` node remembers the document it stands in and its position there, so
two equal subtrees at different places stay different nodes.
-/

namespace ElementTree

structure QName where
  uri : String
  localName : String
  deriving Repr

/-- Local names tell most names apart. -/
instance : DecidableEq QName := fun first second =>
  decidable_of_iff (first.localName = second.localName ∧ first.uri = second.uri)
    (by cases first; cases second; simp [and_comm])

/-- The name of an element or attribute that is in no namespace. -/
def QName.plain (localName : String) : QName := ⟨"", localName⟩

/-- The pseudo-attributes of a processing instruction keep their raw names: they
are read off its text and need not be XML names. -/
inductive Node where
  | element (tag : QName) (attrib : List (QName × String)) (content : List Node)
  | text (data : String)
  | comment (data : String)
  | processingInstruction (target data : String) (pseudo : List (String × String))
  | entity (name : String)

namespace Node

def tag? : Node → Option QName
  | .element tag _ _ => some tag
  | _ => none

def attrib : Node → List (QName × String)
  | .element _ attrib _ => attrib
  | _ => []

def content : Node → List Node
  | .element _ _ content => content
  | _ => []

def Tagged (tag : QName) (node : Node) : Prop := node.tag? = some tag

instance (tag : QName) (node : Node) : Decidable (Tagged tag node) :=
  inferInstanceAs (Decidable (node.tag? = some tag))

end Node

/-- The text in front of the first node that is not text. Anything else, a
comment included, ends it. -/
def leadingText : List Node → String
  | .text data :: rest => data ++ leadingText rest
  | _ => ""

def Node.leadingText (node : Node) : String := ElementTree.leadingText node.content

def Node.attribute (name : QName) (node : Node) : Option String := node.attrib.lookup name

def elementsTagged (tag : QName) (content : List Node) : List Node :=
  content.filter (fun node => decide (node.Tagged tag))

abbrev Path := List Nat

def Node.descend : Node → Path → Option Node
  | node, [] => some node
  | node, index :: rest => node.content[index]?.bind (·.descend rest)

theorem descend_append (node : Node) (first second : Path) :
    node.descend (first ++ second) = (node.descend first).bind (·.descend second) := by
  induction first generalizing node with
  | nil => rfl
  | cons index rest ih =>
      simp only [List.cons_append, Node.descend]
      cases node.content[index]? with
      | none => rfl
      | some child => exact ih child

/-- A node of a document together with its place in it. -/
structure Located where
  document : Node
  path : Path
  node : Node
  located : document.descend path = some node

namespace Located

def root (document : Node) : Located := ⟨document, [], document, rfl⟩

/-- Within one document a place determines its node. -/
theorem ext_path {first second : Located} (document : first.document = second.document)
    (path : first.path = second.path) : first = second := by
  obtain ⟨d, p, n, hn⟩ := first
  obtain ⟨d', p', n', hn'⟩ := second
  obtain rfl : d = d' := document
  obtain rfl : p = p' := path
  obtain rfl : n = n' := Option.some.inj (hn.symm.trans hn')
  rfl

theorem located_child (n : Located) (index : Fin n.node.content.length) :
    n.document.descend (n.path ++ [index.val]) = some n.node.content[index] := by
  rw [descend_append, n.located]
  simp [Node.descend]

def child (n : Located) (index : Fin n.node.content.length) : Located :=
  ⟨n.document, n.path ++ [index.val], n.node.content[index], n.located_child index⟩

def children (n : Located) : List Located :=
  (List.finRange n.node.content.length).map n.child

def childrenTagged (n : Located) (tag : QName) : List Located :=
  n.children.filter (fun child => decide (child.node.Tagged tag))

theorem children_nodes (n : Located) : n.children.map (·.node) = n.node.content := by
  rw [children, List.map_map]
  exact List.map_getElem_finRange n.node.content

theorem childrenTagged_nodes (n : Located) (tag : QName) :
    (n.childrenTagged tag).map (·.node) = elementsTagged tag n.node.content := by
  rw [childrenTagged, elementsTagged, ← n.children_nodes, List.filter_map]
  rfl

theorem mem_children {n c : Located} :
    c ∈ n.children ↔ c.document = n.document ∧ ∃ index : Nat, c.path = n.path ++ [index] := by
  constructor
  · intro member
    obtain ⟨index, _, rfl⟩ := List.mem_map.mp member
    exact ⟨rfl, index.val, rfl⟩
  · rintro ⟨document, index, path⟩
    have reached := c.located
    rw [document, path, descend_append, n.located] at reached
    simp only [Option.bind_some, Node.descend] at reached
    have inside : index < n.node.content.length := by
      by_contra outside
      simp [List.getElem?_eq_none (Nat.le_of_not_lt outside)] at reached
    apply List.mem_map.mpr
    refine ⟨⟨index, inside⟩, List.mem_finRange _, ?_⟩
    exact ext_path document.symm path.symm

theorem children_nodup (n : Located) : n.children.Nodup := by
  apply List.Nodup.map _ (List.nodup_finRange _)
  intro first second same
  have places := congrArg Located.path same
  simpa [child, Fin.ext_iff] using places

theorem childrenTagged_document {n c : Located} {tag : QName} (member : c ∈ n.childrenTagged tag) :
    c.document = n.document :=
  (mem_children.mp (List.mem_filter.mp member).1).1

theorem childrenTagged_tag {n c : Located} {tag : QName} (member : c ∈ n.childrenTagged tag) :
    c.node.Tagged tag :=
  of_decide_eq_true (List.mem_filter.mp member).2

theorem mem_childrenTagged {n c : Located} {tag : QName} :
    c ∈ n.childrenTagged tag ↔ c ∈ n.children ∧ c.node.Tagged tag := by
  simp [childrenTagged]

/-- Every node reached by a path of tags, in document order. -/
def findAll : List QName → Located → List Located
  | [], n => [n]
  | tag :: rest, n => (n.childrenTagged tag).flatMap (findAll rest)

def find (n : Located) (tags : List QName) : Option Located := (findAll tags n).head?

/-- The leading text of the first node the path reaches. -/
def findText (n : Located) (tags : List QName) : Option String :=
  (n.find tags).map (·.node.leadingText)

end Located

namespace Located

theorem findAll_only {n child : Located} {tag : QName} {rest : List QName}
    (only : n.childrenTagged tag = [child]) : findAll (tag :: rest) n = findAll rest child := by
  simp [findAll, only]

theorem find_only {n child : Located} {tag : QName} {rest : List QName}
    (only : n.childrenTagged tag = [child]) : n.find (tag :: rest) = child.find rest := by
  rw [find, find, findAll_only only]

theorem find_nil (n : Located) : n.find [] = some n := rfl

/-- A path that reaches something has a first step to take. -/
theorem childrenTagged_of_find {n m : Located} {tag : QName} {rest : List QName}
    (found : n.find (tag :: rest) = some m) : n.childrenTagged tag ≠ [] := by
  intro none
  simp [find, findAll, none] at found

end Located

/-! Document order. `positions` lists the place of every node below a node,
relative to it, an element before its content. -/
mutual
def Node.positions : Node → List Path
  | .element _ _ content => [] :: positionsFrom 0 content
  | _ => [[]]

def positionsFrom : Nat → List Node → List Path
  | _, [] => []
  | index, node :: rest => (Node.positions node).map (index :: ·) ++ positionsFrom (index + 1) rest
end

mutual
theorem descend_of_mem_positions (node : Node) (path : Path) (member : path ∈ node.positions) :
    (node.descend path).isSome := by
  match node with
  | .element tag attrib content =>
      rw [Node.positions] at member
      rcases List.mem_cons.mp member with rfl | below
      · rfl
      · obtain ⟨index, rest, child, rfl, inside, reached⟩ := descend_of_mem_positionsFrom content 0 path below
        simpa [Node.descend, Node.content, inside] using reached
  | .text _ | .comment _ | .processingInstruction _ _ _ | .entity _ =>
      obtain rfl : path = [] := by simpa [Node.positions] using member
      rfl

theorem descend_of_mem_positionsFrom (content : List Node) (start : Nat) (path : Path)
    (member : path ∈ positionsFrom start content) :
    ∃ index rest child, path = (start + index) :: rest ∧ content[index]? = some child ∧
      (child.descend rest).isSome := by
  match content with
  | [] => simp [positionsFrom] at member
  | node :: siblings =>
      rw [positionsFrom] at member
      rcases List.mem_append.mp member with here | later
      · obtain ⟨rest, inNode, rfl⟩ := List.mem_map.mp here
        exact ⟨0, rest, node, rfl, rfl, descend_of_mem_positions node rest inNode⟩
      · obtain ⟨index, rest, child, rfl, inside, reached⟩ :=
          descend_of_mem_positionsFrom siblings (start + 1) path later
        exact ⟨index + 1, rest, child, by rw [Nat.add_right_comm, Nat.add_assoc], by simpa using inside, reached⟩
end

mutual
theorem mem_positions_of_descend (node : Node) (path : Path) (reached : (node.descend path).isSome) :
    path ∈ node.positions := by
  match node, path with
  | .element tag attrib content, [] => simp [Node.positions]
  | .element tag attrib content, index :: rest =>
      rw [Node.positions]
      apply List.mem_cons_of_mem
      simp only [Node.descend, Node.content] at reached
      cases inside : content[index]? with
      | none => simp [inside] at reached
      | some child =>
          have below := mem_positionsFrom_of_descend content 0 index rest child inside (by simpa [inside] using reached)
          simpa using below
  | .text _, path | .comment _, path | .processingInstruction _ _ _, path | .entity _, path =>
      cases path with
      | nil => simp [Node.positions]
      | cons index rest => simp [Node.descend, Node.content] at reached

theorem mem_positionsFrom_of_descend (content : List Node) (start index : Nat) (rest : Path) (child : Node)
    (inside : content[index]? = some child) (reached : (child.descend rest).isSome) :
    (start + index) :: rest ∈ positionsFrom start content := by
  match content, index with
  | [], _ => simp at inside
  | node :: siblings, 0 =>
      obtain rfl : node = child := by simpa using inside
      rw [positionsFrom]
      apply List.mem_append_left
      exact List.mem_map.mpr ⟨rest, mem_positions_of_descend node rest reached, rfl⟩
  | node :: siblings, index + 1 =>
      rw [positionsFrom]
      apply List.mem_append_right
      have later := mem_positionsFrom_of_descend siblings (start + 1) index rest child (by simpa using inside) reached
      rwa [Nat.add_right_comm, Nat.add_assoc] at later
end

namespace Located

def descendant? (n : Located) (path : Path) : Option Located :=
  match h : n.node.descend path with
  | some node => some ⟨n.document, n.path ++ path, node, by rw [descend_append, n.located]; exact h⟩
  | none => none

/-- Document order iteration over a node and everything below it. -/
def iter (n : Located) : List Located := n.node.positions.filterMap n.descendant?

theorem descendant?_eq_some {n d : Located} {path : Path} :
    n.descendant? path = some d ↔ d.document = n.document ∧ d.path = n.path ++ path := by
  unfold descendant?
  split
  · rename_i node found
    constructor
    · intro same
      obtain rfl := Option.some.inj same
      exact ⟨rfl, rfl⟩
    · rintro ⟨document, place⟩
      exact congrArg some (ext_path document.symm place.symm)
  · rename_i absent
    constructor
    · simp
    · rintro ⟨document, place⟩
      have reached := d.located
      rw [document, place, descend_append, n.located] at reached
      simp [absent] at reached

/-- Iteration reaches exactly the nodes of the document at or below its start. -/
theorem mem_iter {n d : Located} :
    d ∈ n.iter ↔ d.document = n.document ∧ n.path <+: d.path := by
  constructor
  · intro member
    obtain ⟨path, _, found⟩ := List.mem_filterMap.mp member
    obtain ⟨document, place⟩ := descendant?_eq_some.mp found
    exact ⟨document, place ▸ List.prefix_append _ _⟩
  · rintro ⟨document, path, place⟩
    have found : n.descendant? path = some d := descendant?_eq_some.mpr ⟨document, place.symm⟩
    apply List.mem_filterMap.mpr
    refine ⟨path, mem_positions_of_descend _ _ ?_, found⟩
    have reached := d.located
    rw [document, ← place, descend_append, n.located] at reached
    simpa using congrArg Option.isSome reached

theorem mem_iter_root {document : Node} {d : Located} :
    d ∈ (root document).iter ↔ d.document = document := by
  simp [mem_iter, root]

end Located

/-! The nodes of a tree in document order, without their places. -/
mutual
def Node.subtrees : Node → List Node
  | .element tag attrib content => .element tag attrib content :: subtreesIn content
  | node => [node]

def subtreesIn : List Node → List Node
  | [] => []
  | node :: rest => node.subtrees ++ subtreesIn rest
end

/-- The node a path reaches from content whose numbering starts there. -/
def descendFrom (start : Nat) (content : List Node) : Path → Option Node
  | [] => none
  | index :: rest => content[index - start]?.bind (·.descend rest)

mutual
theorem positions_subtrees (node : Node) : node.positions.filterMap node.descend = node.subtrees := by
  match node with
  | .element tag attrib content =>
      have below := positionsFrom_subtrees 0 content
      have here : (Node.element tag attrib content).descend [] = some (.element tag attrib content) := rfl
      rw [Node.positions, Node.subtrees, List.filterMap_cons_some here, ← below]
      congr 1
      apply List.filterMap_congr
      intro path member
      obtain ⟨index, rest, child, rfl, -, -⟩ := descend_of_mem_positionsFrom content 0 path member
      simp [Node.descend, descendFrom, Node.content]
  | .text _ | .comment _ | .processingInstruction _ _ _ | .entity _ =>
      simp [Node.positions, Node.subtrees, Node.descend]

theorem positionsFrom_subtrees (start : Nat) (content : List Node) :
    (positionsFrom start content).filterMap (descendFrom start content) = subtreesIn content := by
  match content with
  | [] => rfl
  | node :: rest =>
      rw [positionsFrom, subtreesIn, List.filterMap_append, List.filterMap_map, ← positions_subtrees node,
        ← positionsFrom_subtrees (start + 1) rest]
      congr 1
      · apply List.filterMap_congr
        intro path _
        simp [descendFrom]
      · apply List.filterMap_congr
        intro path member
        obtain ⟨index, later, child, rfl, -, -⟩ := descend_of_mem_positionsFrom rest (start + 1) path member
        have shifted : start + 1 + index - start = index + 1 := by omega
        simp [descendFrom, shifted]
end

namespace Located

theorem iter_nodes (n : Located) : n.iter.map (·.node) = n.node.subtrees := by
  rw [iter, List.map_filterMap, ← positions_subtrees]
  apply List.filterMap_congr
  intro path _
  unfold descendant?
  split <;> simp_all

end Located

end ElementTree
