import AS4.Verification
import AS4.WrittenIdentifiers

/-!
Base64 text broken into lines. XML white space inside it says nothing: it is skipped by
a lenient decoder, and refused by a strict one. `unwrap` takes it out of the texts of a
document that are Base64, and the value out of its signatures, so that two documents
with the same unwrapped form differ only by how those texts are wrapped, and by what
their signatures are recomputed to.
-/

namespace WrappedTexts
open ElementTree ElementCodec ElementCodec.Codec FallibleSteps PythonData AS4Libraries SignatureModel EncryptionModel
  EnvelopeModel Verification WrittenIdentifiers

section Strings

/-- The characters of XML white space. -/
def isXmlSpace (c : Char) : Bool := [9, 10, 13, 32].contains c.toNat

def solidChars (chars : List Char) : List Char := chars.filter fun c => !isXmlSpace c

def withoutSpaces (s : String) : String := String.ofList (solidChars s.toList)

theorem isSpace_of_xml {c : Char} (blank : isXmlSpace c = true) : isSpace c = true := by
  have code : c.toNat = 9 ∨ c.toNat = 10 ∨ c.toNat = 13 ∨ c.toNat = 32 := by simpa [isXmlSpace] using blank
  rcases code with code | code | code | code <;> simp [isSpace, code]

@[simp] theorem withoutSpaces_append (s t : String) : withoutSpaces (s ++ t) = withoutSpaces s ++ withoutSpaces t := by
  simp [withoutSpaces, solidChars]

@[simp] theorem withoutSpaces_empty : withoutSpaces "" = "" := by simp [withoutSpaces, solidChars]

theorem dropWhile_solid (chars : List Char) :
    (solidChars chars).dropWhile isSpace = solidChars (chars.dropWhile isSpace) := by
  induction chars with
  | nil => rfl
  | cons c rest ih =>
      by_cases space : isSpace c = true
      · by_cases blank : isXmlSpace c = true
        · simpa [solidChars, blank, space] using ih
        · simpa [solidChars, blank, space] using ih
      · have solid : isXmlSpace c = false := by
          by_contra blank
          exact space (isSpace_of_xml (by simpa using blank))
        simp [solidChars, solid, space]

/-- Taking the white space out of a text and stripping it commute. -/
theorem strip_withoutSpaces (s : String) : strip (withoutSpaces s) = withoutSpaces (strip s) := by
  have back : ∀ chars : List Char, (solidChars chars).rdropWhile isSpace = solidChars (chars.rdropWhile isSpace) := by
    intro chars
    have reversed : (solidChars chars).reverse = solidChars chars.reverse := by simp [solidChars]
    rw [List.rdropWhile, reversed, dropWhile_solid, List.rdropWhile]
    simp [solidChars]
  simp only [strip, withoutSpaces, String.toList_ofList, stripChars]
  rw [dropWhile_solid, back]

theorem strip_eq_empty_iff {s : String} : strip s = "" ↔ withoutSpaces (strip s) = "" := by
  constructor
  · intro empty
    rw [empty, withoutSpaces_empty]
  · intro empty
    have none : strip (strip s) = "" := by
      have blank : ∀ c ∈ (strip s).toList, isSpace c = true := by
        intro c member
        by_contra solid
        have kept : c ∈ solidChars (strip s).toList := by
          refine List.mem_filter.mpr ⟨member, ?_⟩
          simp only [Bool.not_eq_true']
          by_contra xml
          exact solid (isSpace_of_xml (by simpa using xml))
        have gone : solidChars (strip s).toList = [] := by
          simpa [withoutSpaces] using congrArg String.toList empty
        simp [gone] at kept
      rw [strip, stripChars, List.dropWhile_eq_nil_iff.mpr blank]
      rfl
    rwa [strip_strip] at none

/-- Two texts that differ only by white space, each without any inside, are the same. -/
theorem strip_eq_of_solid {s t : String} (same : withoutSpaces s = withoutSpaces t)
    (solid : withoutSpaces (strip s) = strip s) (solid' : withoutSpaces (strip t) = strip t) : strip s = strip t := by
  rw [← solid, ← solid', ← strip_withoutSpaces, ← strip_withoutSpaces, same]

end Strings

section Decoding

theorem decodeSextet_blank {c : Char} (blank : isXmlSpace c = true) : c ≠ '=' ∧ Base64.decodeSextet c = none := by
  have code : c.toNat = 9 ∨ c.toNat = 10 ∨ c.toNat = 13 ∨ c.toNat = 32 := by simpa [isXmlSpace] using blank
  have char : c = Char.ofNat 9 ∨ c = Char.ofNat 10 ∨ c = Char.ofNat 13 ∨ c = Char.ofNat 32 := by
    rw [← Char.ofNat_toNat c]
    rcases code with code | code | code | code <;> simp [code]
  rcases char with rfl | rfl | rfl | rfl <;> decide

/-- A lenient decoder skips white space wherever it stands. -/
theorem a2b_solid (scan : Base64.Scan) (chars : List Char) :
    Base64.a2bBase64 false scan (solidChars chars) = Base64.a2bBase64 false scan chars := by
  induction chars generalizing scan with
  | nil => rfl
  | cons c rest ih =>
      by_cases blank : isXmlSpace c = true
      · obtain ⟨unpadded, unknown⟩ := decodeSextet_blank blank
        have gone : solidChars (c :: rest) = solidChars rest := by simp [solidChars, blank]
        rw [gone, ih]
        simp [Base64.a2bBase64, unpadded, unknown]
      · have kept : solidChars (c :: rest) = c :: solidChars rest := by simp [solidChars, blank]
        rw [kept]
        simp only [Base64.a2bBase64, Bool.false_and, Bool.false_eq_true, ↓reduceIte, ih]

theorem b64decode_withoutSpaces (s : String) : Base64.b64decode false (withoutSpaces s) = Base64.b64decode false s := by
  have ascii : (solidChars s.toList).any (fun c => decide (128 ≤ c.toNat)) =
      s.toList.any fun c => decide (128 ≤ c.toNat) := by
    generalize s.toList = chars
    induction chars with
    | nil => rfl
    | cons c rest ih =>
        by_cases blank : isXmlSpace c = true
        · have small : c.toNat = 9 ∨ c.toNat = 10 ∨ c.toNat = 13 ∨ c.toNat = 32 := by simpa [isXmlSpace] using blank
          have low : ¬ 128 ≤ c.toNat := by omega
          simpa [solidChars, blank, low] using ih
        · simpa [solidChars, blank] using congrArg (decide (128 ≤ c.toNat) || ·) ih
  simp only [Base64.b64decode, withoutSpaces, String.toList_ofList, ascii, a2b_solid]
  simp

/-- A strict one takes no text that holds any. -/
theorem a2b_strict_solid {scan : Base64.Scan} {chars : List Char} {data : Bytes}
    (decoded : Base64.a2bBase64 true scan chars = .ok data) : solidChars chars = chars := by
  induction chars generalizing scan data with
  | nil => rfl
  | cons c rest ih =>
      by_cases blank : isXmlSpace c = true
      · obtain ⟨unpadded, unknown⟩ := decodeSextet_blank blank
        simp [Base64.a2bBase64, unpadded, unknown] at decoded
      · have kept : solidChars (c :: rest) = c :: solidChars rest := by simp [solidChars, blank]
        rw [kept]
        congr 1
        simp only [Base64.a2bBase64] at decoded
        split at decoded
        · split at decoded
          · cases rest with
            | nil => rfl
            | cons d others => simp at decoded
          · exact ih decoded
        · split at decoded
          · simp at decoded
          · split at decoded
            · simp at decoded
            · split at decoded
              · exact ih decoded
              · obtain ⟨later, remaining, -⟩ := map_ok.mp decoded
                exact ih remaining

theorem b64decode_strict_solid {s : String} {data : Bytes} (decoded : Base64.b64decode true s = .ok data) :
    withoutSpaces s = s := by
  unfold Base64.b64decode at decoded
  split at decoded
  · simp at decoded
  · split at decoded
    · simp at decoded
    · rw [withoutSpaces, a2b_strict_solid decoded, String.ofList_toList]

theorem b64encode_solid (data : Bytes) : withoutSpaces (Base64.b64encode data) = Base64.b64encode data :=
  b64decode_strict_solid (Base64.b64decode_b64encode true data)

end Decoding

section Trees

/-- The elements whose text is Base64, the signature value apart. -/
def wrappable : List QName := [wsse "BinarySecurityToken", ds "DigestValue", enc "CipherValue"]

/-- Text a signature value is read from. -/
def legible (text : String) : Bool :=
  strip text ≠ "" && (base64BytesOptional.decode (strip text)).toBool

/-- What unwrapping makes of the texts of an element, by its tag and its leading text.
One blank stands for any signature value. -/
def unwrapText (tag : QName) (leading : String) : String → String :=
  if tag = ds "SignatureValue" then (if legible leading then fun _ => " " else withoutSpaces)
  else if tag ∈ wrappable then withoutSpaces else id

mutual
def unwrap : Node → Node
  | .element tag attrib content => .element tag attrib (unwrapContent (unwrapText tag (leadingText content)) content)
  | node => node

def unwrapContent (texts : String → String) : List Node → List Node
  | [] => []
  | .text data :: rest => .text (texts data) :: unwrapContent texts rest
  | node :: rest => unwrap node :: unwrapContent texts rest
end

def textsOf (node : Node) : String → String := (node.tag?.map (unwrapText · node.leadingText)).getD id

theorem unwrap_tag? (node : Node) : (unwrap node).tag? = node.tag? := by
  cases node <;> simp [unwrap, Node.tag?]

theorem unwrap_attrib (node : Node) : (unwrap node).attrib = node.attrib := by
  cases node <;> simp [unwrap, Node.attrib]

theorem unwrap_content (node : Node) : (unwrap node).content = unwrapContent (textsOf node) node.content := by
  cases node <;> simp [unwrap, textsOf, Node.content, Node.tag?, Node.leadingText, unwrapContent]

/-- Unwrapping keeps every element in its place. -/
theorem elementsTagged_unwrap (tag : QName) (texts : String → String) (content : List Node) :
    elementsTagged tag (unwrapContent texts content) = (elementsTagged tag content).map unwrap := by
  induction content with
  | nil => simp [unwrapContent, elementsTagged]
  | cons node rest ih =>
      have kept : ∀ node, elementsTagged tag (unwrap node :: unwrapContent texts rest) =
          (elementsTagged tag (node :: rest)).map unwrap := by
        intro node
        by_cases tagged : node.Tagged tag
        · have still : (unwrap node).Tagged tag := (unwrap_tag? node).trans tagged
          simpa [elementsTagged, tagged, still] using ih
        · have still : ¬ (unwrap node).Tagged tag := fun other => tagged ((unwrap_tag? node).symm.trans other)
          simpa [elementsTagged, tagged, still] using ih
      cases node with
      | text data => simpa [unwrapContent, elementsTagged, Node.Tagged, Node.tag?] using ih
      | element _ _ _ | comment _ | processingInstruction _ _ _ | entity _ => exact kept _

theorem leadingText_unwrap {texts : String → String} (empty : texts "" = "")
    (splits : ∀ s t, texts (s ++ t) = texts s ++ texts t) (content : List Node) :
    leadingText (unwrapContent texts content) = texts (leadingText content) := by
  induction content with
  | nil => simp [unwrapContent, leadingText, empty]
  | cons node rest ih =>
      cases node with
      | text data => simp [unwrapContent, leadingText, ih, splits]
      | element _ _ _ | comment _ | processingInstruction _ _ _ | entity _ => simp [unwrapContent, unwrap, leadingText, empty]

/-- Texts are changed one character at a time. -/
def Splits (texts : String → String) : Prop := texts "" = "" ∧ ∀ s t, texts (s ++ t) = texts s ++ texts t

theorem splits_id : Splits id := ⟨rfl, fun _ _ => rfl⟩

theorem splits_withoutSpaces : Splits withoutSpaces := ⟨withoutSpaces_empty, withoutSpaces_append⟩

theorem leadingText_textsOf {node : Node} (splits : Splits (textsOf node)) :
    (unwrap node).leadingText = textsOf node node.leadingText := by
  rw [Node.leadingText, unwrap_content, leadingText_unwrap splits.1 splits.2]
  rfl

/-- A text that stands for a signature value is blank, and there if the value is. -/
theorem leadingText_blanked (content : List Node) :
    withoutSpaces (leadingText (unwrapContent (fun _ => " ") content)) = "" ∧
      (leadingText content ≠ "" → leadingText (unwrapContent (fun _ => " ") content) ≠ "") := by
  induction content with
  | nil => simp [unwrapContent, leadingText]
  | cons node rest ih =>
      cases node with
      | text data =>
          have blank : withoutSpaces " " = "" := rfl
          simp [unwrapContent, leadingText, ih.1, blank]
      | element _ _ _ | comment _ | processingInstruction _ _ _ | entity _ => simp [unwrapContent, unwrap, leadingText]

end Trees

section Wildcards

/-- Unwrapping keeps what counts as wildcard content. -/
theorem wildcardContent_unwrap (existing : List QName) (choices : Option (List QName)) (texts : String → String)
    (keeping : Bool) (content : List Node) :
    wildcardContent existing choices keeping (unwrapContent texts content) =
      unwrapContent texts (wildcardContent existing choices keeping content) := by
  induction content generalizing keeping with
  | nil => simp [unwrapContent, wildcardContent]
  | cons node rest ih =>
      have counts : wild existing choices (unwrap node) = wild existing choices node := by
        unfold wild
        rw [unwrap_tag?]
      cases node with
      | text data => cases keeping <;> simp [unwrapContent, wildcardContent, ih]
      | element _ _ _ | comment _ | processingInstruction _ _ _ | entity _ =>
          rw [unwrap] at counts
          rw [unwrapContent, unwrap, wildcardContent, wildcardContent, counts]
          · split <;> simp [unwrapContent, unwrap, ih]
          all_goals simp

theorem inclusivePrefixes_unwrap (texts : String → String) (content : List Node) :
    inclusivePrefixes (unwrapContent texts content) = inclusivePrefixes content := by
  simp only [inclusivePrefixes, elementsTagged_unwrap, List.flatMap_map, Node.attribute, unwrap_attrib]

end Wildcards

section Twins
variable {n n' : Located} {tag attr : QName} {name : String}

/-- The two nodes differ only by wrapping, and by their signature values. -/
def Twins (n n' : Located) : Prop := unwrap n.node = unwrap n'.node

theorem Twins.tag? (twins : Twins n n') : n.node.tag? = n'.node.tag? := by
  rw [← unwrap_tag? n.node, ← unwrap_tag? n'.node, twins]

theorem Twins.attribute (twins : Twins n n') : n.node.attribute attr = n'.node.attribute attr := by
  rw [Node.attribute, Node.attribute, ← unwrap_attrib n.node, ← unwrap_attrib n'.node, twins]

theorem Twins.childrenTagged (twins : Twins n n') (tag : QName) :
    List.Forall₂ Twins (n.childrenTagged tag) (n'.childrenTagged tag) := by
  have nodes : ((n.childrenTagged tag).map (·.node)).map unwrap = ((n'.childrenTagged tag).map (·.node)).map unwrap := by
    rw [n.childrenTagged_nodes, n'.childrenTagged_nodes, ← elementsTagged_unwrap tag (textsOf n.node),
      ← elementsTagged_unwrap tag (textsOf n'.node), ← unwrap_content, ← unwrap_content, twins]
  rw [List.map_map, List.map_map] at nodes
  rw [← List.forall₂_eq_eq_eq, List.forall₂_map_left_iff, List.forall₂_map_right_iff] at nodes
  exact nodes

/-- Elements whose text is neither Base64 nor a signature value. -/
def steady (tag : QName) : Bool := !((ds "SignatureValue") :: wrappable).contains tag

/-- Elements whose text is no signature value. -/
def unsigned (tag : QName) : Bool := tag != ds "SignatureValue"

/-- The element is of a kind, if it is one. -/
def OfKind (kind : QName → Bool) (node : Node) : Prop := ∀ tag, node.tag? = some tag → kind tag = true

theorem textsOf_steady {node : Node} (kind : OfKind steady node) : textsOf node = id := by
  unfold textsOf
  cases found : node.tag? with
  | none => rfl
  | some tag =>
      have apart : tag ≠ ds "SignatureValue" ∧ tag ∉ wrappable := by simpa [steady] using kind tag found
      simp [unwrapText, apart.1, apart.2]

/-- The text of an element that holds no Base64 is the same in both. -/
theorem Twins.text (twins : Twins n n') (kind : OfKind steady n.node) : n.node.leadingText = n'.node.leadingText := by
  have kind' : OfKind steady n'.node := fun tag found => kind tag (twins.tag?.trans found)
  have plain : ∀ {node : Node}, OfKind steady node → (unwrap node).leadingText = node.leadingText := by
    intro node still
    rw [leadingText_textsOf (by rw [textsOf_steady still]; exact splits_id), textsOf_steady still, id_eq]
  rw [← plain kind, ← plain kind', show unwrap n.node = unwrap n'.node from twins]

theorem Twins.solid_text (twins : Twins n n') (kind : OfKind unsigned n.node) :
    withoutSpaces n.node.leadingText = withoutSpaces n'.node.leadingText := by
  by_cases plain : OfKind steady n.node
  · rw [twins.text plain]
  · simp only [OfKind, not_forall] at plain
    obtain ⟨tag, found, held⟩ := plain
    have apart : tag ≠ ds "SignatureValue" := by simpa [unsigned] using kind tag found
    have wraps : tag ∈ wrappable := by simpa [steady, apart] using held
    have solid : ∀ {node : Node}, node.tag? = some tag → (unwrap node).leadingText = withoutSpaces node.leadingText := by
      intro node tagged
      have here : textsOf node = withoutSpaces := by simp [textsOf, tagged, unwrapText, apart, wraps]
      rw [leadingText_textsOf (by rw [here]; exact splits_withoutSpaces), here]
    rw [← solid found, ← solid (twins.tag?.symm.trans found), show unwrap n.node = unwrap n'.node from twins]

/-- The element holds a signature value, or no Base64. -/
def valued (tag : QName) : Bool := tag == ds "SignatureValue" || steady tag

/-- What is left of the text of a signature value tells whether there is one. -/
theorem unwrapped_value {node : Node} (tagged : node.tag? = some (ds "SignatureValue")) :
    (legible node.leadingText = true ↔ (unwrap node).leadingText ≠ "" ∧ withoutSpaces (unwrap node).leadingText = "") ∧
      (legible node.leadingText = false → (unwrap node).leadingText = withoutSpaces node.leadingText) := by
  -- The blank that stands for a value is what tells it from any text that is kept.
  cases readable : legible node.leadingText with
  | true =>
      have here : textsOf node = fun _ => " " := by simp [textsOf, tagged, unwrapText, readable]
      obtain ⟨blank, there⟩ := leadingText_blanked node.content
      have solid : leadingText node.content ≠ "" := by
        intro empty
        simp [legible, Node.leadingText, empty, strip, stripChars] at readable
      rw [Node.leadingText, unwrap_content, here]
      simp [blank, there solid]
  | false =>
      have here : textsOf node = withoutSpaces := by simp [textsOf, tagged, unwrapText, readable]
      have left : (unwrap node).leadingText = withoutSpaces node.leadingText := by
        rw [leadingText_textsOf (by rw [here]; exact splits_withoutSpaces), here]
      refine ⟨iff_of_false (by simp) ?_, fun _ => left⟩
      rw [left]
      rintro ⟨there, gone⟩
      refine there ?_
      simpa [withoutSpaces, solidChars] using gone

/-- A signature value is there in both, or in neither, and can be read in both, or in
neither. -/
theorem Twins.legible (twins : Twins n n') (kind : OfKind valued n.node) :
    legible n.node.leadingText = legible n'.node.leadingText ∧
      (strip n.node.leadingText = "" ↔ strip n'.node.leadingText = "") := by
  by_cases plain : OfKind steady n.node
  · rw [twins.text plain]
    exact ⟨rfl, Iff.rfl⟩
  · simp only [OfKind, not_forall] at plain
    obtain ⟨tag, found, held⟩ := plain
    obtain rfl : tag = ds "SignatureValue" := by simpa [valued, held] using kind tag found
    obtain ⟨whole, illegible⟩ := unwrapped_value found
    obtain ⟨whole', illegible'⟩ := unwrapped_value (twins.tag?.symm.trans found)
    have same : unwrap n.node = unwrap n'.node := twins
    have both : WrappedTexts.legible n.node.leadingText = WrappedTexts.legible n'.node.leadingText := by
      rw [Bool.eq_iff_iff, whole, whole', same]
    refine ⟨both, ?_⟩
    cases readable : WrappedTexts.legible n.node.leadingText with
    | true =>
        rw [readable] at both
        have solid : ∀ {s : String}, WrappedTexts.legible s = true → strip s ≠ "" := by
          intro s holds
          simp only [WrappedTexts.legible, Bool.and_eq_true, decide_eq_true_eq] at holds
          exact holds.1
        exact iff_of_false (solid readable) (solid both.symm)
    | false =>
        rw [readable] at both
        rw [strip_eq_empty_iff, strip_eq_empty_iff, ← strip_withoutSpaces, ← strip_withoutSpaces, ← illegible readable,
          ← illegible' both.symm, same]

/-- The prefixes named by wildcard content are the same in both. -/
theorem Twins.inclusivePrefixes (twins : Twins n n') (existing : List QName) (choices : Option (List QName)) :
    SignatureModel.inclusivePrefixes (wildcardContent existing choices false n.node.content) =
      SignatureModel.inclusivePrefixes (wildcardContent existing choices false n'.node.content) := by
  have unwrapped : ∀ node : Node, SignatureModel.inclusivePrefixes (wildcardContent existing choices false node.content) =
      SignatureModel.inclusivePrefixes (wildcardContent existing choices false (unwrap node).content) := by
    intro node
    rw [unwrap_content, wildcardContent_unwrap, inclusivePrefixes_unwrap]
  rw [unwrapped n.node, unwrapped n'.node, show unwrap n.node = unwrap n'.node from twins]

/-- A path reaches twins. -/
theorem Twins.findAll (twins : Twins n n') (tags : List QName) :
    List.Forall₂ Twins (Located.findAll tags n) (Located.findAll tags n') := by
  induction tags generalizing n n' with
  | nil => exact .cons twins .nil
  | cons tag rest ih => exact List.rel_flatMap (twins.childrenTagged tag) fun _ _ below => ih below

theorem Twins.find (twins : Twins n n') (tags : List QName) : Option.Rel Twins (n.find tags) (n'.find tags) := by
  have reached := twins.findAll tags
  unfold Located.find
  generalize Located.findAll tags n = found, Located.findAll tags n' = found' at reached ⊢
  cases reached with
  | nil => exact .none
  | cons one _ => exact .some one

/-- What a path reaches has the last tag of the path. -/
theorem findAll_tagged {tags : List QName} {m : Located} (member : m ∈ Located.findAll (tags ++ [tag]) n) :
    m.node.tag? = some tag := by
  induction tags generalizing n with
  | nil =>
      obtain ⟨child, inside, below⟩ := List.mem_flatMap.mp member
      obtain rfl := List.mem_singleton.mp below
      exact (Located.mem_childrenTagged.mp inside).2
  | cons first rest ih =>
      obtain ⟨child, -, below⟩ := List.mem_flatMap.mp member
      exact ih below

theorem Twins.findText (twins : Twins n n') (tags : List QName) (solid : steady tag = true) :
    n.findText (tags ++ [tag]) = n'.findText (tags ++ [tag]) := by
  have found := twins.find (tags ++ [tag])
  have ofKind : ∀ m, n.find (tags ++ [tag]) = some m → OfKind steady m.node := by
    intro m reached other tagged
    have here := findAll_tagged (List.mem_of_head? reached)
    obtain rfl : tag = other := Option.some.inj (here.symm.trans tagged)
    exact solid
  unfold Located.findText
  generalize n.find (tags ++ [tag]) = reached, n'.find (tags ++ [tag]) = reached' at found ofKind ⊢
  cases found with
  | none => rfl
  | some one => exact congrArg some (one.text (ofKind _ rfl))

end Twins

section Places

def IsText (node : Node) : Prop := ∃ data, node = .text data

/-- What unwrapping makes of a node in some content. -/
def unwrapIn (texts : String → String) : Node → Node
  | .text data => .text (texts data)
  | node => unwrap node

theorem unwrapContent_map (texts : String → String) (content : List Node) :
    unwrapContent texts content = content.map (unwrapIn texts) := by
  induction content with
  | nil => rfl
  | cons node rest ih => cases node <;> simp [unwrapContent, unwrapIn, ih]

theorem unwrapIn_other {texts : String → String} {node : Node} (other : ¬ IsText node) : unwrapIn texts node = unwrap node := by
  cases node with
  | text data => exact absurd ⟨data, rfl⟩ other
  | element _ _ _ | comment _ | processingInstruction _ _ _ | entity _ => rfl

theorem unwrap_isText {node : Node} : IsText (unwrap node) ↔ IsText node := by
  cases node <;> simp [IsText, unwrap]

theorem descend_text {data : String} {path : Path} {reached : Node} (found : (Node.text data).descend path = some reached) :
    IsText reached := by
  cases path with
  | nil => exact ⟨data, by simpa [Node.descend] using found.symm⟩
  | cons index rest => simp [Node.descend, Node.content] at found

/-- Unwrapping keeps every node in its place. -/
theorem descend_unwrap {path : Path} {node reached : Node} (found : node.descend path = some reached)
    (other : ¬ IsText reached) : (unwrap node).descend path = some (unwrap reached) := by
  induction path generalizing node with
  | nil =>
      obtain rfl : node = reached := by simpa [Node.descend] using found
      rfl
  | cons index rest ih =>
      simp only [Node.descend, unwrap_content, unwrapContent_map, List.getElem?_map] at found ⊢
      cases inside : node.content[index]? with
      | none => simp [inside] at found
      | some child =>
          simp only [inside, Option.bind_some, Option.map_some] at found ⊢
          have solid : ¬ IsText child := by
            rintro ⟨data, rfl⟩
            exact other (descend_text found)
          rw [unwrapIn_other solid]
          exact ih found

theorem descend_of_unwrap {path : Path} {node reached : Node} (found : (unwrap node).descend path = some reached)
    (other : ¬ IsText reached) : ∃ original, node.descend path = some original ∧ unwrap original = reached := by
  induction path generalizing node with
  | nil => exact ⟨node, rfl, by simpa [Node.descend] using found⟩
  | cons index rest ih =>
      simp only [Node.descend, unwrap_content, unwrapContent_map, List.getElem?_map] at found ⊢
      cases inside : node.content[index]? with
      | none => simp [inside] at found
      | some child =>
          simp only [inside, Option.bind_some, Option.map_some] at found ⊢
          have solid : ¬ IsText child := by
            rintro ⟨data, rfl⟩
            exact other (descend_text found)
          rw [unwrapIn_other solid] at found
          exact ih found

/-- Each node of a document that is no text has its twin in the other. -/
theorem twin_located {document document' : Node} (same : unwrap document = unwrap document') {n : Located}
    (inside : n.document = document) (other : ¬ IsText n.node) : ∃ n' : Located, n'.document = document' ∧ Twins n n' := by
  subst inside
  have reached := descend_unwrap n.located other
  rw [same] at reached
  obtain ⟨node', found, twin⟩ := descend_of_unwrap reached (fun text => other (unwrap_isText.mp text))
  exact ⟨⟨document', n.path, node', found⟩, rfl, twin.symm⟩

mutual
theorem identifiers_unwrap (node : Node) : identifiers (unwrap node) = identifiers node := by
  match node with
  | .element tag attrib content =>
      rw [unwrap, identifiers_element, identifiers_element, identifiersIn_unwrap]
      rfl
  | .text _ | .comment _ | .processingInstruction _ _ _ | .entity _ => rfl

theorem identifiersIn_unwrap (texts : String → String) (content : List Node) :
    identifiersIn (unwrapContent texts content) = identifiersIn content := by
  match content with
  | [] => rfl
  | .text data :: rest =>
      rw [unwrapContent, identifiersIn_cons, identifiersIn_cons, identifiersIn_unwrap texts rest]
      rfl
  | .element tag attrib inner :: rest =>
      rw [unwrapContent, identifiersIn_cons, identifiersIn_cons, identifiers_unwrap (.element tag attrib inner),
        identifiersIn_unwrap texts rest]
      simp
  | .comment data :: rest | .processingInstruction target data pseudo :: rest | .entity name :: rest =>
      rw [unwrapContent, identifiersIn_cons, identifiersIn_cons, identifiersIn_unwrap texts rest] <;> first | rfl | simp
end

variable [Libraries]

mutual
theorem named_unwrap (node : Node) : Named (unwrap node) ↔ Named node := by
  match node with
  | .element tag attrib content =>
      have below := namedIn_unwrap (unwrapText tag (leadingText content)) content
      simp only [Named, NamedIn, unwrap, Node.subtrees, List.forall_mem_cons, wellNamed, true_and] at below ⊢
      exact below
  | .text _ | .comment _ | .processingInstruction _ _ _ | .entity _ => exact Iff.rfl

theorem namedIn_unwrap (texts : String → String) (content : List Node) :
    NamedIn (unwrapContent texts content) ↔ NamedIn content := by
  match content with
  | [] => exact Iff.rfl
  | .text data :: rest =>
      rw [unwrapContent, namedIn_cons, namedIn_cons, namedIn_unwrap texts rest]
      exact and_congr (by simp [Named, Node.subtrees, wellNamed]) Iff.rfl
  | .element tag attrib inner :: rest =>
      rw [unwrapContent, namedIn_cons, namedIn_cons, named_unwrap (.element tag attrib inner), namedIn_unwrap texts rest]
      simp
  | .comment data :: rest | .processingInstruction target data pseudo :: rest | .entity name :: rest =>
      rw [unwrapContent, namedIn_cons, namedIn_cons, namedIn_unwrap texts rest] <;> first | rfl | simp
end

/-- The other document can be indexed too, and has a twin under each identifier. -/
theorem index_twin {document document' : Node} (same : unwrap document = unwrap document') {index : Dict String Located}
    (indexed : indexElementsById (.root document) = .ok index) :
    ∃ index', indexElementsById (.root document') = .ok index' ∧
      ∀ identifier, Option.Rel Twins (Dict.get index identifier) (Dict.get index' identifier) := by
  obtain ⟨named, distinct⟩ := index_ok_iff.mp ⟨index, indexed⟩
  have named' : Named document' := by
    rw [← named_unwrap, ← same, named_unwrap]
    exact named
  have distinct' : (identifiers document').Nodup := by
    rw [← identifiers_unwrap, ← same, identifiers_unwrap]
    exact distinct
  obtain ⟨index', indexed'⟩ := index_ok_iff.mpr ⟨named', distinct'⟩
  refine ⟨index', indexed', fun identifier => ?_⟩
  have identified : ∀ {m : Located}, identifier ∈ idsOf m → ¬ IsText m.node := by
    rintro m carried ⟨data, text⟩
    simp [idsOf, text] at carried
  have carries : ∀ {m m' : Located}, Twins m m' → idsOf m = idsOf m' := by
    intro m m' twins
    have here : identifiersOf m.node = identifiersOf (unwrap m.node) := by cases m.node <;> rfl
    have there : identifiersOf m'.node = identifiersOf (unwrap m'.node) := by cases m'.node <;> rfl
    rw [idsOf_node, idsOf_node, here, there, show unwrap m.node = unwrap m'.node from twins]
  cases found : Dict.get index identifier with
  | some n =>
      obtain ⟨inside, carried⟩ := (index_get indexed).mp found
      obtain ⟨n', inside', twins⟩ := twin_located same inside (identified carried)
      have found' := (index_get indexed').mpr ⟨inside', by rw [← carries twins]; exact carried⟩
      rw [found']
      exact .some twins
  | none =>
      cases found' : Dict.get index' identifier with
      | none => exact .none
      | some n' =>
          obtain ⟨inside', carried'⟩ := (index_get indexed').mp found'
          obtain ⟨n, inside, twins⟩ := twin_located same.symm inside' (identified carried')
          have back := (index_get indexed).mpr ⟨inside, by rw [← carries twins]; exact carried'⟩
          rw [found] at back
          simp at back

end Places

end WrappedTexts
