import AS4.GreedyPatterns
import AS4.RecordedExchange

/-!
The document type identifiers of Peppol, and how they are taken apart: first at the
last `##` that a `::` follows, then at the last `::` behind it, all within the first
line. The root element is what the first part splits into.
-/

namespace DocumentIdentifiers
open FallibleSteps PythonData AS4Libraries AS4Errors BusinessDocument GreedyPatterns MessageBuilding

section Parsing

def identifierPattern : List Piece :=
  [.run, .literal ['#', '#'], .run, .literal [':', ':'], .run]

/-- `BusdoxDocidQnsDocumentIdentifier.from_identifier_value` -/
def fromIdentifierValue (documentTypeIdentifier : String) : Except PyError BusdoxDocidQnsDocumentIdentifier :=
  match matchLeft identifierPattern documentTypeIdentifier.toList with
  | some [syntaxSpecificId, customizationId, version] =>
      if syntaxSpecificId ≠ [] ∧ customizationId ≠ [] ∧ version ≠ [] then
        .ok
          { syntaxSpecificId := String.ofList syntaxSpecificId
            customizationId := String.ofList customizationId
            version := String.ofList version }
      else .error (.valueError "Cannot construct BusdoxDocidQnsDocumentIdentifier from document_type_identifier")
  | _ => .error (.valueError "Cannot construct BusdoxDocidQnsDocumentIdentifier from document_type_identifier")

end Parsing

section Cutting

def joined (x y z : List Char) : List Char := x ++ '#' :: '#' :: (y ++ ':' :: ':' :: z)

/-- The first line of a string, cut at the last `##` with a `::` behind it and at the
last `::` behind that. -/
structure CutAtLast (s x y z : List Char) : Prop where
  line : ∃ tail, s = joined x y z ++ tail ∧ '\n' ∉ joined x y z ∧ (tail = [] ∨ tail.head? = some '\n')
  hashes : ∀ x' y' z', joined x y z = joined x' y' z' → x'.length ≤ x.length
  colons : ∀ y' z', y ++ ':' :: ':' :: z = y' ++ ':' :: ':' :: z' → y'.length ≤ y.length

variable {s x y z x' y' z' : List Char}

theorem mem_joined {c : Char} : c ∈ joined x y z ↔ c ∈ x ∨ c = '#' ∨ c ∈ y ∨ c = ':' ∨ c ∈ z := by
  simp only [joined, List.mem_append, List.mem_cons]
  tauto

theorem one_line : '\n' ∉ joined x y z ↔ '\n' ∉ x ∧ '\n' ∉ y ∧ '\n' ∉ z := by
  rw [mem_joined]
  simp

/-- The first line of a string is its longest front without a line break. -/
theorem line_unique {first second tail tail' : List Char} (same : first ++ tail = second ++ tail')
    (line : '\n' ∉ first) (line' : '\n' ∉ second) (ends : tail = [] ∨ tail.head? = some '\n')
    (ends' : tail' = [] ∨ tail'.head? = some '\n') : first = second := by
  have shown : ∀ {front back : List Char}, '\n' ∉ front → (back = [] ∨ back.head? = some '\n') →
      (front ++ back).takeWhile (· != '\n') = front := by
    intro front back line ends
    rw [List.takeWhile_append_of_pos (by
      intro c member
      simpa using ne_of_mem_of_not_mem member line)]
    rcases ends with rfl | starts
    · simp
    · cases back with
      | nil => simp
      | cons c rest =>
          obtain rfl : c = '\n' := by simpa using starts
          simp
  rw [← shown line ends, same, shown line' ends']

theorem append_cut {a b c d : List Char} (same : a ++ c = b ++ d) (equal : a.length = b.length) : a = b ∧ c = d :=
  List.append_inj same equal

theorem cut_unique (cut : CutAtLast s x y z) (cut' : CutAtLast s x' y' z') : x = x' ∧ y = y' ∧ z = z' := by
  obtain ⟨⟨tail, whole, line, ends⟩, hashes, colons⟩ := cut
  obtain ⟨⟨tail', whole', line', ends'⟩, hashes', colons'⟩ := cut'
  have same : joined x y z = joined x' y' z' := line_unique (whole.symm.trans whole') line line' ends ends'
  obtain ⟨rfl, rest⟩ := append_cut same (Nat.le_antisymm (hashes' _ _ _ same.symm) (hashes _ _ _ same))
  have rest : y ++ ':' :: ':' :: z = y' ++ ':' :: ':' :: z' := by simpa using rest
  obtain ⟨rfl, last⟩ := append_cut rest (Nat.le_antisymm (colons' _ _ rest.symm) (colons _ _ rest))
  exact ⟨rfl, rfl, by simpa using last⟩

end Cutting

section Matching
variable {s x y z : List Char} {groups : List (List Char)}

/-- Behind its first run the pattern matches wherever there is the rest of an
identifier. -/
theorem colons_match (front back : List Char) (line : '\n' ∉ front) :
    matchLeft [.run, .literal [':', ':'], .run] (front ++ ':' :: ':' :: back) ≠ none := by
  rw [Ne, matchLeft_run_none]
  intro none
  exact matchLeft_last back (matchLeft_literal_none.mp (none front ([':', ':'] ++ back) rfl line))

theorem pattern_matches (tail : List Char) (line : '\n' ∉ joined x y z) :
    matchLeft identifierPattern (joined x y z ++ tail) ≠ none := by
  obtain ⟨lineX, lineY, -⟩ := one_line.mp line
  rw [Ne, identifierPattern, matchLeft_run_none]
  intro none
  have missed := none x (['#', '#'] ++ (y ++ ':' :: ':' :: (z ++ tail))) (by simp [joined]) lineX
  exact colons_match y (z ++ tail) lineY (matchLeft_literal_none.mp missed)

/-- What the pattern matches is cut at the last separators. -/
theorem pattern_cuts (matched : matchLeft identifierPattern s = some groups) :
    ∃ x y z, groups = [x, y, z] ∧ CutAtLast s x y z := by
  rw [identifierPattern, matchLeft_run] at matched
  obtain ⟨x, afterX, inner, rfl, lineX, atHashes, rfl, hashes⟩ := matched
  obtain ⟨afterHashes, rfl, atY⟩ := matchLeft_literal.mp atHashes
  obtain ⟨y, afterY, inner, rfl, lineY, atColons, rfl, colons⟩ := matchLeft_run.mp atY
  obtain ⟨afterColons, rfl, atZ⟩ := matchLeft_literal.mp atColons
  obtain ⟨z, tail, inner, rfl, lineZ, atEnd, rfl, longest⟩ := matchLeft_run.mp atZ
  obtain rfl : [] = inner := Option.some.inj atEnd
  refine ⟨x, y, z, rfl, ⟨tail, by simp [joined], one_line.mpr ⟨lineX, lineY, lineZ⟩, ?_⟩, ?_, ?_⟩
  · cases tail with
    | nil => exact .inl rfl
    | cons c rest =>
        right
        by_contra other
        have longer := longest (z ++ [c]) rest (by simp) (by simp [lineZ, Ne.symm (by simpa using other : c ≠ '\n')])
        simp at longer
  · intro x' y' z' same
    by_contra past
    have lines := one_line.mp (same ▸ one_line.mpr ⟨lineX, lineY, lineZ⟩)
    have missed := hashes x' (['#', '#'] ++ (y' ++ ':' :: ':' :: (z' ++ tail)))
      (by simpa [joined] using congrArg (· ++ tail) same) lines.1 (by omega)
    exact colons_match y' (z' ++ tail) lines.2.1 (matchLeft_literal_none.mp missed)
  · intro y' z' same
    by_contra past
    have line : '\n' ∉ y' := by
      have inside : '\n' ∉ y ++ ':' :: ':' :: z := by simp [lineY, lineZ]
      exact fun member => inside (same ▸ List.mem_append_left _ member)
    have missed := colons y' ([':', ':'] ++ (z' ++ tail)) (by simpa using congrArg (· ++ tail) same) line (by omega)
    exact matchLeft_last _ (matchLeft_literal_none.mp missed)

end Matching

section Accepting
variable {s : String} {identifier : BusdoxDocidQnsDocumentIdentifier}

def identifierError : PyError :=
  .valueError "Cannot construct BusdoxDocidQnsDocumentIdentifier from document_type_identifier"

/-- What is accepted is cut into three parts that are not empty. -/
theorem fromIdentifierValue_ok : fromIdentifierValue s = .ok identifier ↔
    ∃ x y z, CutAtLast s.toList x y z ∧ x ≠ [] ∧ y ≠ [] ∧ z ≠ [] ∧
      identifier = { syntaxSpecificId := String.ofList x, customizationId := String.ofList y, version := String.ofList z } := by
  unfold fromIdentifierValue
  cases matched : matchLeft identifierPattern s.toList with
  | none =>
      simp only [reduceCtorEq, false_iff, not_exists, not_and]
      rintro x y z ⟨⟨tail, whole, line, -⟩, -, -⟩
      exact absurd (whole ▸ matched) (pattern_matches tail line)
  | some groups =>
      obtain ⟨x, y, z, rfl, cut⟩ := pattern_cuts matched
      simp only
      constructor
      · intro accepted
        split at accepted
        · rename_i filled
          exact ⟨x, y, z, cut, filled.1, filled.2.1, filled.2.2, (Except.ok.inj accepted).symm⟩
        · simp at accepted
      · rintro ⟨x', y', z', cut', someX, someY, someZ, rfl⟩
        obtain ⟨rfl, rfl, rfl⟩ := cut_unique cut cut'
        rw [if_pos ⟨someX, someY, someZ⟩]

theorem fromIdentifierValue_error {raised : PyError} (refused : fromIdentifierValue s = .error raised) :
    raised = identifierError := by
  unfold fromIdentifierValue at refused
  split at refused
  · split at refused
    · simp at refused
    · exact (Except.error.inj refused).symm
  · exact (Except.error.inj refused).symm

/-- The format: `x##y::z` with nothing empty. -/
def IsIdentifier (s : String) : Prop := ∃ x y z, x ≠ "" ∧ y ≠ "" ∧ z ≠ "" ∧ s = x ++ "##" ++ y ++ "::" ++ z

theorem isIdentifier_iff : IsIdentifier s ↔ ∃ x y z, x ≠ [] ∧ y ≠ [] ∧ z ≠ [] ∧ s.toList = joined x y z := by
  constructor
  · rintro ⟨x, y, z, someX, someY, someZ, rfl⟩
    refine ⟨x.toList, y.toList, z.toList, ?_, ?_, ?_, by simp [joined]⟩ <;> simpa
  · rintro ⟨x, y, z, someX, someY, someZ, whole⟩
    refine ⟨String.ofList x, String.ofList y, String.ofList z, ?_, ?_, ?_, ?_⟩
    · simpa [String.ext_iff] using someX
    · simpa [String.ext_iff] using someY
    · simpa [String.ext_iff] using someZ
    · apply String.toList_injective
      simp [whole, joined]

/-- An identifier on one line that is cut at its last separators into parts that are
not empty. -/
def CutsPlainly (s : String) : Prop :=
  '\n' ∉ s.toList ∧ ∃ x y z, x ≠ [] ∧ y ≠ [] ∧ z ≠ [] ∧ CutAtLast s.toList x y z

theorem identifierValue_joined {x y z : List Char} :
    BusdoxDocidQnsDocumentIdentifier.identifierValue
      { syntaxSpecificId := String.ofList x, customizationId := String.ofList y, version := String.ofList z } =
        String.ofList (joined x y z) := by
  apply String.toList_injective
  simp [BusdoxDocidQnsDocumentIdentifier.identifierValue, joined, toString]

/-- The parser accepts just its format and forgets nothing of a string, unless the
string is an identifier that its last separators cut badly. -/
theorem identifier_exact_iff (s : String) :
    (((∃ identifier, fromIdentifierValue s = .ok identifier) ↔ IsIdentifier s) ∧
        (¬ IsIdentifier s → fromIdentifierValue s = .error identifierError) ∧
        ∀ identifier, fromIdentifierValue s = .ok identifier →
          identifier.identifierValue = s ∧ fromIdentifierValue identifier.identifierValue = .ok identifier) ↔
      (IsIdentifier s → CutsPlainly s) := by
  constructor
  · rintro ⟨accepts, -, keeps⟩ format
    obtain ⟨identifier, accepted⟩ := accepts.mpr format
    obtain ⟨x, y, z, cut, someX, someY, someZ, rfl⟩ := fromIdentifierValue_ok.mp accepted
    obtain ⟨⟨tail, -, line, -⟩, -, -⟩ := id cut
    refine ⟨?_, x, y, z, someX, someY, someZ, cut⟩
    rw [← (keeps _ accepted).1, identifierValue_joined, String.toList_ofList]
    exact line
  · intro plain
    have kept : ∀ identifier, fromIdentifierValue s = .ok identifier → IsIdentifier s ∧ identifier.identifierValue = s := by
      intro identifier accepted
      obtain ⟨x, y, z, cut, someX, someY, someZ, rfl⟩ := fromIdentifierValue_ok.mp accepted
      obtain ⟨⟨tail, whole, -, ends⟩, -, -⟩ := id cut
      have format : IsIdentifier s :=
        isIdentifier_iff.mpr ⟨x, y, z ++ tail, someX, someY, by simp [someZ], by simp [whole, joined]⟩
      refine ⟨format, ?_⟩
      -- on one line nothing is left behind the version
      obtain rfl : tail = [] := by
        rcases ends with none | starts
        · exact none
        · have inside : '\n' ∈ s.toList := by
            rw [whole]
            exact List.mem_append_right _ (List.mem_of_mem_head? starts)
          exact absurd inside (plain format).1
      rw [identifierValue_joined, ← List.append_nil (joined x y z), ← whole, String.ofList_toList]
    refine ⟨⟨fun ⟨identifier, accepted⟩ => (kept identifier accepted).1, fun format => ?_⟩, fun other => ?_,
      fun identifier accepted => ?_⟩
    · obtain ⟨-, x, y, z, someX, someY, someZ, cut⟩ := plain format
      exact ⟨_, fromIdentifierValue_ok.mpr ⟨x, y, z, cut, someX, someY, someZ, rfl⟩⟩
    · cases result : fromIdentifierValue s with
      | ok identifier => exact absurd (kept identifier result).1 other
      | error raised => rw [fromIdentifierValue_error result]
    · obtain ⟨-, same⟩ := kept identifier accepted
      exact ⟨same, same.symm ▸ accepted⟩

/-- What stands behind a line break is dropped. -/
theorem second_line_forgotten :
    ¬ (((∃ identifier, fromIdentifierValue "x##y::z\nw" = .ok identifier) ↔ IsIdentifier "x##y::z\nw") ∧
        (¬ IsIdentifier "x##y::z\nw" → fromIdentifierValue "x##y::z\nw" = .error identifierError) ∧
        ∀ identifier, fromIdentifierValue "x##y::z\nw" = .ok identifier →
          identifier.identifierValue = "x##y::z\nw" ∧
            fromIdentifierValue identifier.identifierValue = .ok identifier) := by
  rintro ⟨-, -, keeps⟩
  have accepted : fromIdentifierValue "x##y::z\nw" =
      .ok { syntaxSpecificId := "x", customizationId := "y", version := "z" } := rfl
  have forgotten : ("x##y::z" : String) ≠ "x##y::z\nw" := by decide
  exact forgotten (keeps _ accepted).1

/-- An identifier that ends in a separator is refused. -/
example : fromIdentifierValue "x##y::z::" = .error identifierError := rfl

end Accepting

section RootElements
variable {s : String} {identifier : BusdoxDocidQnsDocumentIdentifier}

theorem splitColons_ne (s : List Char) : splitColons s ≠ [] := by
  fun_cases splitColons s <;> simp_all

/-- A string is its pieces with the separators put back. -/
theorem splitColons_intercalate (s : List Char) : [':', ':'].intercalate (splitColons s) = s := by
  fun_induction splitColons s with
  | case1 => simp
  | case2 rest ih =>
      obtain ⟨first, others, pieces⟩ := List.exists_cons_of_ne_nil (splitColons_ne rest)
      rw [pieces] at ih ⊢
      simpa using ih
  | case3 c rest _ none => exact absurd none (splitColons_ne rest)
  | case4 c rest _ first others pieces ih =>
      rw [pieces] at ih
      cases others <;> simpa using ih

/-- The root element is put together again from a namespace and a name just where there
are no more pieces than these. -/
theorem rootElement_iff : (∃ name, identifier.rootElementName = .ok name ∧
      identifier.rootElementNamespace ++ "::" ++ name = identifier.syntaxSpecificId) ↔
    (splitColons identifier.syntaxSpecificId.toList).length = 2 := by
  have whole := splitColons_intercalate identifier.syntaxSpecificId.toList
  simp only [BusdoxDocidQnsDocumentIdentifier.rootElementName, BusdoxDocidQnsDocumentIdentifier.rootElementNamespace,
    BusdoxDocidQnsDocumentIdentifier.split]
  rcases pieces : splitColons identifier.syntaxSpecificId.toList with _ | ⟨first, _ | ⟨second, rest⟩⟩
  · exact absurd pieces (splitColons_ne _)
  · simp
  · simp only [List.map_cons, List.head?_cons, Option.getD_some, Except.ok.injEq, exists_eq_left', List.length_cons,
      Nat.reduceEqDiff, List.length_eq_zero_iff]
    rw [pieces] at whole
    constructor
    · intro same
      have chars : first ++ ':' :: ':' :: second = [':', ':'].intercalate (first :: second :: rest) := by
        rw [whole, ← same]
        simp
      cases rest with
      | nil => rfl
      | cons third rest => simp at chars
    · rintro rfl
      apply String.toList_injective
      rw [← whole]
      simp

/-- An accepted identifier has a root element, all of what it says of it is in the
business document, and the document can be made, just where the part in front of its
last separators has one separator of its own. -/
theorem accepted_root_element_iff [Libraries] (s : String) (identifier : BusdoxDocidQnsDocumentIdentifier)
    (accepted : fromIdentifierValue s = .ok identifier) :
    ((∃ name, identifier.rootElementName = .ok name ∧
          identifier.rootElementNamespace ++ "::" ++ name = identifier.syntaxSpecificId) ∧
        ∀ (args : PeppolAS4MessageBuilderArgs) (draws : Draws), args.documentTypeIdentifier = identifier →
          ∃ document, getStandardBusinessDocument args draws = .ok document) ↔
      ∃ x y z, CutAtLast s.toList x y z ∧ (splitColons x).length = 2 := by
  obtain ⟨x, y, z, cut, -, -, -, rfl⟩ := fromIdentifierValue_ok.mp accepted
  have condition : (∃ x' y' z', CutAtLast s.toList x' y' z' ∧ (splitColons x').length = 2) ↔
      (splitColons x).length = 2 := by
    constructor
    · rintro ⟨x', y', z', cut', two⟩
      obtain ⟨rfl, -, -⟩ := cut_unique cut cut'
      exact two
    · exact fun two => ⟨x, y, z, cut, two⟩
  have root := @rootElement_iff
    { syntaxSpecificId := String.ofList x, customizationId := String.ofList y, version := String.ofList z }
  rw [String.toList_ofList] at root
  rw [condition, ← root]
  refine ⟨And.left, fun defined => ⟨defined, fun args draws same => ?_⟩⟩
  obtain ⟨name, named, -⟩ := defined
  rw [← same] at named
  simp only [getStandardBusinessDocument, bind_ok, pure_ok]
  exact ⟨_, name, named, rfl⟩

/-- An identifier without an inner separator is accepted and has no root element. -/
theorem no_root_element : ∃ identifier, fromIdentifierValue "x##y::z" = .ok identifier ∧
    identifier.rootElementName = .error (.other "IndexError" "list index out of range") ∧
      ¬ ∃ name, identifier.rootElementName = .ok name ∧
        identifier.rootElementNamespace ++ "::" ++ name = identifier.syntaxSpecificId := by
  refine ⟨{ syntaxSpecificId := "x", customizationId := "y", version := "z" }, rfl, rfl, ?_⟩
  rintro ⟨name, named, -⟩
  exact nomatch named

theorem invoice_root_element :
    letI := RecordedExchange.recorded []
    ∃ identifier, fromIdentifierValue "urn:invoice::Invoice##billing::2.1" = .ok identifier ∧
      (((∃ name, identifier.rootElementName = .ok name ∧
          identifier.rootElementNamespace ++ "::" ++ name = identifier.syntaxSpecificId) ∧
        ∀ (args : PeppolAS4MessageBuilderArgs) (draws : Draws), args.documentTypeIdentifier = identifier →
          ∃ document, getStandardBusinessDocument args draws = .ok document) ↔
      ∃ x y z, CutAtLast "urn:invoice::Invoice##billing::2.1".toList x y z ∧ (splitColons x).length = 2) := by
  let _ := RecordedExchange.recorded []
  exact ⟨_, rfl, accepted_root_element_iff "urn:invoice::Invoice##billing::2.1"
    { syntaxSpecificId := "urn:invoice::Invoice", customizationId := "billing", version := "2.1" } rfl⟩

end RootElements

end DocumentIdentifiers
