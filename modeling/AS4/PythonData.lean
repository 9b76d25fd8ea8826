import Mathlib

/-!
The built-in values a Python program computes with, as far as their behaviour is
documented: `str` methods on a string's characters, `bytes`, insertion ordered
dictionaries and the `base64` module (lenient and strict).
-/

namespace PythonData

abbrev Bytes := List UInt8

section Strings

/-- The characters `str.isspace` accepts, which `str.strip` removes. -/
def isSpace (c : Char) : Bool :=
  let code := c.toNat
  (9 ≤ code && code ≤ 13) || (28 ≤ code && code ≤ 32) || code == 0x85 || code == 0xA0 ||
    code == 0x1680 || (0x2000 ≤ code && code ≤ 0x200A) || code == 0x2028 || code == 0x2029 ||
    code == 0x202F || code == 0x205F || code == 0x3000

def stripChars (chars : List Char) : List Char := (chars.dropWhile isSpace).rdropWhile isSpace

/-- `str.strip()` -/
def strip (s : String) : String := String.ofList (stripChars s.toList)

/-- `str.startswith` -/
def startsWith (start s : String) : Bool := start.toList.isPrefixOf s.toList

/-- `str.removeprefix` -/
def removePrefix (start s : String) : String :=
  if startsWith start s then String.ofList (s.toList.drop start.length) else s

/-- `s[1:]` -/
def dropFirst (s : String) : String := String.ofList (s.toList.drop 1)

/-- `separator.join(pieces)` -/
def join (separator : String) : List String → String
  | [] => ""
  | [piece] => piece
  | piece :: rest => piece ++ separator ++ join separator rest

/-- `s.split()`: the maximal runs of characters that are not white space. -/
def splitSpaces (s : String) : List String :=
  (s.toList.splitOnP isSpace).filterMap fun run => if run.isEmpty then none else some (String.ofList run)

def hexDigit (value : Nat) : Char := "0123456789abcdef".toList.getD value '0'

/-- `str` of a bytes value, `b'…'` -/
def bytesStr (data : Bytes) : String :=
  let quote := Char.ofNat (if data.contains 39 && !data.contains 34 then 34 else 39)
  let backslash := Char.ofNat 92
  let shown := data.flatMap fun byte =>
    let code := byte.toNat
    if code = quote.toNat || code = 92 then [backslash, Char.ofNat code]
    else if code = 9 then [backslash, 't']
    else if code = 10 then [backslash, 'n']
    else if code = 13 then [backslash, 'r']
    else if code < 32 || 127 ≤ code then [backslash, 'x', hexDigit (code / 16), hexDigit (code % 16)]
    else [Char.ofNat code]
  String.ofList ('b' :: quote :: shown ++ [quote])

/-- `sorted` on a list of strings. -/
def sorted (items : List String) : List String := items.insertionSort (· ≤ ·)

theorem stripChars_append_spaces {chars spaces : List Char} (blank : ∀ c ∈ spaces, isSpace c = true) :
    stripChars (chars ++ spaces) = stripChars chars := by
  have right : ∀ l : List Char, (l ++ spaces).rdropWhile isSpace = l.rdropWhile isSpace := by
    intro l
    induction spaces using List.reverseRecOn with
    | nil => simp
    | append_singleton init last ih =>
        rw [← List.append_assoc, List.rdropWhile_concat_pos _ _ _ (blank last (by simp))]
        exact ih fun c member => blank c (by simp [member])
  by_cases allBlank : ∀ c ∈ chars, isSpace c = true
  · have all : ∀ c ∈ chars ++ spaces, isSpace c = true := by
      intro c member
      rcases List.mem_append.mp member with inChars | inSpaces
      · exact allBlank c inChars
      · exact blank c inSpaces
    rw [stripChars, stripChars, List.dropWhile_eq_nil_iff.mpr all, List.dropWhile_eq_nil_iff.mpr allBlank]
  · have kept : chars.dropWhile isSpace ≠ [] := by
      intro empty
      exact allBlank (List.dropWhile_eq_nil_iff.mp empty)
    have front : (chars ++ spaces).dropWhile isSpace = chars.dropWhile isSpace ++ spaces := by
      rw [List.dropWhile_append, if_neg]
      simpa [List.isEmpty_iff] using kept
    rw [stripChars, front, right]
    rfl

/-- Text that is not all white space, put after some text, shows after stripping. -/
theorem stripChars_append_ne {chars more : List Char} (solid : ∃ c ∈ more, isSpace c = false) :
    stripChars (chars ++ more) ≠ stripChars chars := by
  intro same
  -- Compare how many characters that are not white space survive on each side.
  have count : ∀ l : List Char, (stripChars l).countP (fun c => !isSpace c) = l.countP (fun c => !isSpace c) := by
    intro l
    have front : (l.dropWhile isSpace).countP (fun c => !isSpace c) = l.countP (fun c => !isSpace c) := by
      conv_rhs => rw [← List.takeWhile_append_dropWhile (p := isSpace) (l := l)]
      rw [List.countP_append]
      have none : (l.takeWhile isSpace).countP (fun c => !isSpace c) = 0 := by
        rw [List.countP_eq_zero]
        intro c member
        simp [List.mem_takeWhile_imp member]
      omega
    have back : ∀ k : List Char, (k.rdropWhile isSpace).countP (fun c => !isSpace c) = k.countP (fun c => !isSpace c) := by
      intro k
      induction k using List.reverseRecOn with
      | nil => simp
      | append_singleton init last ih =>
          by_cases blank : isSpace last = true
          · rw [List.rdropWhile_concat_pos _ _ _ blank, ih, List.countP_append]
            simp [blank]
          · rw [List.rdropWhile_concat_neg _ _ _ blank]
    rw [stripChars, back, front]
  have counts := congrArg (List.countP fun c => !isSpace c) same
  rw [count, count, List.countP_append] at counts
  obtain ⟨c, member, visible⟩ := solid
  have positive : 0 < more.countP (fun c => !isSpace c) :=
    List.countP_pos_iff.mpr ⟨c, member, by simp [visible]⟩
  omega

theorem strip_append_iff {s more : String} :
    strip (s ++ more) = strip s ↔ ∀ c ∈ more.toList, isSpace c = true := by
  rw [strip, strip, String.ofList_inj, String.toList_append]
  constructor
  · intro same
    by_contra visible
    simp only [not_forall] at visible
    obtain ⟨c, member, solid⟩ := visible
    exact stripChars_append_ne ⟨c, member, by simpa using solid⟩ same
  · exact stripChars_append_spaces

@[simp] theorem strip_strip (s : String) : strip (strip s) = strip s := by
  simp only [strip, String.toList_ofList]
  congr 1
  generalize s.toList = l
  simp only [stripChars]
  have front : ((l.dropWhile isSpace).rdropWhile isSpace).dropWhile isSpace =
      (l.dropWhile isSpace).rdropWhile isSpace := by
    cases kept : (l.dropWhile isSpace).rdropWhile isSpace with
    | nil => rfl
    | cons c rest =>
        have initial : (l.dropWhile isSpace).rdropWhile isSpace <+: l.dropWhile isSpace :=
          List.rdropWhile_prefix isSpace _
        rw [kept] at initial
        obtain ⟨tail, whole⟩ := initial
        have first := List.head?_dropWhile_not isSpace l
        rw [← whole] at first
        simp only [List.cons_append, List.head?_cons] at first
        exact List.dropWhile_cons_of_neg (by simpa using first)
  rw [front, List.rdropWhile_idempotent]

theorem startsWith_iff {start s : String} : startsWith start s = true ↔ ∃ rest, s = start ++ rest := by
  simp only [startsWith, List.isPrefixOf_iff_prefix]
  constructor
  · rintro ⟨rest, whole⟩
    exact ⟨String.ofList rest, String.toList_injective (by simp [whole])⟩
  · rintro ⟨rest, rfl⟩
    exact ⟨rest.toList, by simp⟩

@[simp] theorem startsWith_append (start rest : String) : startsWith start (start ++ rest) = true :=
  startsWith_iff.mpr ⟨rest, rfl⟩

@[simp] theorem removePrefix_append (start rest : String) : removePrefix start (start ++ rest) = rest := by
  rw [removePrefix, if_pos (startsWith_append start rest)]
  apply String.toList_injective
  simp [← String.length_toList]

end Strings

section Dictionaries
variable {κ α : Type} [DecidableEq κ]

/-- A dictionary: its items in insertion order. -/
abbrev Dict (κ α : Type) := List (κ × α)

def Dict.get (dict : Dict κ α) (key : κ) : Option α := dict.lookup key

/-- `dict[key] = value`: an existing key keeps its place. -/
def Dict.set (key : κ) (value : α) : Dict κ α → Dict κ α
  | [] => [(key, value)]
  | (other, old) :: rest => if other = key then (key, value) :: rest else (other, old) :: Dict.set key value rest

theorem get_set (dict : Dict κ α) (key other : κ) (value : α) :
    Dict.get (Dict.set key value dict) other = if other = key then some value else Dict.get dict other := by
  induction dict with
  | nil =>
      by_cases same : other = key
      · simp [Dict.get, Dict.set, same]
      · simp [Dict.get, Dict.set, same, List.lookup, beq_eq_false_iff_ne.mpr same]
  | cons item rest ih =>
      obtain ⟨first, old⟩ := item
      simp only [Dict.get] at ih ⊢
      by_cases here : first = key
      · subst here
        by_cases same : other = first
        · simp [Dict.set, same]
        · simp [Dict.set, same, List.lookup_cons, beq_eq_false_iff_ne.mpr same]
      · by_cases same : other = first
        · subst same
          simp [Dict.set, here]
        · simp [Dict.set, here, List.lookup_cons, beq_eq_false_iff_ne.mpr same, ih]

/-- A new key is added at the end. -/
theorem set_fresh {dict : Dict κ α} {key : κ} {value : α} (fresh : Dict.get dict key = none) :
    Dict.set key value dict = dict ++ [(key, value)] := by
  induction dict with
  | nil => rfl
  | cons item rest ih =>
      obtain ⟨first, old⟩ := item
      simp only [Dict.get, List.lookup_cons] at fresh
      by_cases same : key = first
      · simp [same] at fresh
      · have absent : Dict.get rest key = none := by
          simpa [Dict.get, beq_eq_false_iff_ne.mpr same] using fresh
        simp [Dict.set, Ne.symm same, ih absent]

theorem mem_of_get {dict : Dict κ α} {key : κ} {value : α} (found : Dict.get dict key = some value) :
    (key, value) ∈ dict := by
  induction dict with
  | nil => simp [Dict.get] at found
  | cons item rest ih =>
      obtain ⟨first, old⟩ := item
      by_cases same : key = first
      · subst same
        simp only [Dict.get, List.lookup_cons, beq_self_eq_true, Option.some.injEq] at found
        simp [found]
      · have later : Dict.get rest key = some value := by
          simpa [Dict.get, List.lookup_cons, beq_eq_false_iff_ne.mpr same] using found
        exact List.mem_cons_of_mem _ (ih later)

/-- With distinct keys an item is what its key gets. -/
theorem get_of_mem {dict : Dict κ α} (distinct : (dict.map Prod.fst).Nodup) {key : κ} {value : α}
    (member : (key, value) ∈ dict) : Dict.get dict key = some value := by
  induction dict with
  | nil => simp at member
  | cons item rest ih =>
      obtain ⟨first, old⟩ := item
      simp only [List.map_cons, List.nodup_cons] at distinct
      rcases List.mem_cons.mp member with here | later
      · obtain ⟨rfl, rfl⟩ := Prod.mk.inj here
        simp [Dict.get]
      · have other : key ≠ first := by
          rintro rfl
          exact distinct.1 (List.mem_map.mpr ⟨_, later, rfl⟩)
        simpa [Dict.get, List.lookup_cons, beq_eq_false_iff_ne.mpr other] using ih distinct.2 later

end Dictionaries

end PythonData
