import Mathlib

/-!
Text in parts. A line ends with a carriage return, a line feed or both; a text is its
header lines, a blank line and its body; and the body of a text in parts is cut at the
lines that start with two hyphens and its boundary. What is written in parts is read back
part by part, as long as no line of a part could be taken for a boundary.
-/

namespace MimeFormat

abbrev Text := List UInt8

section Lines

def crlf : Text := [13, 10]

/-- A byte in front of the first line. -/
def consLine (byte : UInt8) : List Text → List Text
  | [] => [[byte]]
  | line :: rest => (byte :: line) :: rest

/-- The lines of a text, each with its end. -/
def splitLines : Text → List Text
  | [] => []
  | [byte] => [[byte]]
  | byte :: next :: rest =>
      if byte = 13 ∧ next = 10 then [13, 10] :: splitLines rest
      else if byte = 13 ∨ byte = 10 then [byte] :: splitLines (next :: rest)
      else consLine byte (splitLines (next :: rest))

theorem consLine_append {byte : UInt8} {first second : List Text} (solid : first ≠ []) :
    consLine byte (first ++ second) = consLine byte first ++ second := by
  cases first with
  | nil => exact absurd rfl solid
  | cons line rest => rfl

theorem splitLines_ne {text : Text} (solid : text ≠ []) : splitLines text ≠ [] := by
  induction text using splitLines.induct with
  | case1 => exact absurd rfl solid
  | case2 byte => simp [splitLines]
  | case3 byte next rest both ih => simp [splitLines, both]
  | case4 byte next rest other ends ih => simp [splitLines, other, ends]
  | case5 byte next rest other inside ih =>
      rw [splitLines, if_neg other, if_neg inside]
      cases splitLines (next :: rest) <;> simp [consLine]

/-- Putting the lines together gives the text. -/
theorem flatten_splitLines (text : Text) : (splitLines text).flatten = text := by
  induction text using splitLines.induct with
  | case1 => rfl
  | case2 byte => rfl
  | case3 byte next rest both ih =>
      obtain ⟨rfl, rfl⟩ := both
      simp [splitLines, ih]
  | case4 byte next rest other ends ih => simp [splitLines, other, ends, ih]
  | case5 byte next rest other inside ih =>
      have same : ∀ lines : List Text, (consLine byte lines).flatten = byte :: lines.flatten := by
        intro lines
        cases lines <;> rfl
      rw [splitLines, if_neg other, if_neg inside, same, ih]

/-- A text that ends with a line feed is cut at its end. -/
theorem splitLines_append {first second : Text} (ends : first.getLast? = some 10) :
    splitLines (first ++ second) = splitLines first ++ splitLines second := by
  induction first using splitLines.induct with
  | case1 => simp at ends
  | case2 byte =>
      obtain rfl : byte = 10 := by simpa using ends
      cases second with
      | nil => simp [splitLines]
      | cons next rest => simp [splitLines]
  | case3 byte next rest both ih =>
      cases rest with
      | nil => simp [splitLines, both]
      | cons third rest =>
          have later : (third :: rest).getLast? = some 10 := by simpa only [List.getLast?_cons_cons] using ends
          simpa [splitLines, both] using ih later
  -- A line end that stands alone, and below a byte within a line: what follows is not empty.
  | case4 byte next rest other line ih =>
      have later : (next :: rest).getLast? = some 10 := by simpa only [List.getLast?_cons_cons] using ends
      have rest' := ih later
      simp only [List.cons_append] at rest' ⊢
      rw [splitLines, if_neg other, if_pos line, rest', splitLines, if_neg other, if_pos line, List.cons_append]
  | case5 byte next rest other inside ih =>
      have later : (next :: rest).getLast? = some 10 := by simpa only [List.getLast?_cons_cons] using ends
      have rest' := ih later
      simp only [List.cons_append] at rest' ⊢
      rw [splitLines, if_neg other, if_neg inside, rest', splitLines, if_neg other, if_neg inside,
        consLine_append (splitLines_ne (List.cons_ne_nil _ _))]

/-- A text in which no line ends. -/
def OneLine (text : Text) : Prop := ∀ byte ∈ text, byte ≠ 13 ∧ byte ≠ 10

theorem oneLine_iff {text : Text} : OneLine text ↔ (text.all fun byte => byte != 13 && byte != 10) = true := by
  simp [OneLine]

instance (text : Text) : Decidable (OneLine text) := decidable_of_iff _ oneLine_iff.symm

theorem oneLine_append {first second : Text} : OneLine (first ++ second) ↔ OneLine first ∧ OneLine second := by
  constructor
  · intro one
    exact ⟨fun byte member => one byte (List.mem_append_left _ member), fun byte member => one byte (List.mem_append_right _ member)⟩
  · rintro ⟨before, behind⟩ byte member
    exact (List.mem_append.mp member).elim (before byte) (behind byte)

theorem splitLines_line {line : Text} (one : OneLine line) : splitLines (line ++ crlf) = [line ++ crlf] := by
  induction line with
  | nil => rfl
  | cons byte rest ih =>
      have here := one byte List.mem_cons_self
      have later := ih fun next member => one next (List.mem_cons_of_mem _ member)
      cases rest with
      | nil => simp [splitLines, crlf, here, consLine]
      | cons next rest =>
          simp only [List.cons_append] at later ⊢
          rw [splitLines, if_neg (by simp [here]), if_neg (by simp [here]), later]
          rfl

theorem ends_crlf (text : Text) : (text ++ crlf).getLast? = some 10 := by simp [crlf]

/-- A line in front of a text is its first. -/
theorem splitLines_cons {line : Text} (one : OneLine line) (rest : Text) :
    splitLines (line ++ crlf ++ rest) = (line ++ crlf) :: splitLines rest := by
  rw [splitLines_append (ends_crlf line), splitLines_line one, List.singleton_append]

/-- The text without its last line end. -/
def dropLineEnd (text : Text) : Text :=
  match text.reverse with
  | 10 :: 13 :: rest => rest.reverse
  | 10 :: rest => rest.reverse
  | 13 :: rest => rest.reverse
  | _ => text

theorem dropLineEnd_crlf (text : Text) : dropLineEnd (text ++ crlf) = text := by
  simp [dropLineEnd, crlf]

end Lines

section Delimiters

def hyphens : Text := [45, 45]

def isBlank (byte : UInt8) : Bool := byte == 32 || byte == 9

def isLineEnd (text : Text) : Bool := [[], [13, 10], [13], [10]].contains text

/-- The text behind what it starts with. -/
def after (start text : Text) : Option Text := if start.isPrefixOf text then some (text.drop start.length) else none

/-- Whether a line is the boundary, and if so whether it is the last one: two more hyphens
may follow it, and white space. -/
def delimiter (boundary line : Text) : Option Bool :=
  match after (hyphens ++ boundary) line with
  | none => none
  | some rest =>
      match after hyphens rest with
      | some rest => if isLineEnd (rest.dropWhile isBlank) then some true else none
      | none => if isLineEnd (rest.dropWhile isBlank) then some false else none

def isDelimiter (boundary line : Text) : Bool := (delimiter boundary line).isSome

theorem after_append (start rest : Text) : after start (start ++ rest) = some rest := by
  simp [after]

/-- A line that does not start with a hyphen is no boundary. -/
theorem not_delimiter {boundary line : Text} {byte : UInt8} (starts : line.head? = some byte) (other : byte ≠ 45) :
    delimiter boundary line = none := by
  cases line with
  | nil => simp at starts
  | cons first rest =>
      obtain rfl : first = byte := by simpa using starts
      simp [delimiter, after, hyphens, Ne.symm other]

theorem delimiter_opening (boundary : Text) : delimiter boundary (hyphens ++ boundary ++ crlf) = some false := by
  rw [delimiter, after_append]
  rfl

theorem delimiter_closing (boundary : Text) : delimiter boundary (hyphens ++ boundary ++ (hyphens ++ crlf)) = some true := by
  rw [delimiter, after_append]
  rfl

mutual
/-- The parts behind a boundary, of which several count as one. -/
def partsBehind (boundary : Text) : List Text → List (List Text)
  | [] => [[]]
  | line :: rest =>
      if isDelimiter boundary line then partsBehind boundary rest else partsWithin boundary [line] rest

/-- The parts from within one, with its lines so far. -/
def partsWithin (boundary : Text) (taken : List Text) : List Text → List (List Text)
  | [] => [taken]
  | line :: rest =>
      match delimiter boundary line with
      | none => partsWithin boundary (taken ++ [line]) rest
      -- What follows the last boundary is no part.
      | some true => [taken]
      | some false => taken :: partsBehind boundary rest
end

/-- The lines of each part. There is none when the last boundary comes first. -/
def cutParts (boundary : Text) (lines : List Text) : Option (List (List Text)) :=
  -- The lines before the first boundary are of no part.
  match lines.dropWhile fun line => !isDelimiter boundary line with
  | [] => none
  | line :: rest => if delimiter boundary line = some false then some (partsBehind boundary rest) else none

theorem partsWithin_lines {boundary : Text} (lines : List Text) (plain : ∀ line ∈ lines, delimiter boundary line = none)
    (taken rest : List Text) :
    partsWithin boundary taken (lines ++ rest) = partsWithin boundary (taken ++ lines) rest := by
  induction lines generalizing taken with
  | nil => simp
  | cons line lines ih =>
      have here := plain line List.mem_cons_self
      have later := ih (fun next member => plain next (List.mem_cons_of_mem _ member)) (taken ++ [line])
      rw [List.cons_append, partsWithin, here]
      simpa using later

theorem partsBehind_lines {boundary : Text} {lines : List Text} (solid : lines ≠ [])
    (plain : ∀ line ∈ lines, delimiter boundary line = none) (rest : List Text) :
    partsBehind boundary (lines ++ rest) = partsWithin boundary lines rest := by
  cases lines with
  | nil => exact absurd rfl solid
  | cons line lines =>
      have here := plain line List.mem_cons_self
      have later := partsWithin_lines lines (fun next member => plain next (List.mem_cons_of_mem _ member)) [line] rest
      simpa [partsBehind, isDelimiter, here] using later

/-- No part has more lines than there are. -/
theorem parts_length {boundary : Text} (lines : List Text) :
    (∀ part ∈ partsBehind boundary lines, part.length ≤ lines.length) ∧
      ∀ taken, ∀ part ∈ partsWithin boundary taken lines, part.length ≤ taken.length + lines.length := by
  induction lines with
  | nil => simp [partsBehind, partsWithin]
  | cons line rest ih =>
      obtain ⟨behind, within⟩ := ih
      constructor
      · intro part member
        rw [partsBehind] at member
        split at member
        · have shorter := behind part member
          simp only [List.length_cons]
          omega
        · have shorter := within [line] part member
          simp only [List.length_cons, List.length_nil] at shorter ⊢
          omega
      · intro taken part member
        rw [partsWithin] at member
        split at member
        · have shorter := within (taken ++ [line]) part member
          simp only [List.length_append, List.length_cons, List.length_nil] at shorter ⊢
          omega
        · obtain rfl := List.mem_singleton.mp member
          omega
        · rcases List.mem_cons.mp member with rfl | later
          · omega
          · have shorter := behind part later
            simp only [List.length_cons]
            omega

theorem cutParts_length {boundary : Text} {lines part : List Text} {parts : List (List Text)}
    (cut : cutParts boundary lines = some parts) (member : part ∈ parts) : part.length < lines.length := by
  unfold cutParts at cut
  split at cut
  · simp at cut
  · rename_i line rest dropped
    split at cut
    · obtain rfl := Option.some.inj cut
      have within := (parts_length rest).1 part member
      have fewer : (line :: rest).length ≤ lines.length := dropped ▸ (List.dropWhile_suffix _).length_le
      rw [List.length_cons] at fewer
      omega
    · simp at cut

end Delimiters

section Entities

/-- How the body of an entity is read, by what its header says: as text, as a text within
another entity, or in parts, at a boundary if one is given. -/
inductive Kind where
  | text
  | message
  | multipart (boundary : Option Text)
  deriving DecidableEq

inductive Entity (Header : Type) where
  | text (header : Header) (content : Text)
  | message (header : Header)
  | multipart (header : Header) (parts : List (Entity Header))

def isNameByte (byte : UInt8) : Bool := (33 ≤ byte && byte ≤ 57) || (59 ≤ byte && byte ≤ 126)

/-- A line of a header: a name and a colon, or the continuation of one. -/
def isHeaderLine (line : Text) : Bool :=
  [70, 114, 111, 109, 32].isPrefixOf line || (line.dropWhile isNameByte).head? == some 58 || line.head?.any isBlank

def isEmptyLine (line : Text) : Bool := line.head?.any fun byte => byte == 13 || byte == 10

/-- The lines of the body: an empty line ends the header, and is not part of either. -/
def bodyLines (lines : List Text) : List Text :=
  match lines.dropWhile isHeaderLine with
  | [] => []
  | line :: rest => if isEmptyLine line then rest else line :: rest

theorem bodyLines_length (lines : List Text) : (bodyLines lines).length ≤ lines.length := by
  have fewer := (List.dropWhile_suffix isHeaderLine (l := lines)).length_le
  unfold bodyLines
  split
  · simp
  · rename_i line rest dropped
    rw [dropped, List.length_cons] at fewer
    split
    · omega
    · simpa using fewer

variable {Header : Type} (readHeader : List Text → Header) (kindOf : Header → Kind)

/-- The entity that some lines are. The line end in front of a boundary is part of the
boundary, so text within a multipart loses its last one. -/
def readEntity (within : Bool) (lines : List Text) : Entity Header :=
  let header := readHeader (lines.takeWhile isHeaderLine)
  match kindOf header with
  | .text => .text header (if within then dropLineEnd (bodyLines lines).flatten else (bodyLines lines).flatten)
  | .message => .message header
  -- Parts that no boundary tells apart are read as one text.
  | .multipart none => .text header (bodyLines lines).flatten
  | .multipart (some boundary) =>
      match _cut : cutParts boundary (bodyLines lines) with
      | none => .text header ((bodyLines lines).takeWhile fun line => !isDelimiter boundary line).flatten
      | some parts => .multipart header (parts.attach.map fun part => readEntity true part.1)
termination_by lines.length
decreasing_by
  have shorter := cutParts_length _cut part.2
  have fewer := bodyLines_length lines
  omega

/-- The entity that a text is. -/
def readText (text : Text) : Entity Header := readEntity readHeader kindOf false (splitLines text)

theorem readEntity_text {within : Bool} {lines : List Text}
    (kind : kindOf (readHeader (lines.takeWhile isHeaderLine)) = .text) :
    readEntity readHeader kindOf within lines = .text (readHeader (lines.takeWhile isHeaderLine))
      (if within then dropLineEnd (bodyLines lines).flatten else (bodyLines lines).flatten) := by
  rw [readEntity]
  simp only [kind]

theorem readEntity_parts {within : Bool} {lines : List Text} {boundary : Text} {parts : List (List Text)}
    (kind : kindOf (readHeader (lines.takeWhile isHeaderLine)) = .multipart (some boundary))
    (cut : cutParts boundary (bodyLines lines) = some parts) :
    readEntity readHeader kindOf within lines = .multipart (readHeader (lines.takeWhile isHeaderLine))
      (parts.map (readEntity readHeader kindOf true)) := by
  rw [readEntity]
  simp only [kind]
  split
  · rename_i uncut
    rw [cut] at uncut
    simp at uncut
  · rename_i parts' cut'
    obtain rfl := Option.some.inj (cut.symm.trans cut')
    simp

end Entities

section Written

/-- A part to write: the lines of its header, and its content. -/
structure Part where
  header : List Text
  content : Text

def writeHeader (header : List Text) : Text := header.flatMap (· ++ crlf) ++ crlf

/-- Parts between boundaries, and after them the last boundary. -/
def writeParts (boundary : Text) (parts : List Part) : Text :=
  parts.flatMap (fun part => hyphens ++ boundary ++ crlf ++ (writeHeader part.header ++ (part.content ++ crlf))) ++
    (hyphens ++ boundary ++ hyphens ++ crlf)

/-- A header whose lines are read as such. -/
def IsHeader (header : List Text) : Prop := ∀ line ∈ header, OneLine line ∧ isHeaderLine (line ++ crlf) = true

/-- No line of the part could be taken for the boundary. -/
structure Apart (boundary : Text) (part : Part) : Prop where
  header : ∀ line ∈ part.header, delimiter boundary (line ++ crlf) = none
  content : ∀ line ∈ splitLines (part.content ++ crlf), delimiter boundary line = none

variable {boundary : Text} {part : Part} {header : List Text}

theorem splitLines_header (good : IsHeader header) (rest : Text) :
    splitLines (writeHeader header ++ rest) = header.map (· ++ crlf) ++ [crlf] ++ splitLines rest := by
  induction header with
  | nil =>
      have empty : OneLine [] := by simp [OneLine]
      simpa [writeHeader] using splitLines_cons empty rest
  | cons line header ih =>
      have later := ih fun next member => good next (List.mem_cons_of_mem _ member)
      have here := splitLines_cons (good line List.mem_cons_self).1 (writeHeader header ++ rest)
      simp only [writeHeader, List.flatMap_cons, List.map_cons, List.append_assoc, List.cons_append] at here later ⊢
      rw [here, later]

theorem empty_not_header : isHeaderLine crlf = false := by decide

/-- The header of a text is read back, and its body. -/
theorem header_written (good : IsHeader header) (rest : List Text) :
    (header.map (· ++ crlf) ++ [crlf] ++ rest).takeWhile isHeaderLine = header.map (· ++ crlf) ∧
      bodyLines (header.map (· ++ crlf) ++ [crlf] ++ rest) = rest := by
  have all : ∀ line ∈ header.map (· ++ crlf), isHeaderLine line = true := by
    intro line member
    obtain ⟨line, inside, rfl⟩ := List.mem_map.mp member
    exact (good line inside).2
  constructor
  · rw [List.append_assoc, List.takeWhile_append_of_pos all]
    simp [empty_not_header]
  · have dropped : (header.map (· ++ crlf) ++ [crlf] ++ rest).dropWhile isHeaderLine = crlf :: rest := by
      rw [List.append_assoc, List.dropWhile_append_of_pos all]
      simp [empty_not_header]
    rw [bodyLines, dropped]
    rfl

def partLines (part : Part) : List Text := part.header.map (· ++ crlf) ++ [crlf] ++ splitLines (part.content ++ crlf)

def boundaryLine (boundary : Text) : Text := hyphens ++ boundary ++ crlf

def lastLine (boundary : Text) : Text := hyphens ++ boundary ++ hyphens ++ crlf

theorem oneLine_hyphens (one : OneLine boundary) : OneLine (hyphens ++ boundary) :=
  oneLine_append.mpr ⟨by decide, one⟩

/-- The lines that parts are written in. -/
theorem splitLines_parts (one : OneLine boundary) {parts : List Part} (good : ∀ part ∈ parts, IsHeader part.header) :
    splitLines (writeParts boundary parts) =
      parts.flatMap (fun part => boundaryLine boundary :: partLines part) ++ [lastLine boundary] := by
  -- Part by part from the front: each is cut off at the line feed it ends with.
  induction parts with
  | nil =>
      have last : OneLine (hyphens ++ boundary ++ hyphens) := oneLine_append.mpr ⟨oneLine_hyphens one, by decide⟩
      simpa [writeParts, lastLine] using splitLines_line last
  | cons part parts ih =>
      have later := ih fun next member => good next (List.mem_cons_of_mem _ member)
      have split : writeParts boundary (part :: parts) =
          hyphens ++ boundary ++ crlf ++ (writeHeader part.header ++ (part.content ++ crlf ++ writeParts boundary parts)) := by
        simp [writeParts]
      rw [split, splitLines_cons (oneLine_hyphens one), splitLines_header (good part List.mem_cons_self),
        splitLines_append (ends_crlf part.content), later]
      simp [partLines, boundaryLine]

theorem crlf_undelimited (boundary : Text) : delimiter boundary crlf = none := rfl

theorem partLines_plain (apart : Apart boundary part) : ∀ line ∈ partLines part, delimiter boundary line = none := by
  intro line member
  simp only [partLines, List.mem_append, List.mem_map, List.mem_singleton] at member
  rcases member with (⟨line, inside, rfl⟩ | rfl) | inside
  · exact apart.header line inside
  · exact crlf_undelimited boundary
  · exact apart.content line inside

/-- Parts that are written apart are cut where they were put together. -/
theorem partsBehind_written {parts : List Part} (first : Apart boundary part) (apart : ∀ part ∈ parts, Apart boundary part) :
    partsBehind boundary (partLines part ++ (parts.flatMap (fun part => boundaryLine boundary :: partLines part) ++
      [lastLine boundary])) = (part :: parts).map partLines := by
  have solid : ∀ part, partLines part ≠ [] := by simp [partLines]
  -- The first part is kept apart, since its lines stand before the boundary of the next.
  induction parts generalizing part with
  | nil =>
      have closes : delimiter boundary (lastLine boundary) = some true := by
        simpa [lastLine] using delimiter_closing boundary
      rw [partsBehind_lines (solid part) (partLines_plain first)]
      simp [partsWithin, closes]
  | cons next parts ih =>
      have opens : delimiter boundary (boundaryLine boundary) = some false := delimiter_opening boundary
      have here := apart next List.mem_cons_self
      have later := ih here fun part member => apart part (List.mem_cons_of_mem _ member)
      rw [partsBehind_lines (solid part) (partLines_plain first)]
      simp only [List.flatMap_cons, List.cons_append, List.append_assoc, partsWithin, opens]
      rw [later, List.map_cons, List.map_cons, List.map_cons]

variable {Header : Type} (readHeader : List Text → Header) (kindOf : Header → Kind)

theorem part_read (good : IsHeader part.header) (kind : kindOf (readHeader (part.header.map (· ++ crlf))) = .text) :
    readEntity readHeader kindOf true (partLines part) = .text (readHeader (part.header.map (· ++ crlf))) part.content := by
  obtain ⟨header, body⟩ := header_written good (splitLines (part.content ++ crlf))
  rw [readEntity_text readHeader kindOf (by rw [partLines, header, kind]), partLines, header, body, flatten_splitLines]
  simp [dropLineEnd_crlf]

/-- What is written in parts is read back: the header, and each part with its header and
its content, byte for byte. -/
theorem readText_written {parts : List Part} (good : IsHeader header)
    (kind : kindOf (readHeader (header.map (· ++ crlf))) = .multipart (some boundary)) (one : OneLine boundary)
    (solid : parts ≠ []) (headers : ∀ part ∈ parts, IsHeader part.header)
    (texts : ∀ part ∈ parts, kindOf (readHeader (part.header.map (· ++ crlf))) = .text)
    (apart : ∀ part ∈ parts, Apart boundary part) :
    readText readHeader kindOf (writeHeader header ++ writeParts boundary parts) =
      .multipart (readHeader (header.map (· ++ crlf)))
        (parts.map fun part => .text (readHeader (part.header.map (· ++ crlf))) part.content) := by
  have lines := (splitLines_header good (writeParts boundary parts)).trans
    (congrArg (header.map (· ++ crlf) ++ [crlf] ++ ·) (splitLines_parts one headers))
  obtain ⟨read, body⟩ := header_written good (parts.flatMap (fun part => boundaryLine boundary :: partLines part) ++
    [lastLine boundary])
  have cut : cutParts boundary (parts.flatMap (fun part => boundaryLine boundary :: partLines part) ++
      [lastLine boundary]) = some (parts.map partLines) := by
    cases parts with
    | nil => exact absurd rfl solid
    | cons part parts =>
        have opens : delimiter boundary (boundaryLine boundary) = some false := delimiter_opening boundary
        have behind := partsBehind_written (apart part List.mem_cons_self)
          fun part member => apart part (List.mem_cons_of_mem _ member)
        simp only [cutParts, List.flatMap_cons, List.cons_append, List.append_assoc, isDelimiter, opens, Option.isSome_some,
          Bool.not_true, Bool.false_eq_true, not_false_eq_true, List.dropWhile_cons_of_neg, if_true]
        rw [behind]
  rw [readText, lines, readEntity_parts readHeader kindOf (by rw [read, kind]) (by rw [body, cut]), read, List.map_map]
  congr 1
  apply List.map_congr_left
  intro part member
  exact part_read readHeader kindOf (headers part member) (texts part member)

end Written

end MimeFormat
