import Mathlib

/-!
Reading a gzip file no further than asked. A file is a sequence of members up to its end
or up to a fault, and a reader that has decompressed as much as it was asked for looks at
nothing that comes after: neither at the trailer of the member it is in nor at the next
member.
-/

namespace GzipStreams

universe u
variable {α : Type u}

/-- What a reader meets in a file. -/
inductive GzipStream (α : Type u) where
  /-- The end of the file, or the zeros it is padded with. -/
  | ends
  /-- A member whose length and checksum are those of its content. -/
  | member (content : List α) (rest : GzipStream α)
  /-- What a member decompresses to before a fault: a bad header, a corrupt block, a wrong
  length or checksum, or a file that ends within the member. -/
  | faulty (content : List α)

namespace GzipStream

/-- Everything that decompresses before any fault. -/
def decompressed : GzipStream α → List α
  | .ends => []
  | .member content rest => content ++ rest.decompressed
  | .faulty content => content

/-- `read(size)` from the start; nothing for a fault. -/
def read : GzipStream α → Nat → Option (List α)
  | .ends, _ => some []
  | .member content rest, size =>
      if size ≤ content.length then some (content.take size)
      else (rest.read (size - content.length)).map fun more => content ++ more
  | .faulty content, size => if size ≤ content.length then some (content.take size) else none

/-- The whole file is well-formed members, which decompress to this. -/
inductive WellFormed : GzipStream α → List α → Prop where
  | ends : WellFormed .ends []
  | member {content more : List α} {rest : GzipStream α} (others : WellFormed rest more) :
      WellFormed (.member content rest) (content ++ more)

theorem WellFormed.whole {stream : GzipStream α} {content : List α} (wellFormed : WellFormed stream content) :
    content = stream.decompressed := by
  induction wellFormed with
  | ends => rfl
  | member _ ih => rw [ih, decompressed]

/-- Within what decompresses, reading goes no further than asked. -/
theorem read_within {stream : GzipStream α} {size : Nat} (within : size ≤ stream.decompressed.length) :
    stream.read size = some (stream.decompressed.take size) := by
  induction stream generalizing size with
  | ends => simp [read, decompressed]
  | member content rest ih =>
      simp only [decompressed, List.length_append] at within
      simp only [read, decompressed]
      split
      · rename_i inside
        rw [List.take_append_of_le_length inside]
      · rename_i outside
        have whole : content.take size = content := List.take_of_length_le (by omega)
        rw [ih (by omega), Option.map_some, List.take_append, whole]
  | faulty content => simp [read, decompressed] at within ⊢; exact within

/-- Beyond it, reading goes to the end of the file, and finds it well-formed or raises. -/
theorem read_beyond {stream : GzipStream α} {size : Nat} (beyond : stream.decompressed.length < size)
    {content : List α} : stream.read size = some content ↔ WellFormed stream content := by
  induction stream generalizing size content with
  | ends =>
      simp only [read, Option.some.injEq]
      constructor
      · rintro rfl
        exact .ends
      · rintro ⟨⟩
        rfl
  | member first rest ih =>
      simp only [decompressed, List.length_append] at beyond
      have outside : ¬ size ≤ first.length := by omega
      simp only [read, outside, ↓reduceIte, Option.map_eq_some_iff]
      have later : rest.decompressed.length < size - first.length := by omega
      constructor
      · rintro ⟨more, read, rfl⟩
        exact .member ((ih later).mp read)
      · intro wellFormed
        cases wellFormed with
        | member others => exact ⟨_, (ih later).mpr others, rfl⟩
  | faulty first =>
      have outside : ¬ size ≤ first.length := Nat.not_le.mpr beyond
      simp only [read, outside, ↓reduceIte]
      constructor
      · rintro ⟨⟩
      · rintro ⟨⟩

/-- Asking for one more than a limit tells a file that is too long from one that is
not. -/
theorem read_past_limit {stream : GzipStream α} {limit : Nat} {content : List α} :
    stream.read (limit + 1) = some content ↔
      (limit + 1 ≤ stream.decompressed.length ∧ content = stream.decompressed.take (limit + 1)) ∨
        stream.decompressed.length ≤ limit ∧ WellFormed stream content := by
  by_cases within : limit + 1 ≤ stream.decompressed.length
  · have long : ¬ stream.decompressed.length ≤ limit := by omega
    rw [read_within within]
    simp [within, long, eq_comm]
  · have short : stream.decompressed.length ≤ limit := by omega
    rw [read_beyond (by omega)]
    simp [within, short]

end GzipStream

end GzipStreams
