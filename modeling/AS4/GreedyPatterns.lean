import Mathlib

/-!
Patterns of literal text and of runs within a line, matched from the left. A run is
taken as long as the rest of the pattern can still be matched, and what the last one
leaves over is not looked at.
-/

namespace GreedyPatterns

inductive Piece where
  | literal (text : List Char)
  /-- `(.*)`, which does not go past the end of the line. -/
  | run

section Matching

/-- How far a run can go. -/
def reach (s : List Char) : Nat := (s.takeWhile (· != '\n')).length

/-- The greatest number up to a bound for which something is found. -/
def longest {α : Type} (found : Nat → Option α) : Nat → Option (Nat × α)
  | 0 => (found 0).map fun value => (0, value)
  | n + 1 =>
      match found (n + 1) with
      | some value => some (n + 1, value)
      | none => longest found n

/-- The runs of the first match in the order of a backtracking matcher. -/
def matchLeft : List Piece → List Char → Option (List (List Char))
  | [], _ => some []
  | .literal text :: rest, s => if text <+: s then matchLeft rest (s.drop text.length) else none
  | .run :: rest, s =>
      (longest (fun n => matchLeft rest (s.drop n)) (reach s)).map fun (n, groups) => s.take n :: groups

end Matching

section Longest
variable {α : Type} {found : Nat → Option α} {bound n : Nat} {value : α}

theorem longest_some : longest found bound = some (n, value) ↔
    n ≤ bound ∧ found n = some value ∧ ∀ m, n < m → m ≤ bound → found m = none := by
  induction bound with
  | zero =>
      simp only [longest, Option.map_eq_some_iff, Prod.mk.injEq, Nat.le_zero]
      constructor
      · rintro ⟨_, here, rfl, rfl⟩
        exact ⟨rfl, here, fun m later none => absurd none (by omega)⟩
      · rintro ⟨rfl, here, -⟩
        exact ⟨value, here, rfl, rfl⟩
  | succ bound ih =>
      simp only [longest]
      cases last : found (bound + 1) with
      | some other =>
          simp only [Option.some.injEq, Prod.mk.injEq]
          constructor
          · rintro ⟨rfl, rfl⟩
            exact ⟨le_rfl, last, fun m later short => absurd later (by omega)⟩
          · rintro ⟨within, here, longer⟩
            obtain rfl : bound + 1 = n := by
              by_contra other'
              have missed := longer (bound + 1) (by omega) le_rfl
              simp [last] at missed
            exact ⟨rfl, Option.some.inj (last.symm.trans here)⟩
      | none =>
          simp only [ih]
          constructor
          · rintro ⟨within, here, longer⟩
            refine ⟨by omega, here, fun m later short => ?_⟩
            rcases Nat.lt_or_ge bound m with past | inside
            · obtain rfl : m = bound + 1 := by omega
              exact last
            · exact longer m later inside
          · rintro ⟨within, here, longer⟩
            refine ⟨?_, here, fun m later short => longer m later (by omega)⟩
            by_contra past
            obtain rfl : n = bound + 1 := by omega
            simp [last] at here

theorem longest_none : longest found bound = none ↔ ∀ n ≤ bound, found n = none := by
  induction bound with
  | zero => simp [longest]
  | succ bound ih =>
      simp only [longest]
      cases last : found (bound + 1) with
      | some value =>
          simp only [reduceCtorEq, false_iff]
          intro none
          simpa [last] using none (bound + 1) le_rfl
      | none =>
          simp only [ih]
          constructor
          · intro none n within
            rcases Nat.lt_or_ge bound n with past | inside
            · obtain rfl : n = bound + 1 := by omega
              exact last
            · exact none n inside
          · exact fun none n within => none n (by omega)

end Longest

section Rules
variable {rest : List Piece} {text s : List Char} {groups : List (List Char)}

/-- A run goes over a front of the line. -/
theorem le_reach {n : Nat} (within : n ≤ s.length) : n ≤ reach s ↔ '\n' ∉ s.take n := by
  induction s generalizing n with
  | nil => simp at within; simp [reach, within]
  | cons c s ih =>
      cases n with
      | zero => simp
      | succ n =>
          have shorter : n ≤ s.length := by simpa using within
          by_cases line : c = '\n'
          · simp [reach, line]
          · have one : reach (c :: s) = reach s + 1 := by simp [reach, line]
            rw [one, Nat.add_le_add_iff_right, ih shorter]
            simp [Ne.symm line]

theorem reach_le : reach s ≤ s.length := (List.takeWhile_prefix _).length_le

@[simp] theorem matchLeft_nil : matchLeft [] s = some [] := rfl

theorem matchLeft_literal : matchLeft (.literal text :: rest) s = some groups ↔
    ∃ back, s = text ++ back ∧ matchLeft rest back = some groups := by
  simp only [matchLeft]
  constructor
  · intro matched
    split at matched
    · rename_i starts
      obtain ⟨back, rfl⟩ := starts
      exact ⟨back, rfl, by simpa using matched⟩
    · simp at matched
  · rintro ⟨back, rfl, matched⟩
    rw [if_pos (List.prefix_append ..)]
    simpa using matched

theorem matchLeft_literal_none {back : List Char} :
    matchLeft (.literal text :: rest) (text ++ back) = none ↔ matchLeft rest back = none := by
  simp [matchLeft]

/-- A run is the longest one behind which the rest of the pattern matches. -/
theorem matchLeft_run : matchLeft (.run :: rest) s = some groups ↔
    ∃ front back inner, s = front ++ back ∧ '\n' ∉ front ∧ matchLeft rest back = some inner ∧ groups = front :: inner ∧
      ∀ front' back', s = front' ++ back' → '\n' ∉ front' → front.length < front'.length → matchLeft rest back' = none := by
  simp only [matchLeft, Option.map_eq_some_iff, Prod.exists, longest_some]
  constructor
  · rintro ⟨n, inner, ⟨within, here, longer⟩, rfl⟩
    have short : n ≤ s.length := within.trans reach_le
    refine ⟨s.take n, s.drop n, inner, (List.take_append_drop n s).symm, (le_reach short).mp within, here, rfl, ?_⟩
    rintro front' back' rfl line past
    have within' : front'.length ≤ reach (front' ++ back') :=
      (le_reach (by simp)).mpr (by rwa [List.take_left])
    rw [List.length_take, Nat.min_eq_left short] at past
    simpa using longer front'.length past within'
  · rintro ⟨front, back, inner, rfl, line, here, rfl, longer⟩
    refine ⟨front.length, inner, ⟨(le_reach (by simp)).mpr (by rwa [List.take_left]), by simpa using here, ?_⟩, by simp⟩
    intro m past within
    have short : m ≤ (front ++ back).length := within.trans reach_le
    exact longer _ _ (List.take_append_drop m (front ++ back)).symm ((le_reach short).mp within)
      (by rw [List.length_take, Nat.min_eq_left short]; exact past)

theorem matchLeft_run_none : matchLeft (.run :: rest) s = none ↔
    ∀ front back, s = front ++ back → '\n' ∉ front → matchLeft rest back = none := by
  simp only [matchLeft, Option.map_eq_none_iff, longest_none]
  constructor
  · rintro none front back rfl line
    have within : front.length ≤ reach (front ++ back) := (le_reach (by simp)).mpr (by rwa [List.take_left])
    simpa using none front.length within
  · intro none n within
    exact none _ _ (List.take_append_drop n s).symm ((le_reach (within.trans reach_le)).mp within)

/-- A run at the end of a pattern always matches. -/
theorem matchLeft_last (s : List Char) : matchLeft [.run] s ≠ none := by
  rw [Ne, matchLeft_run_none]
  intro none
  simpa using none [] s rfl (by simp)

end Rules

end GreedyPatterns
