import AS4.CodecLaws

/-!
What a record comes back as when the element written for it is read. `RoundTrip`
says it for one codec, with the values it speaks of, and composes the way codecs
do, so that a class built from fields that come back comes back as well.
-/

namespace RoundTrips
open ElementTree ElementCodec ElementCodec.Codec PythonData

variable {α β : Type}

theorem strip_empty : strip "" = "" := by simp [strip, stripChars]

/-- A printed value that reads as another: its text is not empty and trimmed. -/
structure ReadsPrinted (scalar : Scalar α) (value read : α) : Prop where
  solid : scalar.encode value ≠ ""
  trimmed : strip (scalar.encode value) = scalar.encode value
  decoded : scalar.decode (scalar.encode value) = .ok read

/-- Values of one type that are read as `kept` of them. -/
structure Printing (scalar : Scalar α) where
  tidy : α → Prop
  kept : α → α
  reads : ∀ {value}, tidy value → ReadsPrinted scalar value (kept value)

/-- What reading back a written value gives. `tidy` says of which values, `plain`
that they hold no field left out of account, `filled` which of them can be read
back, and `back` as what. -/
structure RoundTrip (c : Codec α) where
  tidy : α → Prop
  plain : α → Prop := fun _ => True
  filled : α → Prop := fun _ => True
  back : α → α → Prop
  readable : ∀ {value}, tidy value → plain value → (c.readable value ↔ filled value)
  rereads : ∀ {n value value'}, tidy value → plain value → filled value → c.reread n value value' → back value value'

namespace RoundTrip
variable {c : Codec α} {d : Codec β} {tag attr : QName} {name : String}

/-- A written value is read back, as what it comes back as, just where it is filled. -/
theorem comes_back (trip : RoundTrip c) (law : c.Lawful) {value : α} (admitted : c.admits value)
    (tidy : trip.tidy value) (plain : trip.plain value) (tag : QName) :
    (∃ value', c.validate (.root (c.element tag value)) = .ok value' ∧ trip.back value value') ↔ trip.filled value := by
  have written : (Located.root (c.element tag value)).node = c.element tag value := rfl
  obtain ⟨readable, rereads⟩ := rereads_element law admitted written
  rw [trip.readable tidy plain] at readable
  constructor
  · rintro ⟨value', read, -⟩
    exact readable.mpr ⟨value', read⟩
  · intro filled
    obtain ⟨value', read⟩ := readable.mp filled
    exact ⟨value', read, trip.rereads tidy plain filled (rereads value' read)⟩

section Children

def singular (trip : RoundTrip c) : RoundTrip (Codec.singular tag name c) where
  tidy := trip.tidy
  plain := trip.plain
  filled := trip.filled
  back := trip.back
  readable tidy plain := trip.readable tidy plain
  rereads tidy plain filled := by
    rintro ⟨child, -, -, same⟩
    exact trip.rereads tidy plain filled same

/-- The children of a list field come back one by one. -/
theorem back_each (trip : RoundTrip c) {n : Located} {values values' : List α} (tidy : ∀ value ∈ values, trip.tidy value)
    (plain : ∀ value ∈ values, trip.plain value) (filled : ∀ value ∈ values, trip.filled value)
    (read : List.Forall₂ (fun value value' => Below n (c.element tag value) fun child => c.reread child value value')
      values values') : List.Forall₂ trip.back values values' := by
  induction read with
  | nil => exact .nil
  | @cons value value' rest rest' below _ ih =>
      obtain ⟨child, -, -, same⟩ := below
      have here : value ∈ value :: rest := List.mem_cons_self
      have later : ∀ other ∈ rest, other ∈ value :: rest := fun other => List.mem_cons_of_mem _
      have first := trip.rereads (tidy value here) (plain value here) (filled value here) same
      exact .cons first (ih (fun other member => tidy other (later other member))
        (fun other member => plain other (later other member)) fun other member => filled other (later other member))

theorem filled_each (trip : RoundTrip c) {values : List α} (tidy : ∀ value ∈ values, trip.tidy value)
    (plain : ∀ value ∈ values, trip.plain value) :
    (∀ value ∈ values, c.readable value) ↔ ∀ value ∈ values, trip.filled value :=
  forall₂_congr fun value member => trip.readable (tidy value member) (plain value member)

def optional (trip : RoundTrip c) : RoundTrip (Codec.optional tag name c) where
  tidy value := ∀ present ∈ value, trip.tidy present
  plain value := ∀ present ∈ value, trip.plain present
  filled value := ∀ present ∈ value, trip.filled present
  back := Option.Rel trip.back
  readable tidy plain := forall₂_congr fun present member => trip.readable (tidy present member) (plain present member)
  rereads := by
    rintro n value value' tidy plain filled read
    cases read with
    | none => exact .none
    | some below =>
        obtain ⟨child, -, -, same⟩ := below
        exact .some (trip.rereads (tidy _ rfl) (plain _ rfl) (filled _ rfl) same)

def many (trip : RoundTrip c) : RoundTrip (Codec.many tag name c) where
  tidy values := ∀ value ∈ values, trip.tidy value
  plain values := ∀ value ∈ values, trip.plain value
  filled values := ∀ value ∈ values, trip.filled value
  back := List.Forall₂ trip.back
  readable tidy plain := trip.filled_each tidy plain
  rereads tidy plain filled read := trip.back_each tidy plain filled read

def manyMinOne (trip : RoundTrip c) : RoundTrip (Codec.manyMinOne tag name c) where
  tidy values := ∀ value ∈ values, trip.tidy value
  plain values := ∀ value ∈ values, trip.plain value
  filled values := ∀ value ∈ values, trip.filled value
  back := List.Forall₂ trip.back
  readable tidy plain := trip.filled_each tidy plain
  rereads tidy plain filled read := trip.back_each tidy plain filled read

/-- An empty list writes nothing, which a required field does not accept. -/
def someOf (trip : RoundTrip c) : RoundTrip (Codec.someOf tag name c) where
  tidy values := ∀ value ∈ values, trip.tidy value
  plain values := ∀ value ∈ values, trip.plain value
  filled values := values ≠ [] ∧ ∀ value ∈ values, trip.filled value
  back := List.Forall₂ trip.back
  readable tidy plain := and_congr Iff.rfl (trip.filled_each tidy plain)
  rereads tidy plain filled read := trip.back_each tidy plain filled.2 read

/-- An empty list comes back as no list. -/
def optionalMany (trip : RoundTrip c) : RoundTrip (Codec.optionalMany tag name c) where
  tidy values := ∀ value ∈ values.getD [], trip.tidy value
  plain values := ∀ value ∈ values.getD [], trip.plain value
  filled values := ∀ value ∈ values.getD [], trip.filled value
  back values values' :=
    match values' with
    | none => values.getD [] = []
    | some read => read ≠ [] ∧ List.Forall₂ trip.back (values.getD []) read
  readable tidy plain := trip.filled_each tidy plain
  rereads := by
    rintro n values values' tidy plain filled read
    cases values' with
    | none => exact read
    | some read' => exact ⟨read.1, trip.back_each tidy plain filled read.2⟩

end Children

section Scalars
variable {scalar : Scalar α}

def requiredAttribute (printing : Printing scalar) : RoundTrip (Codec.requiredAttribute scalar attr name) where
  tidy := printing.tidy
  back value value' := value' = printing.kept value
  readable tidy _ := by
    have reads := printing.reads tidy
    exact iff_true_intro ⟨reads.solid, _, reads.decoded⟩
  rereads tidy _ _ read := Except.ok.inj (read.symm.trans (printing.reads tidy).decoded)

/-- An attribute that has to be there, of a type that allows it not to be. -/
def requiredOptionalAttribute (printing : Printing scalar) :
    RoundTrip (Codec.requiredAttribute (Scalar.optional scalar) attr name) where
  tidy value := ∀ present ∈ value, printing.tidy present
  filled value := value ≠ none
  back value value' := value' = value.map printing.kept
  readable := by
    rintro (_ | present) tidy -
    · simp [Codec.requiredAttribute, Scalar.optional]
    · have reads := printing.reads (tidy present rfl)
      simp [Codec.requiredAttribute, Scalar.optional, reads.solid, reads.decoded, Except.map]
  rereads := by
    rintro n (_ | present) value' tidy - filled read
    · exact absurd rfl filled
    · have reads := printing.reads (tidy present rfl)
      simp [Codec.requiredAttribute, Scalar.optional, reads.decoded, Except.map] at read
      exact read.symm

def attributeOr {default : α} (printing : Printing scalar) : RoundTrip (Codec.attributeOr scalar default attr name) where
  tidy := printing.tidy
  back value value' := value' = printing.kept value
  readable tidy _ := by
    have reads := printing.reads tidy
    exact iff_true_intro (Or.inr ⟨_, reads.decoded⟩)
  rereads tidy _ _ read := by
    have reads := printing.reads tidy
    simp only [Codec.attributeOr, reads.solid, ↓reduceIte, reads.decoded] at read
    exact (Except.ok.inj read).symm

def optionalAttribute (printing : Printing scalar) : RoundTrip (Codec.optionalAttribute scalar attr name) where
  tidy value := ∀ present ∈ value, printing.tidy present
  back value value' := value' = value.map printing.kept
  readable := by
    rintro (_ | present) tidy -
    · simp [Codec.optionalAttribute, Codec.attributeOr, Scalar.optional]
    · have reads := printing.reads (tidy present rfl)
      simp [Codec.optionalAttribute, Codec.attributeOr, Scalar.optional, reads.decoded, Except.map]
  rereads := by
    rintro n (_ | present) value' tidy - - read
    · simpa [Codec.optionalAttribute, Codec.attributeOr, Scalar.optional] using read
    · have reads := printing.reads (tidy present rfl)
      simp [Codec.optionalAttribute, Codec.attributeOr, Scalar.optional, reads.solid, reads.decoded, Except.map] at read
      exact read.symm

def requiredText (printing : Printing scalar) : RoundTrip (Codec.requiredText scalar name) where
  tidy := printing.tidy
  back value value' := value' = printing.kept value
  readable tidy _ := by
    have reads := printing.reads tidy
    rw [requiredText_readable, reads.trimmed]
    exact iff_true_intro ⟨reads.solid, _, reads.decoded⟩
  rereads tidy _ _ read := by
    have reads := printing.reads tidy
    simp only [Codec.requiredText, reads.trimmed] at read
    exact Except.ok.inj (read.symm.trans reads.decoded)

/-- Optional text, which is absent when it is empty. -/
def optionalText (printing : Printing scalar) : RoundTrip (Codec.textOr (Scalar.optional scalar) none name) where
  tidy value := ∀ present ∈ value, scalar.encode present = "" ∨ printing.tidy present
  back value value' := value' = (value.filter fun present => scalar.encode present ≠ "").map printing.kept
  readable := by
    rintro (_ | present) tidy -
    · simp [textOr_readable, Scalar.optional, strip_empty]
    · rcases tidy present rfl with empty | tidy
      · simp [textOr_readable, Scalar.optional, empty, strip_empty]
      · have reads := printing.reads tidy
        simp [textOr_readable, Scalar.optional, reads.trimmed, reads.decoded, Except.map]
  rereads := by
    rintro n (_ | present) value' tidy - - read
    · simpa [Codec.textOr, Scalar.optional, strip_empty] using read
    · rcases tidy present rfl with empty | tidy
      · simpa [Codec.textOr, Scalar.optional, Option.filter, empty, strip_empty] using read
      · have reads := printing.reads tidy
        simp [Codec.textOr, Scalar.optional, reads.trimmed, reads.solid, reads.decoded, Except.map] at read
        simp [Option.filter, reads.solid, read]

/-- A string with the empty one for a default. -/
def textOrEmpty : RoundTrip (Codec.textOr .string "" name) where
  tidy value := strip value = value
  back value value' := value' = value
  readable _ _ := textOr_string_readable
  rereads tidy _ _ read := (textOr_string_reread.mp read).trans tidy

def attributeOrEmpty : RoundTrip (Codec.attributeOr .string "" attr name) where
  tidy value := strip value = value
  back value value' := value' = value
  readable _ _ := attributeOr_string_readable
  rereads _ _ _ read := attributeOr_string_reread.mp read

/-- A field left out of account: of values that hold it nothing is said. -/
def leftOut (c : Codec α) : RoundTrip c where
  tidy _ := True
  plain _ := False
  back := Eq
  readable _ plain := plain.elim
  rereads _ plain := plain.elim

end Scalars

section Records

def nothing : RoundTrip Codec.nothing where
  tidy _ := True
  back _ _ := True
  readable _ _ := Iff.rfl
  rereads _ _ _ _ := trivial

/-- The element a record was read from is no field of it. -/
def etreeElement : RoundTrip Codec.etreeElement where
  tidy _ := True
  back _ _ := True
  readable _ _ := Iff.rfl
  rereads _ _ _ _ := trivial

def pair (first : RoundTrip c) (second : RoundTrip d) : RoundTrip (Codec.pair c d) where
  tidy value := first.tidy value.1 ∧ second.tidy value.2
  plain value := first.plain value.1 ∧ second.plain value.2
  filled value := first.filled value.1 ∧ second.filled value.2
  back value value' := first.back value.1 value'.1 ∧ second.back value.2 value'.2
  readable tidy plain := and_congr (first.readable tidy.1 plain.1) (second.readable tidy.2 plain.2)
  rereads tidy plain filled read :=
    ⟨first.rereads tidy.1 plain.1 filled.1 read.1, second.rereads tidy.2 plain.2 filled.2 read.2⟩

def record {γ : Type} {build : α → γ} {fields : γ → α} (trip : RoundTrip c) : RoundTrip (Codec.record c build fields) where
  tidy value := trip.tidy (fields value)
  plain value := trip.plain (fields value)
  filled value := trip.filled (fields value)
  back value value' := trip.back (fields value) (fields value')
  readable := trip.readable
  rereads := trip.rereads

/-- The other children come back as they are, and keep a record from being read
that would be taken for a field it does not write. -/
def withWildcard {choices : Option (List QName)} (trip : RoundTrip c) : RoundTrip (Codec.withWildcard choices c) where
  tidy value := trip.tidy value.1
  plain value := trip.plain value.1
  filled value := trip.filled value.1 ∧ ∀ node ∈ value.2, ∀ tag ∈ c.wants value.1, ¬ node.Tagged tag
  back value value' := trip.back value.1 value'.1 ∧ value'.2 = value.2
  readable tidy plain := and_congr (trip.readable tidy plain) Iff.rfl
  rereads tidy plain filled read := ⟨trip.rereads tidy plain filled.1 read.1, read.2⟩

end Records

end RoundTrip

end RoundTrips
