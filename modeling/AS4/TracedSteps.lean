import AS4.FallibleSteps

/-!
Stateful computations that note what they do. Beside its state a computation carries
the list of its events, which stay noted when it raises; what it computes is found
again by forgetting them.
-/

namespace TracedSteps
open FallibleSteps

universe u

variable {ε σ event α β : Type u}

abbrev Traced (ε σ event α : Type u) := EStateM ε (σ × List event) α

/-- A computation that notes nothing. -/
def silent (step : EStateM ε σ α) : Traced ε σ event α := fun traced =>
  match step traced.1 with
  | .ok value after => .ok value (after, traced.2)
  | .error raised after => .error raised (after, traced.2)

def note (happened : event) : Traced ε σ event PUnit := modify fun traced => (traced.1, traced.2 ++ [happened])

/-- The result of a computation without its events. -/
def forget : EStateM.Result ε (σ × List event) α → EStateM.Result ε σ α
  | .ok value traced => .ok value traced.1
  | .error raised traced => .error raised traced.1

def events : EStateM.Result ε (σ × List event) α → List event
  | .ok _ traced => traced.2
  | .error _ traced => traced.2

/-- Whatever was noted before, the traced computation does what the other one does. -/
def Traces (traced : Traced ε σ event α) (step : EStateM ε σ α) : Prop :=
  ∀ before noted, forget (traced (before, noted)) = step before

theorem traces_silent (step : EStateM ε σ α) : Traces (silent step : Traced ε σ event α) step := by
  intro before noted
  simp only [silent]
  cases step before <;> rfl

theorem traces_bind {traced : Traced ε σ event α} {step : EStateM ε σ α} {tracedNext : α → Traced ε σ event β}
    {next : α → EStateM ε σ β} (first : Traces traced step) (onward : ∀ value, Traces (tracedNext value) (next value)) :
    Traces (traced >>= tracedNext) (step >>= next) := by
  intro before noted
  have same := first before noted
  simp only [bind, EStateM.bind]
  cases ran : traced (before, noted) with
  | ok value after =>
      rw [ran] at same
      rw [← same]
      exact onward value after.1 after.2
  | error raised after =>
      rw [ran] at same
      rw [← same]
      rfl

theorem traces_note_bind {happened : event} {tracedNext : PUnit → Traced ε σ event β} {step : EStateM ε σ β}
    (onward : Traces (tracedNext ⟨⟩) step) : Traces (note happened >>= tracedNext) step :=
  fun before noted => onward before (noted ++ [happened])

theorem traces_adapt {traced : Traced ε σ event α} {step : EStateM ε σ α} {translate : ε → ε} (same : Traces traced step) :
    Traces (traced.adaptExcept translate) (step.adaptExcept translate) := by
  intro before noted
  rw [EStateM.adaptExcept, EStateM.adaptExcept, ← same before noted]
  cases traced (before, noted) <;> rfl

theorem silent_events (step : EStateM ε σ α) (before : σ) (noted : List event) :
    events (silent step (before, noted)) = noted := by
  simp only [silent]
  cases step before <;> rfl

theorem adapt_events {traced : Traced ε σ event α} {translate : ε → ε} {before : σ × List event} :
    events (traced.adaptExcept translate before) = events (traced before) := by
  simp only [EStateM.adaptExcept]
  cases traced before <;> rfl

theorem silent_bind_ok {step : EStateM ε σ α} {next : α → Traced ε σ event β} {before after : σ} {noted : List event}
    {value : α} (returned : step before = .ok value after) :
    (silent step >>= next) (before, noted) = next value (after, noted) := by
  simp only [bind, EStateM.bind, silent, returned]

theorem silent_bind_error {step : EStateM ε σ α} {next : α → Traced ε σ event β} {before after : σ} {noted : List event}
    {raised : ε} (stopped : step before = .error raised after) :
    (silent step >>= next) (before, noted) = .error raised (after, noted) := by
  simp only [bind, EStateM.bind, silent, stopped]

end TracedSteps
