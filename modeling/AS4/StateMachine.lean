import Mathlib

/-!
Finite runs of a deterministic state machine, and what holds along them: an
invariant of every step holds of every run, and an invariant of the steps that
meet a condition holds of every run whose steps all meet it. What is seen at the end
of a run came in at one of its steps.
-/

namespace StateMachine

universe u v w
variable {State : Type u} {Event : Type v}

def run (step : Event → State → State) : State → List Event → State
  | state, [] => state
  | state, event :: rest => run step (step event state) rest

/-- Every event of the run is taken in a state that allows it. -/
def Guarded (step : Event → State → State) (allowed : Event → State → Prop) : State → List Event → Prop
  | _, [] => True
  | state, event :: rest => allowed event state ∧ Guarded step allowed (step event state) rest

variable {step : Event → State → State}

theorem guarded_append {allowed : Event → State → Prop} {start : State} {first second : List Event} :
    Guarded step allowed start (first ++ second) ↔
      Guarded step allowed start first ∧ Guarded step allowed (run step start first) second := by
  induction first generalizing start with
  | nil => simp [Guarded, run]
  | cons event rest ih => simp only [List.cons_append, Guarded, run, ih, and_assoc]

theorem guarded_invariant {allowed : Event → State → Prop} {invariant : State → Prop}
    (preserved : ∀ event state, allowed event state → invariant state → invariant (step event state))
    {start : State} {events : List Event} (guarded : Guarded step allowed start events) (initial : invariant start) :
    invariant (run step start events) := by
  induction events generalizing start with
  | nil => exact initial
  | cons event rest ih => exact ih guarded.2 (preserved event start guarded.1 initial)

theorem run_invariant {invariant : State → Prop}
    (preserved : ∀ event state, invariant state → invariant (step event state))
    {start : State} (events : List Event) (initial : invariant start) : invariant (run step start events) := by
  induction events generalizing start with
  | nil => exact initial
  | cons event rest ih => exact ih (preserved event start initial)

/-- What a run ends up showing, it showed from the start, or one of its steps made it. -/
theorem run_source {Shown : Type w} {shows : State → Shown → Prop} {makes : Event → State → Shown → Prop}
    (made : ∀ event state value, shows (step event state) value → shows state value ∨ makes event state value)
    {start : State} {events : List Event} {value : Shown} (shown : shows (run step start events) value) :
    shows start value ∨ ∃ earlier event later, events = earlier ++ event :: later ∧
      makes event (run step start earlier) value := by
  induction events generalizing start with
  | nil => exact .inl shown
  | cons event rest ih =>
      rcases ih shown with already | ⟨earlier, other, later, rfl, here⟩
      · rcases made event start value already with before | now
        · exact .inl before
        · exact .inr ⟨[], event, rest, rfl, now⟩
      · exact .inr ⟨event :: earlier, other, later, rfl, here⟩

/-- A guarded run is guarded up to each of its points. -/
theorem guarded_initial {allowed : Event → State → Prop} {start : State} {first events : List Event}
    (initial : first <+: events) (guarded : Guarded step allowed start events) : Guarded step allowed start first := by
  obtain ⟨rest, rfl⟩ := initial
  exact (guarded_append.mp guarded).1

/-- Where breaking the condition breaks the invariant, the invariant holds at every
point of just the runs whose steps all meet the condition. -/
theorem guarded_iff {allowed : Event → State → Prop} {invariant : State → Prop}
    (decides : ∀ event state, invariant state → (invariant (step event state) ↔ allowed event state))
    {start : State} {events : List Event} (initial : invariant start) :
    (∀ first, first <+: events → invariant (run step start first)) ↔ Guarded step allowed start events := by
  constructor
  · intro throughout
    induction events generalizing start with
    | nil => trivial
    | cons event rest ih =>
        have next : invariant (step event start) := throughout [event] (by simp)
        refine ⟨(decides event start initial).mp next, ih next fun first reached => ?_⟩
        exact throughout (event :: first) (by simpa using reached)
  · intro guarded first reached
    exact guarded_invariant (fun event state allows holds => (decides event state holds).mpr allows)
      (guarded_initial reached guarded) initial

end StateMachine
