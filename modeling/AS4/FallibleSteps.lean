import Mathlib

/-!
Inversion rules for computations that may raise: what a run of `Except`, of a
loop over a list, or of a stateful computation that keeps its state when it
raises (`EStateM`) must have done to end the way it did.
-/

namespace FallibleSteps

universe u v w

section Single
variable {ε : Type u} {α β : Type v}

theorem bind_ok {first : Except ε α} {next : α → Except ε β} {result : β} :
    (first >>= next) = .ok result ↔ ∃ middle, first = .ok middle ∧ next middle = .ok result := by
  cases first with
  | error raised => simp [bind, Except.bind]
  | ok middle => simp [bind, Except.bind]

theorem bind_error {first : Except ε α} {next : α → Except ε β} {raised : ε} :
    (first >>= next) = .error raised ↔
      first = .error raised ∨ ∃ middle, first = .ok middle ∧ next middle = .error raised := by
  cases first with
  | error other => simp [bind, Except.bind]
  | ok middle => simp [bind, Except.bind]

theorem map_ok {first : Except ε α} {transform : α → β} {result : β} :
    (first.map transform) = .ok result ↔ ∃ middle, first = .ok middle ∧ transform middle = result := by
  cases first <;> simp [Except.map]

theorem mapError_ok {ε' : Type w} {first : Except ε α} {translate : ε → ε'} {result : α} :
    first.mapError translate = .ok result ↔ first = .ok result := by
  cases first <;> simp [Except.mapError]

theorem mapError_error {ε' : Type w} {first : Except ε α} {translate : ε → ε'} {raised : ε'} :
    first.mapError translate = .error raised ↔ ∃ inner, first = .error inner ∧ translate inner = raised := by
  cases first <;> simp [Except.mapError]

@[simp] theorem pure_ok {result value : α} : (pure value : Except ε α) = .ok result ↔ value = result := by
  simp [pure, Except.pure]

@[simp] theorem pure_error {value : α} {raised : ε} : (pure value : Except ε α) ≠ .error raised := by
  simp [pure, Except.pure]

@[simp] theorem throw_error {raised other : ε} :
    (throw raised : Except ε α) = .error other ↔ raised = other := by
  simp [throw, throwThe, MonadExceptOf.throw]

@[simp] theorem throw_ok {raised : ε} {result : α} : (throw raised : Except ε α) ≠ .ok result := by
  simp [throw, throwThe, MonadExceptOf.throw]

end Single

section Loops
variable {ε : Type u} {α β : Type v}

/-- Runs a check on every member in order and stops at the first that raises. -/
def each (check : α → Except ε Unit) : List α → Except ε Unit
  | [] => .ok ()
  | item :: rest => (check item).bind fun _ => each check rest

theorem each_ok {check : α → Except ε Unit} {items : List α} :
    each check items = .ok () ↔ ∀ item ∈ items, check item = .ok () := by
  induction items with
  | nil => simp [each]
  | cons item rest ih =>
      cases checked : check item with
      | error raised => simp [each, checked, Except.bind]
      | ok done => simp [each, checked, Except.bind, ih]

theorem each_error {check : α → Except ε Unit} {items : List α} {raised : ε} :
    each check items = .error raised ↔
      ∃ before item after, items = before ++ item :: after ∧
        (∀ earlier ∈ before, check earlier = .ok ()) ∧ check item = .error raised := by
  induction items with
  | nil => simp [each]
  | cons item rest ih =>
      cases checked : check item with
      | error other =>
          simp only [each, checked, Except.bind, Except.error.injEq]
          constructor
          · rintro rfl
            exact ⟨[], item, rest, rfl, by simp, checked⟩
          · rintro ⟨before, failing, after, split, passed, raises⟩
            cases before with
            | nil =>
                obtain ⟨rfl, rfl⟩ := List.cons.inj split
                exact Except.error.inj (checked.symm.trans raises)
            | cons head tail =>
                obtain ⟨rfl, rfl⟩ := List.cons.inj split
                have passes := passed item List.mem_cons_self
                simp [checked] at passes
      | ok done =>
          simp only [each, checked, Except.bind, ih]
          constructor
          · rintro ⟨before, failing, after, rfl, passed, raises⟩
            refine ⟨item :: before, failing, after, rfl, ?_, raises⟩
            intro earlier member
            rcases List.mem_cons.mp member with rfl | later
            · exact checked
            · exact passed earlier later
          · rintro ⟨before, failing, after, split, passed, raises⟩
            cases before with
            | nil =>
                obtain ⟨rfl, rfl⟩ := List.cons.inj split
                simp [checked] at raises
            | cons head tail =>
                obtain ⟨rfl, rfl⟩ := List.cons.inj split
                exact ⟨tail, failing, after, rfl,
                  fun earlier member => passed earlier (List.mem_cons_of_mem _ member), raises⟩

/-- Reads every member in order, telling each reader its position. -/
def readFrom (read : Nat → α → Except ε β) : Nat → List α → Except ε (List β)
  | _, [] => .ok []
  | index, item :: rest => do
      let value ← read index item
      let values ← readFrom read (index + 1) rest
      return value :: values

/-- When the position only decorates what is raised, a successful reading is a
member by member correspondence. -/
theorem readFrom_forall₂ {read : Nat → α → Except ε β} {good : α → β → Prop}
    (sound : ∀ index item value, read index item = .ok value → good item value)
    {index : Nat} {items : List α} {values : List β}
    (succeeded : readFrom read index items = .ok values) : List.Forall₂ good items values := by
  induction items generalizing index values with
  | nil =>
      obtain rfl : values = [] := by simpa [readFrom] using succeeded.symm
      exact .nil
  | cons item rest ih =>
      simp only [readFrom, bind_ok, pure_ok] at succeeded
      obtain ⟨value, first, others, tail, rfl⟩ := succeeded
      exact .cons (sound _ _ _ first) (ih tail)

theorem readFrom_of_forall₂ {read : Nat → α → Except ε β} {good : α → β → Prop}
    (complete : ∀ index item value, good item value → read index item = .ok value)
    {items : List α} {values : List β} (each : List.Forall₂ good items values) (index : Nat) :
    readFrom read index items = .ok values := by
  induction each generalizing index with
  | nil => rfl
  | cons first _ ih =>
      simp only [readFrom, bind_ok, pure_ok]
      exact ⟨_, complete _ _ _ first, _, ih _, rfl⟩

/-- Every value read was read from some item. -/
theorem forall₂_source {good : α → β → Prop} {items : List α} {values : List β}
    (each : List.Forall₂ good items values) {value : β} (member : value ∈ values) :
    ∃ item ∈ items, good item value := by
  induction each with
  | nil => simp at member
  | cons first _ ih =>
      rcases List.mem_cons.mp member with rfl | later
      · exact ⟨_, List.mem_cons_self, first⟩
      · obtain ⟨item, inRest, matched⟩ := ih later
        exact ⟨item, List.mem_cons_of_mem _ inRest, matched⟩

/-- Related lists look the same through a view that related values agree in. -/
theorem forall₂_map_eq {γ : Type w} {related : α → β → Prop} {before : List α} {after : List β}
    (each : List.Forall₂ related before after) {view : α → γ} {view' : β → γ}
    (same : ∀ old new, related old new → view' new = view old) : after.map view' = before.map view := by
  induction each with
  | nil => rfl
  | cons first _ ih => simp [same _ _ first, ih]

theorem forall₂_both {related related' : α → β → Prop} {before : List α} {after : List β}
    (first : List.Forall₂ related before after) (second : List.Forall₂ related' before after) :
    List.Forall₂ (fun old new => related old new ∧ related' old new) before after := by
  induction first with
  | nil => exact .nil
  | cons one _ ih =>
      obtain ⟨other, others⟩ := List.forall₂_cons.mp second
      exact .cons ⟨one, other⟩ (ih others)

/-- More can be said of related values when it follows from where they are. -/
theorem forall₂_inside {related related' : α → β → Prop} {before : List α} {after : List β}
    (each : List.Forall₂ related before after)
    (step : ∀ old ∈ before, ∀ new ∈ after, related old new → related' old new) :
    List.Forall₂ related' before after := by
  induction each with
  | nil => exact .nil
  | cons one _ ih =>
      refine .cons (step _ List.mem_cons_self _ List.mem_cons_self one) (ih fun old member new member' => ?_)
      exact step old (List.mem_cons_of_mem _ member) new (List.mem_cons_of_mem _ member')

/-- The first values that fit are related. -/
theorem forall₂_find {related : α → β → Prop} {fits : α → Bool} {fits' : β → Bool} {before : List α} {after : List β}
    (each : List.Forall₂ related before after) (same : ∀ old new, related old new → fits old = fits' new) :
    Option.Rel related (before.find? fits) (after.find? fits') := by
  induction each with
  | nil => exact .none
  | @cons old new _ _ one _ ih =>
      rw [List.find?_cons, List.find?_cons, same _ _ one]
      cases fits' new with
      | true => exact .some one
      | false => exact ih

/-- A check passed by every value is passed by every value related to one. -/
theorem each_related {check : α → Except ε Unit} {check' : β → Except ε Unit} {related : α → β → Prop}
    {before : List α} {after : List β} (likes : List.Forall₂ related before after)
    (step : ∀ old new, related old new → check old = .ok () → check' new = .ok ())
    (all : each check before = .ok ()) : each check' after = .ok () := by
  rw [each_ok] at all ⊢
  intro new member
  obtain ⟨old, inside, one⟩ := forall₂_source likes member
  exact step old new one (all old inside)

end Loops

section Raising
variable {ε : Type u} {α β : Type v} {allowed : ε → Prop}

/-- Whatever a step raises is of a kind that is allowed. -/
def OnlyRaises (allowed : ε → Prop) (step : Except ε α) : Prop := ∀ raised, step = .error raised → allowed raised

@[simp] theorem onlyRaises_ok {value : α} : OnlyRaises allowed (.ok value) := by simp [OnlyRaises]

@[simp] theorem onlyRaises_pure {value : α} : OnlyRaises allowed (pure value : Except ε α) := by simp [OnlyRaises]

@[simp] theorem onlyRaises_error {raised : ε} : OnlyRaises allowed (.error raised : Except ε α) ↔ allowed raised := by
  simp [OnlyRaises]

theorem onlyRaises_bind {first : Except ε α} {next : α → Except ε β} :
    OnlyRaises allowed (first >>= next) ↔
      OnlyRaises allowed first ∧ ∀ value, first = .ok value → OnlyRaises allowed (next value) := by
  cases first with
  | error raised => simp [OnlyRaises, bind, Except.bind]
  | ok value => simp [OnlyRaises, bind, Except.bind]

theorem onlyRaises_mapError {ε' : Type w} {first : Except ε α} {translate : ε → ε'} {allowed : ε' → Prop} :
    OnlyRaises allowed (first.mapError translate) ↔ OnlyRaises (fun raised => allowed (translate raised)) first := by
  cases first <;> simp [OnlyRaises, Except.mapError]

/-- A loop of checks gets to each member whose predecessors all passed. -/
theorem onlyRaises_each {check : α → Except ε Unit} {items : List α} :
    OnlyRaises allowed (each check items) ↔ ∀ front item back, items = front ++ item :: back →
      (∀ earlier ∈ front, check earlier = .ok ()) → OnlyRaises allowed (check item) := by
  simp only [OnlyRaises, each_error]
  constructor
  · intro only front item back split passed raised failed
    exact only raised ⟨front, item, back, split, passed, failed⟩
  · rintro only raised ⟨front, item, back, split, passed, failed⟩
    exact only front item back split passed raised failed

end Raising

section Stateful
variable {ε σ α β : Type u}

theorem state_bind_ok {first : EStateM ε σ α} {next : α → EStateM ε σ β} {before after : σ} {result : β} :
    (first >>= next) before = .ok result after ↔
      ∃ middle between, first before = .ok middle between ∧ next middle between = .ok result after := by
  simp only [bind, EStateM.bind]
  cases first before <;> simp

/-- A computation that does not touch the state, run inside one that has it. -/
def lift (step : Except ε α) : EStateM ε σ α := fun state =>
  match step with
  | .ok value => .ok value state
  | .error raised => .error raised state

@[simp] theorem lift_ok {step : Except ε α} {before after : σ} {result : α} :
    lift step before = .ok result after ↔ step = .ok result ∧ before = after := by
  cases step <;> simp [lift]

@[simp] theorem lift_error {step : Except ε α} {before after : σ} {raised : ε} :
    lift step before = .error raised after ↔ step = .error raised ∧ before = after := by
  cases step <;> simp [lift]

@[simp] theorem state_modify_ok {update : σ → σ} {before after : σ} {result : PUnit} :
    (modify update : EStateM ε σ PUnit) before = .ok result after ↔ update before = after := by
  simp [modify, modifyGet, MonadStateOf.modifyGet, EStateM.modifyGet]

@[simp] theorem state_modify_error {update : σ → σ} {before after : σ} {raised : ε} :
    (modify update : EStateM ε σ PUnit) before ≠ .error raised after := by
  simp [modify, modifyGet, MonadStateOf.modifyGet, EStateM.modifyGet]

@[simp] theorem state_pure_ok {value result : α} {before after : σ} :
    (pure value : EStateM ε σ α) before = .ok result after ↔ value = result ∧ before = after := by
  simp [pure, EStateM.pure]

@[simp] theorem state_pure_error {value : α} {before after : σ} {raised : ε} :
    (pure value : EStateM ε σ α) before ≠ .error raised after := by
  simp [pure, EStateM.pure]

theorem state_get_ok {before after result : σ} :
    (get : EStateM ε σ σ) before = .ok result after ↔ before = result ∧ before = after := by
  simp [get, getThe, MonadStateOf.get, EStateM.get]

@[simp] theorem state_get_error {before after : σ} {raised : ε} :
    (get : EStateM ε σ σ) before ≠ .error raised after := by
  simp [get, getThe, MonadStateOf.get, EStateM.get]

theorem state_adapt_ok {first : EStateM ε σ α} {translate : ε → ε} {before after : σ} {result : α} :
    first.adaptExcept translate before = .ok result after ↔ first before = .ok result after := by
  simp only [EStateM.adaptExcept]
  cases first before <;> simp

/-- What a computation leaves behind, returning or raising, has a property. -/
def Leaves (step : EStateM ε σ α) (before : σ) (holds : σ → Prop) : Prop :=
  match step before with
  | .ok _ after => holds after
  | .error _ after => holds after

theorem leaves_error {step : EStateM ε σ α} {before after : σ} {holds : σ → Prop} {raised : ε}
    (left : Leaves step before holds) (stopped : step before = .error raised after) : holds after := by
  simpa [Leaves, stopped] using left

theorem leaves_ok {step : EStateM ε σ α} {before after : σ} {holds : σ → Prop} {result : α}
    (left : Leaves step before holds) (returned : step before = .ok result after) : holds after := by
  simpa [Leaves, returned] using left

theorem leaves_pure {value : α} {before : σ} {holds : σ → Prop} (here : holds before) :
    Leaves (pure value : EStateM ε σ α) before holds := here

theorem leaves_lift {step : Except ε α} {before : σ} {holds : σ → Prop} (here : holds before) :
    Leaves (lift step) before holds := by
  cases step <;> exact here

/-- A step that leaves the state alone may stop the computation. -/
theorem leaves_lift_bind {step : Except ε α} {next : α → EStateM ε σ β} {before : σ} {holds : σ → Prop}
    (here : holds before) (onward : ∀ value, step = .ok value → Leaves (next value) before holds) :
    Leaves (lift step >>= next) before holds := by
  cases step with
  | error raised => exact here
  | ok value => exact onward value rfl

theorem leaves_modify_bind {update : σ → σ} {next : PUnit → EStateM ε σ β} {before : σ} {holds : σ → Prop}
    (onward : Leaves (next ⟨⟩) (update before) holds) : Leaves (modify update >>= next) before holds := onward

theorem leaves_get_bind {next : σ → EStateM ε σ β} {before : σ} {holds : σ → Prop}
    (onward : Leaves (next before) before holds) : Leaves (get >>= next) before holds := onward

/-- After a computation that keeps to one property, another may rely on it. -/
theorem leaves_bind {first : EStateM ε σ α} {next : α → EStateM ε σ β} {before : σ} {holds : σ → Prop}
    (stopped : ∀ raised after, first before = .error raised after → holds after)
    (onward : ∀ value after, first before = .ok value after → Leaves (next value) after holds) :
    Leaves (first >>= next) before holds := by
  simp only [Leaves, bind, EStateM.bind]
  cases ran : first before with
  | ok value after => exact onward value after ran
  | error raised after => exact stopped raised after ran

theorem leaves_adapt {step : EStateM ε σ α} {translate : ε → ε} {before : σ} {holds : σ → Prop}
    (left : Leaves step before holds) : Leaves (step.adaptExcept translate) before holds := by
  simp only [Leaves, EStateM.adaptExcept] at left ⊢
  cases ran : step before <;> simpa [ran] using left

/-- Whatever a computation raises from a state is of a kind that is allowed. -/
def StopsWith (allowed : ε → Prop) (step : EStateM ε σ α) (before : σ) : Prop :=
  ∀ raised after, step before = .error raised after → allowed raised

theorem stopsWith_pure {allowed : ε → Prop} {value : α} {before : σ} :
    StopsWith allowed (pure value : EStateM ε σ α) before := by
  simp [StopsWith]

theorem stopsWith_lift {allowed : ε → Prop} {step : Except ε α} {before : σ} :
    StopsWith allowed (lift step) before ↔ OnlyRaises allowed step := by
  simp [StopsWith, OnlyRaises]

theorem stopsWith_bind {allowed : ε → Prop} {first : EStateM ε σ α} {next : α → EStateM ε σ β} {before : σ} :
    StopsWith allowed (first >>= next) before ↔ StopsWith allowed first before ∧
      ∀ value between, first before = .ok value between → StopsWith allowed (next value) between := by
  simp only [StopsWith, bind, EStateM.bind]
  cases first before <;> simp

theorem stopsWith_lift_bind {allowed : ε → Prop} {step : Except ε α} {next : α → EStateM ε σ β} {before : σ} :
    StopsWith allowed (lift step >>= next) before ↔
      OnlyRaises allowed step ∧ ∀ value, step = .ok value → StopsWith allowed (next value) before := by
  rw [stopsWith_bind, stopsWith_lift]
  simp only [lift_ok, and_imp]
  exact and_congr_right' ⟨fun onward value passed => onward value before passed rfl,
    fun onward value between passed same => same ▸ onward value passed⟩

theorem stopsWith_modify_bind {allowed : ε → Prop} {update : σ → σ} {next : PUnit → EStateM ε σ β} {before : σ} :
    StopsWith allowed (modify update >>= next) before ↔ StopsWith allowed (next ⟨⟩) (update before) := Iff.rfl

theorem stopsWith_get_bind {allowed : ε → Prop} {next : σ → EStateM ε σ β} {before : σ} :
    StopsWith allowed (get >>= next) before ↔ StopsWith allowed (next before) before := Iff.rfl

theorem stopsWith_adapt {allowed : ε → Prop} {step : EStateM ε σ α} {translate : ε → ε} {before : σ} :
    StopsWith allowed (step.adaptExcept translate) before ↔
      StopsWith (fun raised => allowed (translate raised)) step before := by
  simp only [StopsWith, EStateM.adaptExcept]
  cases step before <;> simp

/-- Where the strict computation returns, the lax one returns the same. -/
def Extends (lax strict : EStateM ε σ α) : Prop :=
  ∀ before value after, strict before = .ok value after → lax before = .ok value after

theorem extends_refl (step : EStateM ε σ α) : Extends step step := fun _ _ _ returned => returned

theorem extends_lift {lax strict : Except ε α} (returns : ∀ value, strict = .ok value → lax = .ok value) :
    Extends (lift lax : EStateM ε σ α) (lift strict) := by
  intro before value after returned
  obtain ⟨passed, same⟩ := lift_ok.mp returned
  exact lift_ok.mpr ⟨returns value passed, same⟩

theorem extends_bind {lax strict : EStateM ε σ α} {laxNext strictNext : α → EStateM ε σ β}
    (first : Extends lax strict) (next : ∀ value, Extends (laxNext value) (strictNext value)) :
    Extends (lax >>= laxNext) (strict >>= strictNext) := by
  intro before result after returned
  obtain ⟨value, between, passed, remaining⟩ := state_bind_ok.mp returned
  exact state_bind_ok.mpr ⟨value, between, first _ _ _ passed, next value _ _ _ remaining⟩

theorem extends_adapt {lax strict : EStateM ε σ α} {translate : ε → ε} (returns : Extends lax strict) :
    Extends (lax.adaptExcept translate) (strict.adaptExcept translate) := by
  intro before value after returned
  exact state_adapt_ok.mpr (returns _ _ _ (state_adapt_ok.mp returned))

end Stateful

end FallibleSteps
