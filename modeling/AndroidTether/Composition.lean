import AndroidTether.Transition

/-!
# Components of a composed system

A system that is put together from several takes steps in which each of them
either takes a step of its own or stays where it is.  What is known of the
runs of a component is then known of the runs of the whole.
-/

/-- A component takes a step of its own, or it stays where it is. -/
inductive Moves {σ α : Type*} (step : σ → α → σ → Prop) (state : σ) :
    Option α → σ → Prop
  | stays : Moves step state none state
  | takes {label : α} {next : σ} (taken : step state label next) :
      Moves step state (some label) next

/-- A run goes on with a step of the component, if it takes one. -/
theorem Moves.snoc {σ α : Type*} {step : σ → α → σ → Prop}
    {start state next : σ} {trace : List α} {label : Option α}
    (moves : Moves step state label next) (run : Run step start trace state) :
    Run step start (trace ++ label.toList) next := by
  cases moves with
  | stays =>
      rw [Option.toList_none, List.append_nil]
      exact run
  | takes taken => exact run.snoc taken

theorem Moves.isStep {σ α : Type*} {step : σ → α → σ → Prop}
    {state next : σ} {label : α} (moves : Moves step state (some label) next) :
    step state label next := by
  cases moves with
  | takes taken => exact taken

theorem Moves.reflects {σ α : Type*} {step : σ → α → σ → Prop}
    {state next : σ} {label : Option α} {holds : σ → Prop}
    (moves : Moves step state label next)
    (reflected : ∀ {label next}, step state label next → holds next →
      holds state) (after : holds next) : holds state := by
  cases moves with
  | stays => exact after
  | takes taken => exact reflected taken after

/-- The step is recorded, if there is one. -/
theorem Moves.recorded {σ α : Type*} {step : σ → α → σ → Prop}
    {state next : σ} {label : Option α} (moves : Moves step state label next) :
    Moves (Recorded step) state
      (label.map fun label => ⟨state, label, next⟩) next := by
  cases moves with
  | stays => exact .stays
  | takes taken => exact .takes ⟨taken⟩

theorem exists_of_filterMap_eq {α β : Type*} {label : α → Option β}
    {events : List α} {earlier later : List β} {shown : β}
    (splitEq : events.filterMap label = earlier ++ shown :: later) :
    ∃ front event behind, events = front ++ event :: behind ∧
      label event = some shown ∧ front.filterMap label = earlier ∧
      behind.filterMap label = later := by
  obtain ⟨front, rest, rfl, frontEq, restEq⟩ :=
    List.filterMap_eq_append_iff.mp splitEq
  obtain ⟨silent, event, behind, rfl, noLabel, isShown, behindEq⟩ :=
    List.filterMap_eq_cons_iff.mp restEq
  refine ⟨front ++ silent, event, behind, by simp, isShown, ?_, behindEq⟩
  rw [List.filterMap_append, List.filterMap_eq_nil_iff.mpr noLabel,
    List.append_nil, frontEq]

/-- How a component is seen in the states and labels of the whole. -/
structure ComponentOf {σ α τ β : Type*} (whole : σ → α → σ → Prop)
    (part : τ → β → τ → Prop) where
  view : σ → τ
  label : α → Option β
  moves : ∀ {state event next}, whole state event next →
    Moves part (view state) (label event) (view next)

namespace ComponentOf

variable {σ α τ β : Type*} {whole : σ → α → σ → Prop}
  {part : τ → β → τ → Prop} (component : ComponentOf whole part)

/-- The labels of the component in a trace of the whole. -/
def trace (events : List α) : List β :=
  events.filterMap component.label

/-- The step of the component in a step of the whole. -/
def taken (step : Taken σ α) : Option (Taken τ β) :=
  (component.label step.label).map fun label =>
    ⟨component.view step.before, label, component.view step.after⟩

/-- The steps of the component in a history of the whole. -/
def history (steps : List (Taken σ α)) : List (Taken τ β) :=
  steps.filterMap component.taken

theorem trace_concat (events : List α) (event : α) :
    component.trace (events ++ [event]) =
      component.trace events ++ (component.label event).toList := by
  rw [trace, List.filterMap_append]
  cases label : component.label event <;> simp [trace, label]

theorem history_concat (steps : List (Taken σ α)) (step : Taken σ α) :
    component.history (steps ++ [step]) =
      component.history steps ++ (component.taken step).toList := by
  rw [history, List.filterMap_append]
  cases taken : component.taken step <;> simp [history, taken]

variable {start final : σ}

/-- A run of the whole is a run of each of its components. -/
theorem run {events : List α} (run : Run whole start events final) :
    Run part (component.view start) (component.trace events)
      (component.view final) := by
  induction run with
  | nil => exact .nil
  | snoc run taken ih =>
      rw [component.trace_concat]
      exact (component.moves taken).snoc ih

/-- The same with the states on the way. -/
theorem recorded {steps : List (Taken σ α)}
    (run : Run (Recorded whole) start steps final) :
    Run (Recorded part) (component.view start) (component.history steps)
      (component.view final) := by
  induction run with
  | nil => exact .nil
  | snoc run recorded ih =>
      obtain ⟨isStep⟩ := recorded
      rw [component.history_concat]
      exact (component.moves isStep).recorded.snoc ih

end ComponentOf

/-- A run of the whole is a run of a part, if each step that is reached is a
move of the part. -/
theorem Run.part {σ α τ β : Type*} {whole : σ → α → σ → Prop}
    {part : τ → β → τ → Prop} {start final : σ} {events : List α}
    (view : σ → τ) (label : α → Option β)
    (moves : ∀ {events state event next}, Run whole start events state →
      whole state event next →
      Moves part (view state) (label event) (view next))
    (run : Run whole start events final) :
    Run part (view start) (events.filterMap label) (view final) := by
  induction run with
  | nil => exact .nil
  | @snoc events state next event run taken ih =>
      have later := (moves run taken).snoc ih
      rw [List.filterMap_append]
      cases labelled : label event <;> simpa [labelled] using later
