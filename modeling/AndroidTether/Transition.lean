import Mathlib.Data.List.Induction

/-!
# Runs of labelled transition systems

Finite runs of a step relation with the list of labels they emit, and the two
rules by which facts about runs are proved: an invariant of the state, and an
invariant that ties the state to the labels emitted so far.
-/

/-- The states that a step relation reaches from `start`, with the labels on
the way in order. -/
inductive Run {σ α : Type*} (step : σ → α → σ → Prop) (start : σ) :
    List α → σ → Prop
  | nil : Run step start [] start
  | snoc {trace : List α} {state next : σ} {label : α}
      (run : Run step start trace state) (taken : step state label next) :
      Run step start (trace ++ [label]) next

namespace Run

variable {σ α : Type*} {step : σ → α → σ → Prop} {start final : σ}
  {trace : List α}

/-- What holds at the start and is kept by every step holds at the end. -/
theorem invariant {holds : σ → Prop} (run : Run step start trace final)
    (initial : holds start)
    (preserved : ∀ {state label next}, holds state →
      step state label next → holds next) :
    holds final := by
  induction run with
  | nil => exact initial
  | snoc run taken ih => exact preserved ih taken

/-- The same for a property of the state and of the labels so far. -/
theorem history {holds : List α → σ → Prop} (run : Run step start trace final)
    (initial : holds [] start)
    (preserved : ∀ {trace state label next}, holds trace state →
      step state label next → holds (trace ++ [label]) next) :
    holds trace final := by
  induction run with
  | nil => exact initial
  | snoc run taken ih => exact preserved ih taken

/-- A run that emits a label somewhere reaches the step that emits it and goes
on from there. -/
theorem split {earlier later : List α} {label : α}
    (run : Run step start (earlier ++ label :: later) final) :
    ∃ state next, Run step start earlier state ∧ step state label next ∧
      Run step next later final := by
  induction later using List.reverseRecOn generalizing final with
  | nil =>
      obtain ⟨whole, wholeEq⟩ : ∃ whole, whole = earlier ++ [label] := ⟨_, rfl⟩
      rw [← wholeEq] at run
      cases run with
      | nil => simp at wholeEq
      | snoc run taken =>
          obtain ⟨rfl, labelEq⟩ := List.append_inj' wholeEq rfl
          cases labelEq
          exact ⟨_, _, run, taken, nil⟩
  | append_singleton later last ih =>
      obtain ⟨whole, wholeEq⟩ : ∃ whole,
          whole = earlier ++ label :: (later ++ [last]) := ⟨_, rfl⟩
      rw [← wholeEq] at run
      cases run with
      | nil => simp at wholeEq
      | snoc run lastTaken =>
          rw [← List.cons_append, ← List.append_assoc] at wholeEq
          obtain ⟨rfl, lastEq⟩ := List.append_inj' wholeEq rfl
          cases lastEq
          obtain ⟨state, next, before, taken, after⟩ := ih run
          exact ⟨state, next, before, taken, after.snoc lastTaken⟩

theorem single {label : α} (taken : step start label final) :
    Run step start [label] final :=
  nil.snoc taken

theorem trans {mid : σ} {later : List α} (run : Run step start trace mid)
    (rest : Run step mid later final) :
    Run step start (trace ++ later) final := by
  induction rest with
  | nil =>
      rw [List.append_nil]
      exact run
  | snoc rest taken ih =>
      rw [← List.append_assoc]
      exact ih.snoc taken

end Run

/-- If an unfinished thread that cannot move waits for another unfinished one,
and nothing waits in a circle, then some unfinished thread can move. -/
theorem exists_enabled_of_waitsFor {ι : Type*} {finished enabled : ι → Prop}
    {waitsFor : ι → ι → Prop}
    (wellFounded : WellFounded fun first second => waitsFor second first)
    (moves : ∀ thread, ¬ finished thread →
      enabled thread ∨ ∃ other, waitsFor thread other ∧ ¬ finished other)
    {thread : ι} (unfinished : ¬ finished thread) :
    ∃ other, ¬ finished other ∧ enabled other := by
  induction thread using wellFounded.induction with
  | _ thread ih =>
      rcases moves thread unfinished with canMove | ⟨other, waits, otherLeft⟩
      · exact ⟨thread, unfinished, canMove⟩
      · exact ih other waits otherLeft

/-- One step of a run, with the states on its two sides. -/
structure Taken (σ α : Type*) where
  before : σ
  label : α
  after : σ

/-- The steps of a relation, labelled with everything that is known of
them. -/
inductive Recorded {σ α : Type*} (step : σ → α → σ → Prop) :
    σ → Taken σ α → σ → Prop
  | mk {state next : σ} {label : α} (taken : step state label next) :
      Recorded step state ⟨state, label, next⟩ next

namespace Recorded

variable {σ α : Type*} {step : σ → α → σ → Prop} {start final : σ}
  {history : List (Taken σ α)}

theorem forget (run : Run (Recorded step) start history final) :
    Run step start (history.map Taken.label) final := by
  induction run with
  | nil => exact .nil
  | snoc run recorded ih =>
      obtain ⟨taken⟩ := recorded
      rw [List.map_append]
      exact ih.snoc taken

/-- Every run can be recorded. -/
theorem of_run {trace : List α} (run : Run step start trace final) :
    ∃ history, Run (Recorded step) start history final ∧
      history.map Taken.label = trace := by
  induction run with
  | nil => exact ⟨[], .nil, rfl⟩
  | snoc run taken ih =>
      obtain ⟨history, recorded, labels⟩ := ih
      exact ⟨_, recorded.snoc ⟨taken⟩, by rw [List.map_append, labels]; rfl⟩

theorem step_of_mem (run : Run (Recorded step) start history final)
    {taken : Taken σ α} (member : taken ∈ history) :
    step taken.before taken.label taken.after := by
  induction run with
  | nil => cases member
  | snoc run recorded ih =>
      obtain ⟨isStep⟩ := recorded
      rcases List.mem_append.mp member with earlier | isLast
      · exact ih earlier
      · cases List.mem_singleton.mp isLast
        exact isStep

end Recorded
