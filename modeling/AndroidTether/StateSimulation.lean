import Mathlib.Data.List.Basic

/-!
# Simulation of stateful programs

Two programs over different states simulate one another when they produce the
same outcome and keep their states related.  The rules follow the program
text: a value, a bind and a loop over a list.
-/

namespace EStateM

/-- The same outcome, in related states. -/
inductive Related {ε σ τ α : Type} (rel : σ → τ → Prop) :
    Result ε σ α → Result ε τ α → Prop
  | ok {state : σ} {modelState : τ} (value : α)
      (related : rel state modelState) :
      Related rel (.ok value state) (.ok value modelState)
  | error {state : σ} {modelState : τ} (stop : ε)
      (related : rel state modelState) :
      Related rel (.error stop state) (.error stop modelState)

/-- From related states the program does what its model does. -/
def Simulates {ε σ τ α : Type} (rel : σ → τ → Prop)
    (program : EStateM ε σ α) (model : EStateM ε τ α) : Prop :=
  ∀ ⦃state modelState⦄, rel state modelState →
    Related rel (program state) (model modelState)

theorem bind_apply {ε σ α β : Type} (first : EStateM ε σ α)
    (next : α → EStateM ε σ β) (state : σ) :
    (first >>= next) state =
      match first state with
      | .ok value after => next value after
      | .error stop after => .error stop after :=
  rfl

/-- The state in which a program ends, however it ends. -/
def Result.state {ε σ α : Type} : Result ε σ α → σ
  | .ok _ state => state
  | .error _ state => state

namespace Related

variable {ε σ τ α : Type} {rel : σ → τ → Prop} {result : Result ε σ α}

theorem state {modelResult : Result ε τ α}
    (related : Related rel result modelResult) :
    rel result.state modelResult.state := by
  cases related with
  | ok value related => exact related
  | error stop related => exact related

/-- Where the model ends well, so does the program. -/
theorem ends {value : α} {modelAfter : τ}
    (related : Related rel result (.ok value modelAfter)) :
    ∃ after, result = .ok value after ∧ rel after modelAfter := by
  cases related with
  | @ok after _ _ related => exact ⟨after, rfl, related⟩

end Related

namespace Simulates

variable {ε σ τ α β : Type} {rel : σ → τ → Prop}

theorem pure (value : α) :
    Simulates rel (Pure.pure value : EStateM ε σ α) (Pure.pure value) :=
  fun _ _ related => .ok value related

theorem bind {first : EStateM ε σ α} {next : α → EStateM ε σ β}
    {modelFirst : EStateM ε τ α} {modelNext : α → EStateM ε τ β}
    (begins : Simulates rel first modelFirst)
    (continues : ∀ value, Simulates rel (next value) (modelNext value)) :
    Simulates rel (first >>= next) (modelFirst >>= modelNext) := by
  intro state modelState related
  have afterFirst := begins related
  rw [bind_apply, bind_apply]
  generalize first state = result at afterFirst
  generalize modelFirst modelState = modelResult at afterFirst
  cases afterFirst with
  | ok value stillRelated => exact continues value stillRelated
  | error stop stillRelated => exact .error stop stillRelated

/-- A loop simulates the loop over the same items whose body it simulates. -/
theorem forM {items : List α} {body : α → EStateM ε σ PUnit}
    {modelBody : α → EStateM ε τ PUnit}
    (simulates : ∀ item ∈ items, Simulates rel (body item) (modelBody item)) :
    Simulates rel (ForM.forM items body) (ForM.forM items modelBody) := by
  induction items with
  | nil => exact pure _
  | cons item items ih =>
      rw [List.forM_cons, List.forM_cons]
      exact bind (simulates item List.mem_cons_self) fun _ =>
        ih fun later member => simulates later (List.mem_cons_of_mem item member)

end Simulates

end EStateM
