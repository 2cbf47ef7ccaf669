import Mathlib.Data.List.Basic

/-!
# The last assignment wins

A loop that overwrites a variable whenever an item assigns it leaves the
value of the last item that does, or the value from before the loop.
-/

/-- The last value that the items assign, or the one from before. -/
def lastAssigned {α β : Type*} (assigns : α → Option β) (initial : β)
    (items : List α) : β :=
  (items.filterMap assigns).getLast?.getD initial

section LastAssigned

variable {α β σ : Type*} {assigns : α → Option β}

theorem getLast?_filterMap_cons (item : α) (items : List α) :
    ((item :: items).filterMap assigns).getLast? =
      (items.filterMap assigns).getLast?.or (assigns item) := by
  cases assigned : assigns item with
  | none => rw [List.filterMap_cons_none assigned, Option.or_none]
  | some value =>
      rw [List.filterMap_cons_some assigned, List.getLast?_cons]
      cases (items.filterMap assigns).getLast? <;> rfl

@[simp]
theorem lastAssigned_nil (initial : β) :
    lastAssigned assigns initial [] = initial :=
  rfl

@[simp]
theorem lastAssigned_cons (initial : β) (item : α) (items : List α) :
    lastAssigned assigns initial (item :: items) =
      lastAssigned assigns ((assigns item).getD initial) items := by
  rw [lastAssigned, getLast?_filterMap_cons, lastAssigned]
  cases (items.filterMap assigns).getLast? <;> rfl

theorem lastAssigned_append (initial : β) (items later : List α) :
    lastAssigned assigns initial (items ++ later) =
      lastAssigned assigns (lastAssigned assigns initial items) later := by
  induction items generalizing initial with
  | nil => rfl
  | cons item items ih => rw [List.cons_append, lastAssigned_cons, ih,
      lastAssigned_cons]

/-- A variable that every step overwrites or leaves alone. -/
theorem foldl_eq_lastAssigned {field : σ → β} {step : σ → α → σ}
    (overwrites : ∀ state item,
      field (step state item) = (assigns item).getD (field state))
    (state : σ) (items : List α) :
    field (items.foldl step state) =
      lastAssigned assigns (field state) items := by
  induction items generalizing state with
  | nil => rfl
  | cons item items ih =>
      rw [List.foldl_cons, ih, overwrites, lastAssigned_cons]

/-- The same for a loop inside a loop, whose inner loop goes over the parts of
an item. -/
theorem foldl_foldl_eq_lastAssigned {γ : Type*} {field : σ → β}
    {step : γ → σ → α → σ} {parts : γ → List α}
    (overwrites : ∀ item state part,
      field (step item state part) = (assigns part).getD (field state))
    (state : σ) (items : List γ) :
    field (items.foldl
        (fun state item => (parts item).foldl (step item) state) state) =
      lastAssigned assigns (field state) (items.flatMap parts) := by
  induction items generalizing state with
  | nil => rfl
  | cons item items ih =>
      rw [List.foldl_cons, ih, foldl_eq_lastAssigned (overwrites item),
        List.flatMap_cons, lastAssigned_append]

/-- The same for a variable that may be unset, where the steps overwrite it
only in states that the loop never leaves. -/
theorem foldl_eq_getLast? {field : σ → Option β} {step : σ → α → σ}
    {ready : σ → Prop}
    (stays : ∀ state item, ready state → ready (step state item))
    (overwrites : ∀ state item, ready state →
      field (step state item) = (assigns item).or (field state))
    {state : σ} (starts : ready state) (items : List α) :
    field (items.foldl step state) =
      (items.filterMap assigns).getLast?.or (field state) := by
  induction items generalizing state with
  | nil => rfl
  | cons item items ih =>
      rw [List.foldl_cons, ih (stays state item starts),
        overwrites state item starts, getLast?_filterMap_cons,
        Option.or_assoc]

end LastAssigned
