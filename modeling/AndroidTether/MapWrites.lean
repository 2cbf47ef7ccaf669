import Mathlib.Data.List.Induction
import Mathlib.Logic.Function.Basic

/-!
# Writes to finite maps

Sequences of writes to a map, where a map is a function to optional values.
A sequence that ends up removing every key it touches is undone exactly on the
maps that had none of these keys.
-/

namespace MapWrites

variable {κ ν : Type*} [DecidableEq κ]

inductive Write (κ ν : Type*)
  | set (key : κ) (value : ν)
  /-- Only if the key is absent. -/
  | add (key : κ) (value : ν)
  | remove (key : κ)

namespace Write

def key : Write κ ν → κ
  | set key _ | add key _ | remove key => key

def apply (map : κ → Option ν) : Write κ ν → κ → Option ν
  | set key value => Function.update map key (some value)
  | add key value =>
      if map key = none then Function.update map key (some value) else map
  | remove key => Function.update map key none

theorem apply_other {map : κ → Option ν} {write : Write κ ν} {key : κ}
    (other : write.key ≠ key) : write.apply map key = map key := by
  cases write with
  | set written value => exact Function.update_of_ne other.symm _ _
  | add written value =>
      rw [apply]
      split
      · exact Function.update_of_ne other.symm _ _
      · rfl
  | remove written => exact Function.update_of_ne other.symm _ _

end Write

def applyAll (map : κ → Option ν) (writes : List (Write κ ν)) : κ → Option ν :=
  writes.foldl Write.apply map

/-- The last write to a key, if there is one. -/
def lastTo (key : κ) (writes : List (Write κ ν)) : Option (Write κ ν) :=
  writes.reverse.find? fun write => write.key = key

theorem applyAll_concat (map : κ → Option ν) (writes : List (Write κ ν))
    (write : Write κ ν) :
    applyAll map (writes ++ [write]) = write.apply (applyAll map writes) := by
  simp [applyAll]

theorem lastTo_concat (key : κ) (writes : List (Write κ ν))
    (write : Write κ ν) :
    lastTo key (writes ++ [write]) =
      if write.key = key then some write else lastTo key writes := by
  by_cases same : write.key = key <;> simp [lastTo, same]

theorem lastTo_append (key : κ) (earlier later : List (Write κ ν)) :
    lastTo key (earlier ++ later) =
      (lastTo key later).or (lastTo key earlier) := by
  simp [lastTo, List.find?_append]

theorem lastTo_map_remove {key : κ} {keys : List κ} (member : key ∈ keys) :
    lastTo key (keys.map (Write.remove : κ → Write κ ν)) = some (.remove key) := by
  induction keys using List.reverseRecOn with
  | nil => cases member
  | append_singleton keys last ih =>
      rw [List.map_append, List.map_singleton, lastTo_concat]
      by_cases same : last = key
      · rw [same]
        exact if_pos rfl
      · have earlier : key ∈ keys := by
          simpa [Ne.symm same] using member
        exact (if_neg same).trans (ih earlier)

theorem applyAll_of_not_written {map : κ → Option ν}
    {writes : List (Write κ ν)} {key : κ}
    (notWritten : ∀ write ∈ writes, write.key ≠ key) :
    applyAll map writes key = map key := by
  induction writes generalizing map with
  | nil => rfl
  | cons write writes ih =>
      calc
        applyAll map (write :: writes) key
          = applyAll (write.apply map) writes key := rfl
        _ = write.apply map key :=
          ih fun later member => notWritten later (List.mem_cons_of_mem _ member)
        _ = map key := Write.apply_other (notWritten write List.mem_cons_self)

theorem applyAll_of_last_remove {map : κ → Option ν}
    {writes : List (Write κ ν)} {key : κ}
    (removed : lastTo key writes = some (.remove key)) :
    applyAll map writes key = none := by
  induction writes using List.reverseRecOn with
  | nil => cases removed
  | append_singleton writes write ih =>
      rw [lastTo_concat] at removed
      rw [applyAll_concat]
      split at removed
      case isTrue same =>
        cases removed
        exact Function.update_self ..
      case isFalse other => rw [Write.apply_other other, ih removed]

/-- Writes that leave all their keys absent change nothing exactly when the
keys were absent before. -/
theorem applyAll_eq_self_iff {map : κ → Option ν} {writes : List (Write κ ν)}
    {keys : List κ} (covered : ∀ write ∈ writes, write.key ∈ keys)
    (removed : ∀ key ∈ keys, lastTo key writes = some (.remove key)) :
    applyAll map writes = map ↔ ∀ key ∈ keys, map key = none := by
  constructor
  · intro unchanged key member
    rw [← unchanged]
    exact applyAll_of_last_remove (removed key member)
  · intro absent
    ext1 key
    by_cases member : key ∈ keys
    · rw [applyAll_of_last_remove (removed key member), absent key member]
    · apply applyAll_of_not_written
      rintro write isWrite rfl
      exact member (covered write isWrite)

theorem foldl_removes {σ ρ : Type*} {map : σ → κ → Option ν}
    {step : σ → ρ → σ} {keys : ρ → List κ}
    (removes : ∀ state run key, map (step state run) key =
      if key ∈ keys run then none else map state key)
    (runs : List ρ) (state : σ) (key : κ) :
    map (runs.foldl step state) key =
      if ∃ run ∈ runs, key ∈ keys run then none else map state key := by
  induction runs generalizing state with
  | nil => simp
  | cons run runs ih =>
      rw [List.foldl_cons, ih, removes]
      by_cases first : key ∈ keys run
      · rw [if_pos first, ite_self, if_pos ⟨run, List.mem_cons_self, first⟩]
      · simp [first]

end MapWrites
