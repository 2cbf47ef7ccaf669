import Mathlib.Data.List.Infix
import Mathlib.Data.UInt

/-!
# Counters with relaxed loads

A counter to which one thread adds while another loads it.  All that is known
of a relaxed load is that it sees a front of the additions, and no less than
the load before it.
-/

namespace RelaxedCounter

/-- The value after some additions. -/
def total (adds : List Nat) : UInt64 :=
  .ofNat adds.sum

/-- What a thread that has loaded `seen` can load when `made` was added. -/
structure Loads (made seen now : List Nat) : Prop where
  coherent : seen <+: now
  present : now <+: made

variable {made seen now : List Nat}

theorem total_append (earlier later : List Nat) :
    total (earlier ++ later) = total earlier + total later := by
  rw [total, List.sum_append, UInt64.ofNat_add]
  rfl

theorem total_add_drop (coherent : seen <+: now) :
    total seen + total (now.drop seen.length) = total now := by
  obtain ⟨later, rfl⟩ := coherent
  rw [List.drop_left, total_append]

/-- The difference of two loads is what was added in between. -/
theorem total_sub (coherent : seen <+: now) :
    total now - total seen = total (now.drop seen.length) := by
  rw [← total_add_drop coherent]
  exact add_sub_cancel_left _ _

theorem sum_le (coherent : seen <+: now) : seen.sum ≤ now.sum := by
  obtain ⟨later, rfl⟩ := coherent
  rw [List.sum_append]
  exact Nat.le_add_right _ _

/-- Loads do not decrease before the counter overflows. -/
theorem total_le (coherent : seen <+: now) (fits : now.sum < 2 ^ 64) :
    total seen ≤ total now := by
  have grows := sum_le coherent
  rw [UInt64.le_iff_toNat_le, total, total, UInt64.toNat_ofNat',
    UInt64.toNat_ofNat', Nat.mod_eq_of_lt fits,
    Nat.mod_eq_of_lt (lt_of_le_of_lt grows fits)]
  exact grows

end RelaxedCounter
