import AndroidTether.ByteWords
import Mathlib.Data.Nat.ModEq

/-!
# Sums with end-around carry

The internet checksum adds sixteen-bit words and folds every carry back into
the low end.  Folding never changes a sum modulo `65535` and never turns a
positive sum into zero, so a header whose checksum word is the complement of
the folded rest folds to `65535`.
-/

namespace OnesComplement

open ByteWords

/-- `while sum >> 16 != 0 { sum = (sum & 0xFFFF) + (sum >> 16) }`. -/
def carryFold (sum : Nat) : Nat :=
  if sum >>> 16 ≠ 0 then carryFold ((sum &&& 0xFFFF) + (sum >>> 16)) else sum
termination_by sum
decreasing_by
  rename_i carries
  have low : sum &&& 0xFFFF = sum % 65536 := Nat.and_two_pow_sub_one_eq_mod sum 16
  rw [Nat.shiftRight_eq_div_pow] at carries ⊢
  omega

theorem carryFold_of_lt {sum : Nat} (small : sum < 65536) :
    carryFold sum = sum := by
  have shifted : sum >>> 16 = 0 := by
    rw [Nat.shiftRight_eq_div_pow]
    omega
  rw [carryFold, if_neg (not_not.mpr shifted)]

theorem carryFold_of_le {sum : Nat} (large : 65536 ≤ sum) :
    carryFold sum = carryFold (sum % 65536 + sum / 65536) := by
  have shifted : sum >>> 16 = sum / 65536 := Nat.shiftRight_eq_div_pow sum 16
  have low : sum &&& 0xFFFF = sum % 65536 := Nat.and_two_pow_sub_one_eq_mod sum 16
  rw [carryFold, shifted, low, if_pos (by omega)]

/-- The values of `sum` at the head of the loop. -/
inductive FoldReaches (sum : Nat) : Nat → Prop
  | start : FoldReaches sum sum
  | fold {value : Nat} (reached : FoldReaches sum value)
      (carries : value >>> 16 ≠ 0) :
      FoldReaches sum ((value &&& 0xFFFF) + (value >>> 16))

theorem FoldReaches.le {sum value : Nat} (reached : FoldReaches sum value) :
    value ≤ sum := by
  induction reached with
  | start => exact le_rfl
  | @fold value reached carries ih =>
      have low : value &&& 0xFFFF = value % 65536 :=
        Nat.and_two_pow_sub_one_eq_mod value 16
      rw [low, Nat.shiftRight_eq_div_pow]
      omega

/-- What folding the carries of a sum computes. -/
theorem carryFold_spec (sum : Nat) :
    carryFold sum < 65536 ∧ carryFold sum ≡ sum [MOD 65535] ∧
      (0 < sum → 0 < carryFold sum) := by
  induction sum using Nat.strongRecOn with
  | ind sum ih =>
      by_cases small : sum < 65536
      · rw [carryFold_of_lt small]
        exact ⟨small, rfl, id⟩
      · obtain ⟨bounded, congruent, positive⟩ :=
          ih (sum % 65536 + sum / 65536) (by omega)
        rw [carryFold_of_le (by omega)]
        refine ⟨bounded, congruent.trans ?_, fun _ => positive (by omega)⟩
        rw [Nat.ModEq]
        omega

theorem carryFold_eq_ones {sum : Nat} (positive : 0 < sum)
    (multiple : sum % 65535 = 0) : carryFold sum = 65535 := by
  obtain ⟨bounded, congruent, foldPositive⟩ := carryFold_spec sum
  have foldedPositive := foldPositive positive
  rw [Nat.ModEq, multiple] at congruent
  omega

/-- Adding the complement of the folded sum gives the all-ones word. -/
theorem carryFold_add_complement (sum : Nat) :
    carryFold (sum + (65535 - carryFold sum)) = 65535 := by
  obtain ⟨bounded, congruent, foldPositive⟩ := carryFold_spec sum
  rw [Nat.ModEq] at congruent
  apply carryFold_eq_ones
  · rcases Nat.eq_zero_or_pos sum with rfl | positive
    · rw [carryFold_of_lt (by decide)]
      decide
    · omega
  · omega

/-- `bytes.chunks(2)`. -/
def chunksOfTwo : Bytes → List Bytes
  | first :: second :: rest => [first, second] :: chunksOfTwo rest
  | [last] => [[last]]
  | [] => []

/-- The sum of the sixteen-bit words of a byte string. -/
def wordSum : Bytes → Nat
  | high :: low :: rest => beNat [high, low] + wordSum rest
  | [high] => 256 * high.toNat
  | [] => 0

theorem wordSum_le (bytes : Bytes) :
    wordSum bytes ≤ 65535 * ((bytes.length + 1) / 2) := by
  fun_induction wordSum bytes with
  | case1 high low rest ih =>
      have word := beNat_lt [high, low]
      simp only [List.length_cons, List.length_nil] at word ⊢
      omega
  | case2 high =>
      have byte := high.toNat_lt
      simp only [List.length_cons, List.length_nil]
      omega
  | case3 => simp

theorem wordSum_append {first : Bytes} (even : first.length % 2 = 0)
    (second : Bytes) :
    wordSum (first ++ second) = wordSum first + wordSum second := by
  fun_induction wordSum first with
  | case1 high low rest ih =>
      simp only [List.length_cons] at even
      simp only [List.cons_append, wordSum, ih (by omega), Nat.add_assoc]
  | case2 high => simp at even
  | case3 => simp

theorem wordSum_beBytes {value : Nat} (word : value < 65536) :
    wordSum (beBytes 2 value) = value := by
  change beNat (beBytes 2 value) = value
  rw [beNat_beBytes, Nat.mod_eq_of_lt (by simpa using word)]

/-- With end-around carry the words add up to all ones: their sum is a positive
multiple of `65535`. -/
def SumsToOnes (bytes : Bytes) : Prop :=
  0 < wordSum bytes ∧ wordSum bytes % 65535 = 0

/-- Folding the carries finds the sums of all ones, and no others. -/
theorem sumsToOnes_iff {bytes : Bytes} :
    SumsToOnes bytes ↔ carryFold (wordSum bytes) = 65535 := by
  obtain ⟨bounded, congruent, positive⟩ := carryFold_spec (wordSum bytes)
  constructor
  · rintro ⟨sumPositive, multiple⟩
    exact carryFold_eq_ones sumPositive multiple
  · intro ones
    rw [ones] at congruent
    refine ⟨Nat.pos_of_ne_zero fun zero => ?_, congruent.symm⟩
    rw [zero, carryFold_of_lt (by decide)] at ones
    exact absurd ones (by decide)

theorem carryFold_stored {before : Bytes} (even : before.length % 2 = 0)
    (after : Bytes) :
    carryFold (wordSum (before ++ beBytes 2
      (65535 - carryFold (wordSum (before ++ [0, 0] ++ after))) ++ after)) =
        65535 := by
  have total {value : Nat} (word : value < 65536) :
      wordSum (before ++ beBytes 2 value ++ after) =
        wordSum before + (value + wordSum after) := by
    rw [List.append_assoc, wordSum_append even,
      wordSum_append (by simp) after, wordSum_beBytes word]
  have blank : wordSum (before ++ [0, 0] ++ after) =
      wordSum before + (0 + wordSum after) := @total 0 (by decide)
  have filled := @total
    (65535 - carryFold (wordSum (before ++ [0, 0] ++ after))) (by omega)
  have sumEq : wordSum before +
      (65535 - carryFold (wordSum (before ++ [0, 0] ++ after)) +
        wordSum after) = wordSum (before ++ [0, 0] ++ after) +
      (65535 - carryFold (wordSum (before ++ [0, 0] ++ after))) := by
    omega
  rw [filled, sumEq]
  exact carryFold_add_complement _

end OnesComplement
