import AndroidTether.Checked
import Mathlib.Data.List.DropRight
import Mathlib.Data.List.Forall2

/-!
# Plain text

Text as the list of its characters, with what the string type of a systems
language offers on it: slices at byte offsets of the UTF-8 encoding, which end
in a panic inside a character, trimming, lines, lower case and the comparison
with a word in letters of either case.
-/

/-- A text as the list of its characters. -/
abbrev Text := List Char

namespace Text

open Checked

/-- The length of the UTF-8 encoding. -/
def byteLength (text : Text) : Nat :=
  (text.map Char.utf8Size).sum

/-- The text from the byte `offset` on. -/
def dropBytes : Text → Nat → Checked Text
  | text, 0 => .ok text
  | [], _ + 1 => .error .sliceOutOfRange
  | c :: rest, offset + 1 =>
      if c.utf8Size ≤ offset + 1 then dropBytes rest (offset + 1 - c.utf8Size)
      else .error .sliceOutOfRange

/-- The text before the byte `offset`. -/
def takeBytes : Text → Nat → Checked Text
  | _, 0 => .ok []
  | [], _ + 1 => .error .sliceOutOfRange
  | c :: rest, offset + 1 =>
      if c.utf8Size ≤ offset + 1 then
        return c :: (← takeBytes rest (offset + 1 - c.utf8Size))
      else .error .sliceOutOfRange

/-- The text between two byte offsets. -/
def slice (text : Text) (start stop : Nat) : Checked Text :=
  if start ≤ stop then do
    let rest ← dropBytes text start
    takeBytes rest (stop - start)
  else .error .sliceOutOfRange

/-- The byte offset of the first `wanted`. -/
def find (wanted : Char) : Text → Option Nat
  | [] => none
  | c :: rest =>
      if c = wanted then some 0
      else (find wanted rest).map (· + c.utf8Size)

/-- The Unicode property `White_Space`. -/
def isWhitespace (c : Char) : Bool :=
  (0x09 ≤ c.toNat ∧ c.toNat ≤ 0x0D) ∨ (0x2000 ≤ c.toNat ∧ c.toNat ≤ 0x200A) ∨
    [0x20, 0x85, 0xA0, 0x1680, 0x2028, 0x2029, 0x202F, 0x205F, 0x3000].contains
      c.toNat

def trim (text : Text) : Text :=
  (text.dropWhile isWhitespace).rdropWhile isWhitespace

/-- A line end is a line feed, and a carriage return right before it. -/
def stripReturn (line : Text) : Text :=
  if line.getLast? = some '\r' then line.dropLast else line

/-- The lines of a text.  What follows the last line end is a line too, unless
it is empty. -/
def lines (text : Text) : List Text :=
  let parts := text.splitOn '\n'
  parts.dropLast.map stripReturn ++ parts.getLast?.toList.filter (· ≠ [])

/-- Lower case, as far as it is ASCII text: besides the capital letters, only
the Kelvin sign becomes a single ASCII letter. -/
def toLowercase (text : Text) : Text :=
  text.map fun c => if c.toNat = 0x212A then 'k' else c.toLower

/-- A character stands for a small letter or a digit: it is that character,
its capital, or the Kelvin sign for a `k`. -/
def StandsFor (small c : Char) : Prop :=
  c = small ∨ (65 ≤ c.toNat ∧ c.toNat ≤ 90 ∧ c.toNat + 32 = small.toNat) ∨
    (small = 'k' ∧ c.toNat = 0x212A)

instance (small c : Char) : Decidable (StandsFor small c) :=
  inferInstanceAs (Decidable (_ ∨ _ ∨ _))

/-- The text is a word, in letters of either case. -/
def Spells (word text : Text) : Prop :=
  List.Forall₂ StandsFor word text

instance (word text : Text) : Decidable (Spells word text) :=
  inferInstanceAs (Decidable (List.Forall₂ StandsFor word text))

/-- A word without capital letters. -/
def IsSmall (word : Text) : Prop :=
  ∀ c ∈ word, ¬ (65 ≤ c.toNat ∧ c.toNat ≤ 90) ∧ c.toNat ≠ 0x212A

instance (word : Text) : Decidable (IsSmall word) :=
  List.decidableBAll
    (fun c : Char => ¬ (65 ≤ c.toNat ∧ c.toNat ≤ 90) ∧ c.toNat ≠ 0x212A) word

theorem toNat_toLower (c : Char) :
    c.toLower.toNat =
      if 65 ≤ c.toNat ∧ c.toNat ≤ 90 then c.toNat + 32 else c.toNat := by
  have range : (c.val ≥ 'A'.val ∧ c.val ≤ 'Z'.val) ↔
      65 ≤ c.toNat ∧ c.toNat ≤ 90 := Iff.rfl
  delta Char.toLower
  split
  case isTrue capital =>
    have atMost : c.val.toNat ≤ 90 := (range.mp capital).2
    have distance : 'a'.val - 'A'.val = 32 := rfl
    rw [if_pos (range.mp capital)]
    change (c.val + ('a'.val - 'A'.val)).toNat = c.val.toNat + 32
    rw [distance, UInt32.toNat_add]
    exact Nat.mod_eq_of_lt (show c.val.toNat + 32 < 2 ^ 32 by omega)
  case isFalse other => rw [if_neg fun inside => other (range.mpr inside)]

theorem standsFor_iff {small c : Char}
    (notCapital : ¬ (65 ≤ small.toNat ∧ small.toNat ≤ 90))
    (notKelvin : small.toNat ≠ 0x212A) :
    (if c.toNat = 0x212A then 'k' else c.toLower) = small ↔
      StandsFor small c := by
  unfold StandsFor
  by_cases kelvin : c.toNat = 0x212A
  · have other : c ≠ small := by
      rintro rfl
      exact notKelvin kelvin
    simp [kelvin, other, eq_comm]
  · have lowered := toNat_toLower c
    rw [if_neg kelvin]
    simp only [kelvin, and_false, or_false]
    by_cases capital : 65 ≤ c.toNat ∧ c.toNat ≤ 90
    · have other : c ≠ small := by
        rintro rfl
        exact notCapital capital
      rw [if_pos capital] at lowered
      rw [← Char.toNat_inj, lowered]
      simp [other, capital]
    · rw [if_neg capital] at lowered
      have same : c.toLower = c := Char.toNat_inj.mp lowered
      rw [same]
      constructor
      · exact .inl
      · rintro (same | ⟨low, high, -⟩)
        · exact same
        · exact absurd ⟨low, high⟩ capital

/-- Comparing in lower case is comparing letters of either case. -/
theorem toLowercase_eq_iff {word : Text} (small : IsSmall word)
    (text : Text) : toLowercase text = word ↔ Spells word text := by
  induction word generalizing text with
  | nil => simp [toLowercase, Spells]
  | cons c word ih =>
      obtain ⟨first, rest⟩ := List.forall_mem_cons.mp small
      cases text with
      | nil => simp [toLowercase, Spells]
      | cons d text =>
          rw [Spells, List.forall₂_cons, ← standsFor_iff first.1 first.2]
          exact List.cons.injEq .. ▸ and_congr Iff.rfl (ih rest text)

theorem spells_iff {word : String} (small : IsSmall word.toList)
    (text : Text) :
    Spells word.toList text ↔ String.ofList (toLowercase text) = word := by
  rw [← toLowercase_eq_iff small, ← String.ofList_inj, String.ofList_toList]

@[simp]
theorem byteLength_nil : byteLength [] = 0 :=
  rfl

@[simp]
theorem byteLength_cons (c : Char) (text : Text) :
    byteLength (c :: text) = c.utf8Size + byteLength text := by
  simp [byteLength]

theorem byteLength_append (before after : Text) :
    byteLength (before ++ after) = byteLength before + byteLength after := by
  simp [byteLength]

theorem dropBytes_append (before after : Text) :
    dropBytes (before ++ after) (byteLength before) = .ok after := by
  induction before with
  | nil => cases after <;> rfl
  | cons c before ih =>
      obtain ⟨size, sizeEq⟩ := Nat.exists_eq_add_of_lt c.utf8Size_pos
      have split : c.utf8Size + byteLength before =
          size + byteLength before + 1 := by omega
      rw [List.cons_append, byteLength_cons, split, dropBytes,
        if_pos (by omega), ← split, Nat.add_sub_cancel_left, ih]

theorem takeBytes_append (before after : Text) :
    takeBytes (before ++ after) (byteLength before) = .ok before := by
  induction before with
  | nil => cases after <;> rfl
  | cons c before ih =>
      obtain ⟨size, sizeEq⟩ := Nat.exists_eq_add_of_lt c.utf8Size_pos
      have split : c.utf8Size + byteLength before =
          size + byteLength before + 1 := by omega
      rw [List.cons_append, byteLength_cons, split, takeBytes,
        if_pos (by omega), ← split, Nat.add_sub_cancel_left, ih, ok_bind,
        pure_eq_ok]

theorem slice_enclosed {text : Text} {first last : Char}
    (starts : text.head? = some first) (ends : text.getLast? = some last)
    (differ : first ≠ last) (firstSize : first.utf8Size = 1)
    (lastSize : last.utf8Size = 1) :
    slice text 1 (byteLength text - 1) = .ok text.tail.dropLast := by
  obtain ⟨rest, rfl⟩ := List.head?_eq_some_iff.mp starts
  rcases List.eq_nil_or_concat rest with rfl | ⟨inner, c, rfl⟩
  · exact absurd (Option.some.inj ends) differ
  · rw [List.concat_eq_append, ← List.cons_append,
      List.getLast?_concat] at ends
    cases ends
    have length : byteLength (first :: (inner ++ [last])) - 1 =
        byteLength inner + 1 := by
      simp [byteLength, firstSize, lastSize]
    have dropped := dropBytes_append [first] (inner ++ [last])
    rw [byteLength_cons, byteLength_nil, firstSize] at dropped
    rw [List.concat_eq_append, length, slice, if_pos (by omega),
      ← List.singleton_append, dropped, ok_bind, Nat.add_sub_cancel,
      takeBytes_append]
    simp

theorem find_eq_none {wanted : Char} {text : Text} (absent : wanted ∉ text) :
    find wanted text = none := by
  induction text with
  | nil => rfl
  | cons c text ih =>
      rw [List.mem_cons, not_or] at absent
      rw [find, if_neg (Ne.symm absent.1), ih absent.2, Option.map_none]

theorem find_append {wanted : Char} {before : Text} (absent : wanted ∉ before)
    (after : Text) :
    find wanted (before ++ wanted :: after) = some (byteLength before) := by
  induction before with
  | nil => rw [List.nil_append, find, if_pos rfl, byteLength_nil]
  | cons c before ih =>
      rw [List.mem_cons, not_or] at absent
      rw [List.cons_append, find, if_neg (Ne.symm absent.1), ih absent.2,
        Option.map_some, byteLength_cons, Nat.add_comm]

/-- A search finds nothing, or the first occurrence. -/
theorem find_cases (wanted : Char) (text : Text) :
    (wanted ∉ text ∧ find wanted text = none) ∨
      ∃ before after, text = before ++ wanted :: after ∧ wanted ∉ before ∧
        find wanted text = some (byteLength before) := by
  by_cases member : wanted ∈ text
  · obtain ⟨before, after, rfl, absent⟩ := List.eq_append_cons_of_mem member
    exact .inr ⟨before, after, rfl, absent, find_append absent after⟩
  · exact .inl ⟨member, find_eq_none member⟩

theorem takeWhile_ne {wanted : Char} {before : Text}
    (absent : wanted ∉ before) (after : Text) :
    (before ++ wanted :: after).takeWhile (· ≠ wanted) = before := by
  rw [List.takeWhile_append_of_pos, List.takeWhile_cons_of_neg (by simp),
    List.append_nil]
  exact fun c member => decide_eq_true (ne_of_mem_of_not_mem member absent)

theorem dropWhile_ne {wanted : Char} {before : Text}
    (absent : wanted ∉ before) (after : Text) :
    (before ++ wanted :: after).dropWhile (· ≠ wanted) = wanted :: after := by
  rw [List.dropWhile_append_of_pos, List.dropWhile_cons_of_neg (by simp)]
  exact fun c member => decide_eq_true (ne_of_mem_of_not_mem member absent)

end Text
