import Mathlib.Data.List.Basic
import Mathlib.Data.List.Flatten

/-!
# Streams of self-delimiting items

Many wire formats are a run of items each of which announces its own length.
A `Delimiter` reads that length off the front of the input and says where the
reader stops.  Cutting an input along a delimiter yields slices that remember
their position; the slices tile a prefix of the input, and cutting a
concatenation of complete items returns those items.
-/

/-- A piece of a larger list together with the position it was cut from. -/
structure Slice (α : Type*) where
  start : Nat
  content : List α
  deriving DecidableEq

namespace Slice

variable {α : Type*}

/-- Position just behind the piece. -/
def stop (slice : Slice α) : Nat :=
  slice.start + slice.content.length

/-- The piece made of a whole list. -/
def whole (content : List α) : Slice α :=
  ⟨0, content⟩

/-- The sub-piece from `first` up to `last`, counted inside the piece. -/
def sub (slice : Slice α) (first last : Nat) : Slice α :=
  ⟨slice.start + first, (slice.content.drop first).take (last - first)⟩

theorem sub_content_length {slice : Slice α} {first last : Nat}
    (inside : last ≤ slice.content.length) :
    (slice.sub first last).content.length = last - first := by
  simp [sub]
  omega

end Slice

/-- A rule that reads the length of the item at the front of the input, or
says that the reader stops there. -/
structure Delimiter (α : Type*) where
  size : List α → Option Nat
  size_pos : ∀ {input length}, size input = some length → 0 < length
  size_le : ∀ {input length}, size input = some length → length ≤ input.length

namespace Delimiter

variable {α : Type*} (delimiter : Delimiter α)

/-- The consecutive items at the front of the input, the first of them at
position `start`. -/
def slices (start : Nat) (input : List α) : List (Slice α) :=
  match _sizeEq : delimiter.size input with
  | none => []
  | some length =>
      ⟨start, input.take length⟩ ::
        slices (start + length) (input.drop length)
termination_by input.length
decreasing_by
  have positive := delimiter.size_pos _sizeEq
  have bounded := delimiter.size_le _sizeEq
  simp
  omega

/-- What the reader leaves untouched. -/
def remainder (input : List α) : List α :=
  match _sizeEq : delimiter.size input with
  | none => input
  | some length => remainder (input.drop length)
termination_by input.length
decreasing_by
  have positive := delimiter.size_pos _sizeEq
  have bounded := delimiter.size_le _sizeEq
  simp
  omega

/-- The contents of the consecutive items. -/
def items (input : List α) : List (List α) :=
  (delimiter.slices 0 input).map Slice.content

variable {delimiter}

theorem slices_of_none {start : Nat} {input : List α}
    (stops : delimiter.size input = none) :
    delimiter.slices start input = [] := by
  rw [slices]
  split <;> simp_all

theorem slices_of_some {start length : Nat} {input : List α}
    (sizeEq : delimiter.size input = some length) :
    delimiter.slices start input =
      ⟨start, input.take length⟩ ::
        delimiter.slices (start + length) (input.drop length) := by
  rw [slices]
  split <;> simp_all

theorem remainder_of_none {input : List α}
    (stops : delimiter.size input = none) :
    delimiter.remainder input = input := by
  rw [remainder]
  split <;> simp_all

theorem remainder_of_some {length : Nat} {input : List α}
    (sizeEq : delimiter.size input = some length) :
    delimiter.remainder input = delimiter.remainder (input.drop length) := by
  rw [remainder]
  split <;> simp_all

/-- Induction along the items of an input. -/
@[elab_as_elim]
theorem item_induction {motive : List α → Prop} (input : List α)
    (stop : ∀ input, delimiter.size input = none → motive input)
    (item : ∀ input length, delimiter.size input = some length →
      motive (input.drop length) → motive input) :
    motive input := by
  induction measureEq : input.length using Nat.strongRecOn
      generalizing input with
  | ind measure ih =>
      cases sizeEq : delimiter.size input with
      | none => exact stop input sizeEq
      | some length =>
          have positive := delimiter.size_pos sizeEq
          have bounded := delimiter.size_le sizeEq
          refine item input length sizeEq (ih _ ?_ _ rfl)
          simp
          omega

theorem slices_start (start : Nat) (input : List α) :
    delimiter.slices start input =
      (delimiter.slices 0 input).map
        fun slice => ⟨start + slice.start, slice.content⟩ := by
  induction input using delimiter.item_induction generalizing start with
  | stop input stops => simp [slices_of_none stops]
  | item input length sizeEq ih =>
      rw [slices_of_some sizeEq, slices_of_some sizeEq, ih (start + length),
        ih (0 + length)]
      simp [Function.comp_def, Nat.add_assoc]

theorem items_of_none {input : List α}
    (stops : delimiter.size input = none) : delimiter.items input = [] := by
  simp [items, slices_of_none stops]

theorem items_of_some {length : Nat} {input : List α}
    (sizeEq : delimiter.size input = some length) :
    delimiter.items input =
      input.take length :: delimiter.items (input.drop length) := by
  rw [items, slices_of_some sizeEq, slices_start, items]
  simp [Function.comp_def]

/-- The items and the remainder are the whole input, cut in order. -/
theorem items_flatten_append_remainder (input : List α) :
    (delimiter.items input).flatten ++ delimiter.remainder input = input := by
  induction input using delimiter.item_induction with
  | stop input stops => simp [items_of_none stops, remainder_of_none stops]
  | item input length sizeEq ih =>
      rw [items_of_some sizeEq, remainder_of_some sizeEq, List.flatten_cons,
        List.append_assoc, ih, List.take_append_drop]

theorem size_remainder (input : List α) :
    delimiter.size (delimiter.remainder input) = none := by
  induction input using delimiter.item_induction with
  | stop input stops => rwa [remainder_of_none stops]
  | item input length sizeEq ih => rwa [remainder_of_some sizeEq]

/-- A list that the delimiter recognises as one whole item whatever follows
it. -/
def Complete (delimiter : Delimiter α) (item : List α) : Prop :=
  ∀ following, delimiter.size (item ++ following) = some item.length

theorem items_append_of_complete {item : List α}
    (complete : delimiter.Complete item) (following : List α) :
    delimiter.items (item ++ following) =
      item :: delimiter.items following := by
  rw [items_of_some (complete following)]
  simp

theorem remainder_append_of_complete {item : List α}
    (complete : delimiter.Complete item) (following : List α) :
    delimiter.remainder (item ++ following) =
      delimiter.remainder following := by
  rw [remainder_of_some (complete following)]
  simp

/-- Cutting a concatenation of complete items returns those items. -/
theorem items_flatten_append {parts : List (List α)}
    (complete : ∀ part ∈ parts, delimiter.Complete part)
    (following : List α) :
    delimiter.items (parts.flatten ++ following) =
      parts ++ delimiter.items following := by
  induction parts with
  | nil => rfl
  | cons part parts ih =>
      rw [List.flatten_cons, List.append_assoc,
        items_append_of_complete (complete part (by simp)),
        ih fun member memberMem => complete member (by simp [memberMem])]
      rfl

/-- Consecutive pieces with their positions, the first of them at `start`. -/
def placed (start : Nat) : List (List α) → List (Slice α)
  | [] => []
  | part :: parts => ⟨start, part⟩ :: placed (start + part.length) parts

theorem slices_flatten_append {parts : List (List α)}
    (complete : ∀ part ∈ parts, delimiter.Complete part) (start : Nat)
    (following : List α) :
    delimiter.slices start (parts.flatten ++ following) =
      placed start parts ++
        delimiter.slices (start + parts.flatten.length) following := by
  induction parts generalizing start with
  | nil => rfl
  | cons part parts ih =>
      have later := ih (fun member memberMem => complete member
        (List.mem_cons_of_mem part memberMem)) (start + part.length)
      rw [List.flatten_cons, List.append_assoc,
        slices_of_some (complete part List.mem_cons_self _),
        List.take_left, List.drop_left, later, List.length_append,
        Nat.add_assoc]
      rfl

theorem size_nil : delimiter.size [] = none := by
  cases sizeEq : delimiter.size [] with
  | none => rfl
  | some length =>
      have positive := delimiter.size_pos sizeEq
      have bounded := delimiter.size_le sizeEq
      simp only [List.length_nil] at bounded
      omega

/-- Cutting an input without its remainder gives the same pieces. -/
theorem slices_items_flatten {input : List α}
    (complete : ∀ item ∈ delimiter.items input, delimiter.Complete item) :
    delimiter.slices 0 (delimiter.items input).flatten =
      delimiter.slices 0 input := by
  have whole := slices_flatten_append complete 0 []
  have cut := slices_flatten_append complete 0 (delimiter.remainder input)
  rw [List.append_nil, slices_of_none size_nil] at whole
  rw [items_flatten_append_remainder, slices_of_none (size_remainder input)]
    at cut
  rw [whole, cut]

/-- The length of an item does not depend on what follows it. -/
def Stable (delimiter : Delimiter α) : Prop :=
  ∀ {input length} following, delimiter.size input = some length →
    delimiter.size (input ++ following) = some length

/-- What follows is read together with the remainder. -/
theorem items_append_remainder (stable : delimiter.Stable)
    (input following : List α) :
    delimiter.items (input ++ following) =
      delimiter.items input ++
        delimiter.items (delimiter.remainder input ++ following) := by
  induction input using delimiter.item_induction with
  | stop input stops =>
      rw [remainder_of_none stops, items_of_none stops, List.nil_append]
  | item input length sizeEq ih =>
      have bounded := delimiter.size_le sizeEq
      rw [remainder_of_some sizeEq, items_of_some sizeEq,
        items_of_some (stable following sizeEq),
        List.take_append_of_le_length bounded,
        List.drop_append_of_le_length bounded, ih, List.cons_append]

theorem items_append (stable : delimiter.Stable) {input : List α}
    (readUp : delimiter.remainder input = []) (following : List α) :
    delimiter.items (input ++ following) =
      delimiter.items input ++ delimiter.items following := by
  rw [items_append_remainder stable, readUp, List.nil_append]

theorem items_prefix_append (stable : delimiter.Stable)
    (input following : List α) :
    delimiter.items input <+: delimiter.items (input ++ following) :=
  ⟨_, (items_append_remainder stable input following).symm⟩

theorem remainder_append (stable : delimiter.Stable) {input : List α}
    (readUp : delimiter.remainder input = []) (following : List α) :
    delimiter.remainder (input ++ following) =
      delimiter.remainder following := by
  induction input using delimiter.item_induction with
  | stop input stops =>
      rw [remainder_of_none stops] at readUp
      rw [readUp, List.nil_append]
  | item input length sizeEq ih =>
      have bounded := delimiter.size_le sizeEq
      rw [remainder_of_some sizeEq] at readUp
      rw [remainder_of_some (stable following sizeEq),
        List.drop_append_of_le_length bounded, ih readUp]

/-- Every slice lies inside the input and starts no earlier than the walk. -/
theorem slice_bounds {start : Nat} {input : List α} {slice : Slice α}
    (member : slice ∈ delimiter.slices start input) :
    start ≤ slice.start ∧ slice.stop ≤ start + input.length ∧
      0 < slice.content.length := by
  induction input using delimiter.item_induction generalizing start with
  | stop input stops => simp [slices_of_none stops] at member
  | item input length sizeEq ih =>
      have positive := delimiter.size_pos sizeEq
      have bounded := delimiter.size_le sizeEq
      rw [slices_of_some sizeEq, List.mem_cons] at member
      rcases member with rfl | member
      · simp [Slice.stop]
        omega
      · have later := ih member
        simp only [List.length_drop] at later
        omega

theorem slice_size {start : Nat} {input : List α} {slice : Slice α}
    (member : slice ∈ delimiter.slices start input) :
    ∃ following, delimiter.size following = some slice.content.length ∧
      slice.content = following.take slice.content.length := by
  induction input using delimiter.item_induction generalizing start with
  | stop input stops => simp [slices_of_none stops] at member
  | item input length sizeEq ih =>
      have bounded := delimiter.size_le sizeEq
      rw [slices_of_some sizeEq, List.mem_cons] at member
      rcases member with rfl | member
      · have cutLength : (input.take length).length = length := by
          rw [List.length_take]
          omega
        exact ⟨input, by rw [cutLength, sizeEq], by rw [cutLength]⟩
      · exact ih member

theorem slice_content {start : Nat} {input : List α} {slice : Slice α}
    (member : slice ∈ delimiter.slices start input) :
    (input.drop (slice.start - start)).take slice.content.length =
      slice.content := by
  induction input using delimiter.item_induction generalizing start with
  | stop input stops => simp [slices_of_none stops] at member
  | item input length sizeEq ih =>
      rw [slices_of_some sizeEq, List.mem_cons] at member
      rcases member with rfl | member
      · rw [Nat.sub_self, List.drop_zero, List.length_take,
          ← List.take_take, List.take_length]
      · have bounds := slice_bounds member
        have later := ih member
        rw [List.drop_drop] at later
        rwa [show length + (slice.start - (start + length)) =
          slice.start - start by omega] at later

theorem remainder_suffix (input : List α) :
    ∃ before, before ++ delimiter.remainder input = input :=
  ⟨_, items_flatten_append_remainder input⟩

/-- Slices come in increasing order and do not overlap. -/
theorem slices_pairwise (start : Nat) (input : List α) :
    (delimiter.slices start input).Pairwise
      fun earlier later => earlier.stop ≤ later.start := by
  induction input using delimiter.item_induction generalizing start with
  | stop input stops => simp [slices_of_none stops]
  | item input length sizeEq ih =>
      have bounded := delimiter.size_le sizeEq
      rw [slices_of_some sizeEq, List.pairwise_cons]
      refine ⟨fun later member => ?_, ih (start + length)⟩
      have laterBounds := slice_bounds member
      simp only [Slice.stop, List.length_take]
      omega

section Mark

variable [DecidableEq α]

/-- Items that end with a mark, as lines do. -/
def endingIn (mark : α) : Delimiter α where
  size input := if mark ∈ input then some (input.idxOf mark + 1) else none
  size_pos sizeEq := by
    split at sizeEq
    · cases sizeEq
      exact Nat.succ_pos _
    · cases sizeEq
  size_le sizeEq := by
    split at sizeEq
    · rename_i member
      cases sizeEq
      exact List.idxOf_lt_length_iff.mpr member
    · cases sizeEq

variable {mark : α}

theorem endingIn_size_of_mem {input : List α} (member : mark ∈ input) :
    (endingIn mark).size input = some (input.idxOf mark + 1) :=
  if_pos member

theorem endingIn_size_of_not_mem {input : List α} (absent : mark ∉ input) :
    (endingIn mark).size input = none :=
  if_neg absent

theorem endingIn_stable : (endingIn mark).Stable := by
  intro input length following sizeEq
  by_cases member : mark ∈ input
  · rw [endingIn_size_of_mem member] at sizeEq
    rw [endingIn_size_of_mem (List.mem_append_left following member),
      List.idxOf_append_of_mem member, sizeEq]
  · rw [endingIn_size_of_not_mem member] at sizeEq
    cases sizeEq

theorem mark_mem_take {input : List α} (member : mark ∈ input) :
    mark ∈ input.take (input.idxOf mark + 1) := by
  have inside := List.idxOf_lt_length_iff.mpr member
  rw [List.mem_take_iff_getElem]
  exact ⟨input.idxOf mark, by omega, List.getElem_idxOf inside⟩

theorem endingIn_complete_take {input : List α} (member : mark ∈ input) :
    (endingIn mark).Complete (input.take (input.idxOf mark + 1)) := by
  have inside := List.idxOf_lt_length_iff.mpr member
  have memberTake := mark_mem_take member
  have positionEq : input.idxOf mark =
      (input.take (input.idxOf mark + 1)).idxOf mark := by
    conv_lhs => rw [← List.take_append_drop (input.idxOf mark + 1) input]
    exact List.idxOf_append_of_mem memberTake
  have sizeEq : (endingIn mark).size (input.take (input.idxOf mark + 1)) =
      some (input.take (input.idxOf mark + 1)).length := by
    rw [endingIn_size_of_mem memberTake, ← positionEq, List.length_take]
    congr 1
    omega
  exact fun following => endingIn_stable following sizeEq

end Mark

end Delimiter
