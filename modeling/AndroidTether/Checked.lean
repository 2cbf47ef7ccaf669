import AndroidTether.ByteWords
import AndroidTether.Delimited

/-!
# Operations that can panic

Indexing, slicing and fixed-width arithmetic as a memory-safe systems language
executes them: an access outside its operand ends the computation with a
`Panic`.  Each operation has one lemma for the case in which it succeeds, so
that later proofs only carry the bound.
-/

open ByteWords

/-- The ways a checked operation can end the computation. -/
inductive Panic
  | indexOutOfRange
  | sliceOutOfRange
  | arithmeticOverflow
  | lengthMismatch
  | unwrapNone
  | outOfBoundsWrite
  deriving DecidableEq, Repr

abbrev Checked := Except Panic

namespace Checked

@[simp]
theorem ok_bind {ε α β : Type} (value : α) (next : α → Except ε β) :
    (Except.ok value >>= next) = next value :=
  rfl

@[simp]
theorem error_bind {ε α β : Type} (panic : ε) (next : α → Except ε β) :
    ((Except.error panic : Except ε α) >>= next) = .error panic :=
  rfl

@[simp]
theorem pure_eq_ok {ε α : Type} (value : α) :
    (pure value : Except ε α) = .ok value :=
  rfl

theorem bind_eq_ok {ε α β : Type} {first : Except ε α}
    {next : α → Except ε β} {result : β} :
    (first >>= next) = .ok result ↔
      ∃ value, first = .ok value ∧ next value = .ok result := by
  cases first <;> simp

instance {ε α : Type} (outcome : Except ε α) :
    Decidable (∃ value, outcome = .ok value) :=
  match outcome with
  | .error _ => .isFalse fun ⟨_, succeeds⟩ => nomatch succeeds
  | .ok value => .isTrue ⟨value, rfl⟩

/-- The computation ends without a panic and its result satisfies `post`. -/
def Succeeds {α : Type} (outcome : Checked α) (post : α → Prop) : Prop :=
  ∃ result, outcome = .ok result ∧ post result

theorem succeeds_ok {α : Type} {post : α → Prop} {result : α}
    (holds : post result) : Succeeds (.ok result) post :=
  ⟨result, rfl, holds⟩

theorem succeeds_of_eq {α : Type} {outcome : Checked α} {result : α}
    (outcomeEq : outcome = .ok result) : Succeeds outcome (· = result) :=
  ⟨result, outcomeEq, rfl⟩

theorem Succeeds.bind {α β : Type} {first : Checked α} {next : α → Checked β}
    {mid : α → Prop} {post : β → Prop} (succeeds : Succeeds first mid)
    (continues : ∀ value, mid value → Succeeds (next value) post) :
    Succeeds (first >>= next) post := by
  obtain ⟨value, rfl, holds⟩ := succeeds
  exact continues value holds

/-- A fold succeeds when every step does, whatever the state. -/
theorem foldlM_ok {σ α : Type} {step : σ → α → Checked σ} {inputs : List α}
    (succeeds : ∀ input ∈ inputs, ∀ state, ∃ after,
      step state input = .ok after) (state : σ) :
    ∃ after, inputs.foldlM step state = .ok after := by
  induction inputs generalizing state with
  | nil => exact ⟨state, rfl⟩
  | cons input inputs ih =>
      obtain ⟨next, stepEq⟩ := succeeds input (by simp) state
      obtain ⟨after, rest⟩ :=
        ih (fun member memberMem => succeeds member (by simp [memberMem])) next
      exact ⟨after, by rw [List.foldlM_cons, stepEq, ok_bind, rest]⟩

/-- The calls of `step` that a fold makes, each with the state it starts
from; the first one that panics is the last. -/
def calls {σ α : Type} (step : σ → α → Checked σ) :
    σ → List α → List (σ × α)
  | _, [] => []
  | state, input :: inputs =>
      (state, input) ::
        match step state input with
        | .error _ => []
        | .ok next => calls step next inputs

theorem foldlM_ok_iff_calls {σ α : Type} {step : σ → α → Checked σ}
    {inputs : List α} {state : σ} :
    (∃ after, inputs.foldlM step state = .ok after) ↔
      ∀ call ∈ calls step state inputs,
        ∃ after, step call.1 call.2 = .ok after := by
  induction inputs generalizing state with
  | nil => simp [calls]
  | cons input inputs ih =>
      rw [List.foldlM_cons, calls, List.forall_mem_cons]
      cases stepEq : step state input with
      | error panic => simp
      | ok next => simp [ih]

/-- A change of state that takes every step of one fold to the step of
another takes the one fold to the other. -/
theorem foldlM_map {σ τ α : Type} {step : σ → α → Checked σ}
    {mapped : τ → α → Checked τ} {change : σ → τ} {inputs : List α}
    (commutes : ∀ input ∈ inputs, ∀ state,
      mapped (change state) input = (step state input).map change)
    (state : σ) :
    inputs.foldlM mapped (change state) =
      (inputs.foldlM step state).map change := by
  induction inputs generalizing state with
  | nil => rfl
  | cons input inputs ih =>
      rw [List.foldlM_cons, List.foldlM_cons,
        commutes input List.mem_cons_self]
      cases step state input with
      | error panic => rfl
      | ok next =>
          exact ih (fun later member => commutes later
            (List.mem_cons_of_mem input member)) next

theorem foldlM_congr {σ α : Type} {step other : σ → α → Checked σ}
    {inputs : List α}
    (agree : ∀ input ∈ inputs, ∀ state, other state input = step state input)
    (state : σ) :
    inputs.foldlM other state = inputs.foldlM step state := by
  have mapId (outcome : Checked σ) : outcome.map id = outcome := by
    cases outcome <;> rfl
  have same := @foldlM_map σ σ α step other id inputs
    (fun input member state => by rw [mapId]; exact agree input member state)
    state
  rwa [mapId] at same

/-- `bytes[position]`. -/
def index (bytes : Bytes) (position : Nat) : Checked UInt8 :=
  if position < bytes.length then .ok (bytes.getD position 0)
  else .error .indexOutOfRange

/-- `&bytes[first..last]`. -/
def range (bytes : Bytes) (first last : Nat) : Checked Bytes :=
  if first ≤ last ∧ last ≤ bytes.length then
    .ok ((bytes.drop first).take (last - first))
  else .error .sliceOutOfRange

/-- `&slice[first..last]`, keeping track of the position. -/
def subslice (slice : Slice UInt8) (first last : Nat) :
    Checked (Slice UInt8) :=
  if first ≤ last ∧ last ≤ slice.content.length then
    .ok (slice.sub first last)
  else .error .sliceOutOfRange

/-- `buffer[first..first + block.len()].copy_from_slice(block)`. -/
def copyInto (buffer : Bytes) (first : Nat) (block : Bytes) : Checked Bytes :=
  if first + block.length ≤ buffer.length then .ok (patch buffer first block)
  else .error .sliceOutOfRange

/-- `buffer[position] = value`. -/
def store (buffer : Bytes) (position : Nat) (value : UInt8) : Checked Bytes :=
  if position < buffer.length then .ok (patch buffer position [value])
  else .error .indexOutOfRange

/-- A run of single-byte stores. -/
def storeAll (buffer : Bytes) (writes : List (Nat × UInt8)) : Checked Bytes :=
  writes.foldlM (fun buffer write => store buffer write.1 write.2) buffer

/-- A block written through a raw pointer; nothing checks the bound, so an
overrun is a write to foreign memory. -/
def rawWrite (buffer : Bytes) (first : Nat) (block : Bytes) : Checked Bytes :=
  if first + block.length ≤ buffer.length then .ok (patch buffer first block)
  else .error .outOfBoundsWrite

/-- `minuend - subtrahend` on an unsigned machine word. -/
def subtract (minuend subtrahend : Nat) : Checked Nat :=
  if subtrahend ≤ minuend then .ok (minuend - subtrahend)
  else .error .arithmeticOverflow

/-- `first + second` on a 64-bit machine word. -/
def addUsize (first second : Nat) : Checked Nat :=
  if first + second < 2 ^ 64 then .ok (first + second)
  else .error .arithmeticOverflow

theorem index_eq_ok {bytes : Bytes} {position : Nat}
    (inside : position < bytes.length) :
    index bytes position = .ok (bytes.getD position 0) :=
  if_pos inside

theorem index_ok_iff {bytes : Bytes} {position : Nat} :
    (∃ byte, index bytes position = .ok byte) ↔ position < bytes.length := by
  rw [index]
  split <;> simp_all

theorem index_append {bytes : Bytes} {position : Nat}
    (inside : position < bytes.length) (following : Bytes) :
    index (bytes ++ following) position = index bytes position := by
  rw [index_eq_ok inside, index_eq_ok (by simp; omega),
    List.getD_append _ _ _ _ inside]

theorem range_ok_iff {bytes : Bytes} {first last : Nat} :
    (∃ part, range bytes first last = .ok part) ↔
      first ≤ last ∧ last ≤ bytes.length := by
  rw [range]
  split <;> simp_all

theorem map_eq_ok {ε α β : Type} {value : Except ε α} {change : α → β}
    {result : β} :
    value.map change = .ok result ↔
      ∃ input, value = .ok input ∧ change input = result := by
  cases value <;> simp [Except.map]

theorem map_ok_iff {ε α β : Type} {value : Except ε α} {change : α → β} :
    (∃ result, value.map change = .ok result) ↔
      ∃ result, value = .ok result := by
  cases value <;> simp [Except.map]

theorem range_eq_ok {bytes : Bytes} {first last : Nat}
    (ordered : first ≤ last) (inside : last ≤ bytes.length) :
    range bytes first last = .ok ((bytes.drop first).take (last - first)) :=
  if_pos ⟨ordered, inside⟩

theorem range_length {bytes part : Bytes} {first last : Nat}
    (cut : range bytes first last = .ok part) : part.length = last - first := by
  rw [range] at cut
  split at cut
  · cases cut
    simp
    omega
  · cases cut

theorem range_eq_error {bytes : Bytes} {first last : Nat}
    (outside : ¬ (first ≤ last ∧ last ≤ bytes.length)) :
    range bytes first last = .error .sliceOutOfRange :=
  if_neg outside

theorem range_to_end {bytes : Bytes} {first : Nat}
    (inside : first ≤ bytes.length) :
    range bytes first bytes.length = .ok (bytes.drop first) := by
  rw [range_eq_ok inside le_rfl, List.take_of_length_le (by simp)]

theorem subslice_eq_ok {slice : Slice UInt8} {first last : Nat}
    (ordered : first ≤ last) (inside : last ≤ slice.content.length) :
    subslice slice first last = .ok (slice.sub first last) :=
  if_pos ⟨ordered, inside⟩

theorem copyInto_eq_ok {buffer block : Bytes} {first : Nat}
    (fits : first + block.length ≤ buffer.length) :
    copyInto buffer first block = .ok (patch buffer first block) :=
  if_pos fits

/-- A block copied right behind a prefix extends that prefix. -/
theorem copyInto_append {written rest block : Bytes} {first : Nat}
    (position : written.length = first) (room : block.length ≤ rest.length) :
    copyInto (written ++ rest) first block =
      .ok ((written ++ block) ++ rest.drop block.length) := by
  subst position
  rw [copyInto_eq_ok (by simpa using room), patch_append]

theorem store_eq_ok {buffer : Bytes} {position : Nat} {value : UInt8}
    (inside : position < buffer.length) :
    store buffer position value = .ok (patch buffer position [value]) :=
  if_pos inside

theorem store_front {buffer after : Bytes} {position : Nat} {value : UInt8}
    (stored : store buffer position value = .ok after) {count : Nat}
    (inFront : count ≤ position) :
    after.take count = buffer.take count ∧ after.length = buffer.length := by
  rw [store] at stored
  split at stored
  · rename_i inside
    cases stored
    have frontLength : (buffer.take position).length = position := by
      simp
      omega
    refine ⟨?_, patch_length inside⟩
    rw [patch, List.append_assoc, List.take_append_of_le_length (by omega),
      List.take_take, Nat.min_eq_left inFront]
  · cases stored

theorem rawWrite_eq_ok {buffer block : Bytes} {first : Nat}
    (fits : first + block.length ≤ buffer.length) :
    rawWrite buffer first block = .ok (patch buffer first block) :=
  if_pos fits

theorem rawWrite_append {written rest block : Bytes} {first : Nat}
    (position : written.length = first) (room : block.length ≤ rest.length) :
    rawWrite (written ++ rest) first block =
      .ok ((written ++ block) ++ rest.drop block.length) := by
  subst position
  rw [rawWrite_eq_ok (by simpa using room), patch_append]

theorem storeAll_append {written rest block : Bytes} {first : Nat}
    (position : written.length = first) (room : block.length ≤ rest.length) :
    storeAll (written ++ rest)
        ((List.range' first block.length).zip block) =
      .ok ((written ++ block) ++ rest.drop block.length) := by
  subst position
  induction block generalizing written rest with
  | nil => simp [storeAll]
  | cons byte block ih =>
      simp only [List.length_cons] at room
      have later := @ih (written ++ [byte]) (rest.drop 1) (by simp; omega)
      simp only [List.length_append, List.length_cons, List.length_nil,
        List.drop_drop, Nat.zero_add] at later
      rw [List.length_cons, List.range'_succ, List.zip_cons_cons, storeAll,
        List.foldlM_cons, store_eq_ok (by simp; omega), ok_bind]
      change storeAll (patch (written ++ rest) written.length [byte]) _ = _
      rw [patch_append, List.length_singleton, later]
      simp [Nat.add_comm]

/-- Stores into a middle part leave what surrounds it. -/
theorem storeAll_middle {front middle back : Bytes}
    {writes : List (Nat × UInt8)}
    (inside : ∀ write ∈ writes, write.1 < middle.length) :
    storeAll (front ++ middle ++ back)
        (writes.map fun write => (front.length + write.1, write.2)) =
      (storeAll middle writes).map (front ++ · ++ back) := by
  induction writes generalizing middle with
  | nil => rfl
  | cons write writes ih =>
      have first := inside write (by simp)
      have stored : patch (front ++ middle ++ back) (front.length + write.1)
          [write.2] = front ++ patch middle write.1 [write.2] ++ back := by
        rw [patch, patch, List.append_assoc front middle back,
          List.take_length_add_append, List.take_append_of_le_length (by omega),
          Nat.add_assoc, List.drop_length_add_append,
          List.drop_append_of_le_length (by simp; omega)]
        simp
      have later := @ih (patch middle write.1 [write.2]) fun other member => by
        rw [patch_length first]
        exact inside other (by simp [member])
      rw [storeAll, storeAll, List.map_cons, List.foldlM_cons,
        List.foldlM_cons, store_eq_ok (by simp; omega), store_eq_ok first,
        ok_bind, ok_bind, stored]
      exact later

theorem subtract_eq_ok {minuend subtrahend : Nat}
    (ordered : subtrahend ≤ minuend) :
    subtract minuend subtrahend = .ok (minuend - subtrahend) :=
  if_pos ordered

theorem addUsize_eq_ok {first second : Nat} (fits : first + second < 2 ^ 64) :
    addUsize first second = .ok (first + second) :=
  if_pos fits

/-- Little-endian word of `width` bytes at `offset`; bytes that are missing
are left out. -/
def leWordAt (bytes : Bytes) (offset width : Nat) : Nat :=
  leNat ((bytes.drop offset).take width)

/-- Big-endian word of `width` bytes at `offset`. -/
def beWordAt (bytes : Bytes) (offset width : Nat) : Nat :=
  beNat ((bytes.drop offset).take width)

theorem leWordAt_lt (bytes : Bytes) (offset width : Nat) :
    leWordAt bytes offset width < 256 ^ width :=
  (leNat_lt _).trans_le (Nat.pow_le_pow_right (by decide) (by simp))

theorem beWordAt_lt (bytes : Bytes) (offset width : Nat) :
    beWordAt bytes offset width < 256 ^ width :=
  (beNat_lt _).trans_le (Nat.pow_le_pow_right (by decide) (by simp))

/-- Words in a common front are the same. -/
theorem beWordAt_congr {bytes other : Bytes} {offset width : Nat}
    (front : bytes.take (offset + width) = other.take (offset + width)) :
    beWordAt bytes offset width = beWordAt other offset width := by
  rw [beWordAt, beWordAt, List.take_drop, List.take_drop, front]

theorem beWordAt_skip {front : Bytes} {offset : Nat}
    (skips : front.length ≤ offset) (rest : Bytes) (width : Nat) :
    beWordAt (front ++ rest) offset width =
      beWordAt rest (offset - front.length) width := by
  rw [beWordAt, List.drop_append, List.drop_of_length_le skips]
  rfl

theorem beWordAt_eq_bytes {bytes : Bytes} {position width : Nat}
    (inside : position + width ≤ bytes.length) :
    beWordAt bytes position width =
      beNat ((List.range' position width).map (bytes.getD · 0)) := by
  refine congrArg beNat ?_
  induction width generalizing position with
  | zero => rfl
  | succ width ih =>
      have firstInside : position < bytes.length := by omega
      have first : bytes.getD position 0 = bytes[position] := by
        simp [List.getD, firstInside]
      rw [List.drop_eq_getElem_cons firstInside, List.take_succ_cons,
        ih (by omega), List.range'_succ, List.map_cons, first]

theorem beWordAt_beBytes {bytes : Bytes} {offset width value : Nat}
    (cut : (bytes.drop offset).take width = beBytes width value) :
    beWordAt bytes offset width = value % 256 ^ width := by
  rw [beWordAt, cut, beNat_beBytes]

theorem beBytes_beWordAt {bytes : Bytes} {offset width : Nat}
    (inside : offset + width ≤ bytes.length) :
    beBytes width (beWordAt bytes offset width) =
      (bytes.drop offset).take width := by
  have cutLength : ((bytes.drop offset).take width).length = width := by
    simp
    omega
  calc
    beBytes width (beWordAt bytes offset width)
      = beBytes ((bytes.drop offset).take width).length
          (beNat ((bytes.drop offset).take width)) := by
        rw [cutLength, beWordAt]
    _ = (bytes.drop offset).take width := beBytes_beNat _

theorem leWordAt_append {bytes : Bytes} {offset width : Nat}
    (inside : offset + width ≤ bytes.length) (following : Bytes) :
    leWordAt (bytes ++ following) offset width = leWordAt bytes offset width := by
  have dropped : (bytes ++ following).drop offset =
      bytes.drop offset ++ following :=
    List.drop_append_of_le_length (by omega)
  rw [leWordAt, dropped, List.take_append_of_le_length (by simp; omega)]
  rfl

theorem leWordAt_skip {block : Bytes} {offset : Nat}
    (skips : block.length ≤ offset) (rest : Bytes) (width : Nat) :
    leWordAt (block ++ rest) offset width =
      leWordAt rest (offset - block.length) width := by
  rw [leWordAt, List.drop_append, List.drop_of_length_le skips]
  rfl

@[simp]
theorem leWordAt_leBytes (width value : Nat) (rest : Bytes) :
    leWordAt (leBytes width value ++ rest) 0 width = value % 256 ^ width := by
  rw [leWordAt, List.drop_zero, List.take_left' (leBytes_length width value),
    leNat_leBytes]

end Checked
