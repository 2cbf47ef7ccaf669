import AndroidTether.RndisControl

/-!
# Completions from a hostile device

Offset and length of the information in a query completion are words of the
device's choice.  The parsers never leave the reply, whatever it is, and a
failed parser changes nothing; but unlike `RndisPacketIter`, which only takes
data offsets from 36 on, `parse_query_cmplt` lets the information begin inside
the header.
-/

namespace AndroidTether

open ByteWords Checked

/-- `parse_query_cmplt` with every sum formed on a 64-bit `usize`. -/
def parseQueryCmplt64 (buf dataOut : Bytes) :
    Checked (Except TetherError Nat × Bytes) := do
  match ← checkCompletion 24 rndisMsgQueryC "QUERY_C" buf with
  | .error err => return (.error err, dataOut)
  | .ok () =>
      let len ← readU32 buf 16
      let offset ← readU32 buf 20
      if 0 < len then
        let dataStart ← addUsize 8 offset
        let dataEnd ← addUsize dataStart len
        if dataEnd > buf.length then
          return (.error (.bufferTooSmall dataEnd buf.length), dataOut)
        let toCopy := min len dataOut.length
        let copyEnd ← addUsize dataStart toCopy
        let info ← range buf dataStart copyEnd
        let dataOut ← copyInto dataOut 0 info
        return (.ok toCopy, dataOut)
      else
        return (.ok 0, dataOut)

/-- None of the sums overflows. -/
theorem parseQueryCmplt64_eq (buf dataOut : Bytes) :
    parseQueryCmplt64 buf dataOut = parseQueryCmplt buf dataOut := by
  rw [parseQueryCmplt64, parseQueryCmplt]
  by_cases checked : IsCompletion 24 rndisMsgQueryC buf
  · have long := checked.1
    have lengthBound := leWordAt_lt buf 16 4
    have offsetBound := leWordAt_lt buf 20 4
    have copyBound := Nat.min_le_left (leWordAt buf 16 4) dataOut.length
    rw [checkCompletion_ok checked (by omega), ok_bind, ok_bind]
    simp only
    rw [readU32_eq_ok (by omega), ok_bind, ok_bind, readU32_eq_ok (by omega),
      ok_bind, ok_bind, addUsize_eq_ok (by omega), ok_bind,
      addUsize_eq_ok (by omega), ok_bind, addUsize_eq_ok (by omega), ok_bind]
  · obtain ⟨err, checkedEq⟩ := @checkCompletion_error 24 rndisMsgQueryC
      "QUERY_C" buf checked (by omega)
    rw [checkedEq]
    rfl

/-- Where the information of a query completion begins: `DataOffset` counts
from the ninth byte. -/
def informationStart (buf : Bytes) : Nat :=
  8 + leWordAt buf 20 4

/-- An accepted query completion, with the output buffer before and after. -/
structure InformationCopied (buf dataOut : Bytes) (count : Nat)
    (after : Bytes) : Prop where
  count_eq : count = min (informationLength buf) dataOut.length
  copied : after.take count = (buf.drop (informationStart buf)).take count
  kept : after.drop count = dataOut.drop count
  length_eq : after.length = dataOut.length
  inside : 0 < count → informationStart buf + count ≤ buf.length
  behindHeader : 0 < count → 24 ≤ informationStart buf

/-- The three parsers return, and a failed one changes nothing. -/
structure ParsersSafe (buf dataOut : Bytes) (state : RndisState) : Prop where
  init : Succeeds (parseInitCmplt buf state) fun (result, after) =>
    ∀ err, result = .error err → after = state
  query : Succeeds (parseQueryCmplt64 buf dataOut) fun (result, after) =>
    match result with
    | .error _ => after = dataOut
    | .ok count => InformationCopied buf dataOut count after
  set : ∃ result, parseSetCmplt buf = .ok result

theorem parseInitCmplt_safe (buf : Bytes) (state : RndisState) :
    Succeeds (parseInitCmplt buf state) fun (result, after) =>
      ∀ err, result = .error err → after = state := by
  by_cases completes : IsInitCmplt buf
  · rw [parseInitCmplt_ok completes]
    exact succeeds_ok fun _ failed => nomatch failed
  · obtain ⟨err, failed⟩ := parseInitCmplt_error completes state
    rw [failed]
    exact succeeds_ok fun _ _ => rfl

theorem parseSetCmplt_returns (buf : Bytes) :
    ∃ result, parseSetCmplt buf = .ok result := by
  rw [parseSetCmplt]
  by_cases completes : IsSetCmplt buf
  · exact ⟨_, checkCompletion_ok completes (by omega)⟩
  · obtain ⟨err, failed⟩ := @checkCompletion_error 16 rndisMsgSetC "SET_C" buf
      completes (by omega)
    exact ⟨_, failed⟩

theorem informationCopied_iff {buf : Bytes} (completes : IsQueryCmplt buf)
    (dataOut : Bytes) :
    InformationCopied buf dataOut
        (min (informationLength buf) dataOut.length)
        ((information buf).take dataOut.length ++
          dataOut.drop (min (informationLength buf) dataOut.length)) ↔
      (0 < min (informationLength buf) dataOut.length →
        24 ≤ informationStart buf) := by
  have infoLength := completes.information_length
  have copiedLength : ((information buf).take dataOut.length).length =
      min (informationLength buf) dataOut.length := by
    rw [List.length_take, infoLength, Nat.min_comm]
  refine ⟨InformationCopied.behindHeader, fun behindHeader => ?_⟩
  exact
    { count_eq := rfl
      copied := by
        rw [List.take_left' copiedLength, information, List.take_take,
          Nat.min_comm]
        rfl
      kept := List.drop_left' copiedLength
      length_eq := by
        rw [List.length_append, copiedLength, List.length_drop]
        omega
      inside := fun some => by
        have inside := completes.2
        rw [informationStart]
        omega
      behindHeader := behindHeader }

/-- The parsers are safe except for information that is taken from inside the
header. -/
theorem parsersSafe_iff (buf dataOut : Bytes) (state : RndisState) :
    ParsersSafe buf dataOut state ↔
      (IsQueryCmplt buf → 0 < informationLength buf → 0 < dataOut.length →
        16 ≤ leWordAt buf 20 4) := by
  by_cases completes : IsQueryCmplt buf
  · have copied := informationCopied_iff completes dataOut
    have queryEq := parseQueryCmplt64_eq buf dataOut
    rw [parseQueryCmplt_ok completes] at queryEq
    rw [informationStart] at copied
    constructor
    · rintro ⟨-, ⟨outcome, returned, answered⟩, -⟩ - announced room
      obtain rfl := Except.ok.inj (queryEq.symm.trans returned)
      have behindHeader := copied.mp answered (by omega)
      omega
    · intro offsets
      have behindHeader := copied.mpr fun some => by
        have := offsets completes (by omega) (by omega)
        omega
      exact ⟨parseInitCmplt_safe buf state, ⟨_, queryEq, behindHeader⟩,
        parseSetCmplt_returns buf⟩
  · obtain ⟨err, failed⟩ := parseQueryCmplt_error completes dataOut
    have queryEq := (parseQueryCmplt64_eq buf dataOut).trans failed
    refine ⟨fun _ accepted => absurd accepted completes, fun _ => ?_⟩
    exact ⟨parseInitCmplt_safe buf state, ⟨_, queryEq, rfl⟩,
      parseSetCmplt_returns buf⟩

/-- A successful completion that announces four bytes at offset zero, where
its own request number is. -/
def headerCompletion : Bytes :=
  wordBytes [rndisMsgQueryC, 24, 1, rndisStatusSuccess, 4, 0]

/-- The request number is handed out as information. -/
theorem headerCompletion_copied :
    parseQueryCmplt64 headerCompletion [0, 0, 0, 0] =
        .ok (.ok 4, [1, 0, 0, 0]) ∧
      ¬ ParsersSafe headerCompletion [0, 0, 0, 0] .default := by
  have copied : parseQueryCmplt64 headerCompletion [0, 0, 0, 0] =
      .ok (.ok 4, [1, 0, 0, 0]) := by
    decide
  refine ⟨copied, fun safe => ?_⟩
  obtain ⟨outcome, returned, answered⟩ := safe.query
  obtain rfl := Except.ok.inj (copied.symm.trans returned)
  exact absurd (answered.behindHeader (by decide)) (by decide)

end AndroidTether
