import AndroidTether.RndisFraming

/-!
# RNDIS control messages

The control half of `rndis.rs`: the builders of INIT, QUERY, SET and KEEPALIVE,
which share one request counter, and the parsers of the three completions.
Every builder is one layout, a size check, the next request number and a run of
header words, at its own constants; every parser begins with the same checks.
-/

namespace AndroidTether

open ByteWords Checked

def rndisMsgInit : Nat := 0x00000002
def rndisMsgInitC : Nat := 0x80000002
def rndisMsgQuery : Nat := 0x00000004
def rndisMsgQueryC : Nat := 0x80000004
def rndisMsgSet : Nat := 0x00000005
def rndisMsgSetC : Nat := 0x80000005
def rndisMsgKeepalive : Nat := 0x00000008

def rndisStatusSuccess : Nat := 0x00000000

def oidGenCurrentPacketFilter : Nat := 0x0001010E
def oid8023PermanentAddress : Nat := 0x01010101
def oid8023CurrentAddress : Nat := 0x01010102

def rndisPacketTypeDirected : Nat := 0x00000001
def rndisPacketTypeMulticast : Nat := 0x00000002
def rndisPacketTypeAllMulticast : Nat := 0x00000004
def rndisPacketTypeBroadcast : Nat := 0x00000008

def rndisMajorVersion : Nat := 1
def rndisMinorVersion : Nat := 0
def rndisMaxTransferSize : Nat := 0x8000

def MacAddr.zero : MacAddr :=
  ⟨[0, 0, 0, 0, 0, 0], rfl⟩

structure RndisState where
  requestId : UInt32
  maxTransferSize : UInt32
  medium : UInt32
  macAddr : MacAddr
  linkUp : Bool
  deriving DecidableEq

def RndisState.default : RndisState where
  requestId := 0
  maxTransferSize := .ofNat rndisMaxTransferSize
  medium := 0
  macAddr := .zero
  linkUp := false

/-- `{value:#x}`. -/
def hexText (value : Nat) : String :=
  "0x" ++ String.ofList (Nat.toDigits 16 value)

/-- A run of `write_u32` calls. -/
def writeWords (buf : Bytes) (writes : List (Nat × Nat)) : Checked Bytes :=
  writes.foldlM (fun buf write => writeU32 buf write.1 write.2) buf

/-- What the builders of control messages share: the size check, the next
request number, the header words and the data behind them.  The result comes
with the buffer and the state afterwards. -/
def buildMessage (build : Build) (hdrSize : Nat)
    (words : UInt32 → List (Nat × Nat)) (data buf : Bytes)
    (state : RndisState) :
    Checked (Except TetherError Nat × Bytes × RndisState) := do
  let total := hdrSize + data.length
  if buf.length < total then
    return (.error (.bufferTooSmall total buf.length), buf, state)
  let requestId ← build.addU32 state.requestId.toNat 1
  let state := { state with requestId := .ofNat requestId }
  let buf ← writeWords buf (words state.requestId)
  let buf ← copyInto buf hdrSize data
  return (.ok total, buf, state)

def buildInit (build : Build) (buf : Bytes) (state : RndisState) :
    Checked (Except TetherError Nat × Bytes × RndisState) :=
  buildMessage build 24
    (fun requestId =>
      [(0, rndisMsgInit), (4, 24), (8, requestId.toNat),
        (12, rndisMajorVersion), (16, rndisMinorVersion),
        (20, rndisMaxTransferSize)])
    [] buf state

def buildQuery (build : Build) (buf : Bytes) (oid : Nat)
    (state : RndisState) :
    Checked (Except TetherError Nat × Bytes × RndisState) :=
  buildMessage build 28
    (fun requestId =>
      [(0, rndisMsgQuery), (4, 28), (8, requestId.toNat), (12, oid), (16, 0),
        (20, 20), (24, 0)])
    [] buf state

def buildSet (build : Build) (buf : Bytes) (oid : Nat) (data : Bytes)
    (state : RndisState) :
    Checked (Except TetherError Nat × Bytes × RndisState) :=
  buildMessage build 28
    (fun requestId =>
      [(0, rndisMsgSet), (4, (28 + data.length) % 2 ^ 32),
        (8, requestId.toNat), (12, oid), (16, data.length % 2 ^ 32), (20, 20),
        (24, 0)])
    data buf state

def buildKeepalive (build : Build) (buf : Bytes) (state : RndisState) :
    Checked (Except TetherError Nat × Bytes × RndisState) :=
  buildMessage build 12
    (fun requestId =>
      [(0, rndisMsgKeepalive), (4, 12), (8, requestId.toNat)])
    [] buf state

/-- The checks with which every completion parser begins: the length, the
message type and the status. -/
def checkCompletion (size msgType : Nat) (name : String) (buf : Bytes) :
    Checked (Except TetherError Unit) := do
  if buf.length < size then
    return .error (.bufferTooSmall size buf.length)
  let actual ← readU32 buf 0
  let status ← readU32 buf 12
  if actual ≠ msgType then
    return .error (.rndis ("expected " ++ name ++ ", got " ++ hexText actual))
  if status ≠ rndisStatusSuccess then
    return .error (.rndis (name ++ " status " ++ hexText status))
  return .ok ()

def parseInitCmplt (buf : Bytes) (state : RndisState) :
    Checked (Except TetherError Unit × RndisState) := do
  match ← checkCompletion 52 rndisMsgInitC "INIT_C" buf with
  | .error err => return (.error err, state)
  | .ok () =>
      let maxTransferSize ← readU32 buf 40
      let medium ← readU32 buf 28
      return (.ok (),
        { state with
          maxTransferSize := .ofNat maxTransferSize
          medium := .ofNat medium })

/-- `parse_query_cmplt`: the result together with `data_out` afterwards. -/
def parseQueryCmplt (buf dataOut : Bytes) :
    Checked (Except TetherError Nat × Bytes) := do
  match ← checkCompletion 24 rndisMsgQueryC "QUERY_C" buf with
  | .error err => return (.error err, dataOut)
  | .ok () =>
      let len ← readU32 buf 16
      let offset ← readU32 buf 20
      if 0 < len then
        let dataStart := 8 + offset
        let dataEnd := dataStart + len
        if dataEnd > buf.length then
          return (.error (.bufferTooSmall dataEnd buf.length), dataOut)
        let toCopy := min len dataOut.length
        let info ← range buf dataStart (dataStart + toCopy)
        let dataOut ← copyInto dataOut 0 info
        return (.ok toCopy, dataOut)
      else
        return (.ok 0, dataOut)

def parseSetCmplt (buf : Bytes) : Checked (Except TetherError Unit) :=
  checkCompletion 16 rndisMsgSetC "SET_C" buf

/-- Words behind one another. -/
def wordBytes (values : List Nat) : Bytes :=
  values.flatMap (leBytes 4)

theorem wordBytes_cons (value : Nat) (values : List Nat) :
    wordBytes (value :: values) = leBytes 4 value ++ wordBytes values :=
  List.flatMap_cons

@[simp]
theorem wordBytes_length (values : List Nat) :
    (wordBytes values).length = 4 * values.length := by
  induction values with
  | nil => rfl
  | cons value values ih =>
      rw [wordBytes_cons, List.length_append, leBytes_length, ih,
        List.length_cons]
      ring

theorem leWordAt_wordBytes {values : List Nat} {place : Nat}
    (inside : place < values.length) (rest : Bytes) :
    leWordAt (wordBytes values ++ rest) (4 * place) 4 =
      values[place] % 2 ^ 32 := by
  induction values generalizing place with
  | nil => simp at inside
  | cons value values ih =>
      rw [wordBytes_cons, List.append_assoc]
      cases place with
      | zero => exact leWordAt_leBytes 4 value _
      | succ place =>
          rw [leWordAt_skip (by rw [leBytes_length]; omega), leBytes_length,
            show 4 * (place + 1) - 4 = 4 * place by omega]
          exact ih (by simpa using inside)

theorem writeWords_append {written rest : Bytes} {values : List Nat}
    {first : Nat} (position : written.length = first)
    (room : 4 * values.length ≤ rest.length) :
    writeWords (written ++ rest)
        ((List.range' first values.length 4).zip values) =
      .ok ((written ++ wordBytes values) ++ rest.drop (4 * values.length)) := by
  induction values generalizing written rest first with
  | nil => simp [writeWords, wordBytes]
  | cons value values ih =>
      rw [List.length_cons] at room
      have later := @ih (written ++ leBytes 4 value) (rest.drop 4) (first + 4)
        (by simp [position]) (by simp; omega)
      rw [List.length_cons, List.range'_succ, List.zip_cons_cons, writeWords,
        List.foldlM_cons, writeU32_append value position (by omega), ok_bind]
      refine later.trans ?_
      rw [List.drop_drop, wordBytes_cons, List.append_assoc written,
        show 4 + 4 * values.length = 4 * (values.length + 1) by ring]

section Builders

variable {build : Build} {hdrSize : Nat} {words : UInt32 → List (Nat × Nat)}
  {data buf : Bytes} {state : RndisState}

theorem buildMessage_small (small : buf.length < hdrSize + data.length) :
    buildMessage build hdrSize words data buf state =
      .ok (.error (.bufferTooSmall (hdrSize + data.length) buf.length), buf,
        state) := by
  simp [buildMessage, small]

/-- A builder whose header words stand one behind the other leaves the message
in front of what the buffer held, unless the request counter overflows. -/
theorem buildMessage_eq {values : UInt32 → List Nat}
    (consecutive : ∀ requestId, words requestId =
      (List.range' 0 (values requestId).length 4).zip (values requestId))
    (header : ∀ requestId, 4 * (values requestId).length = hdrSize)
    (fits : hdrSize + data.length ≤ buf.length) :
    buildMessage build hdrSize words data buf state = (do
      let requestId ← build.addU32 state.requestId.toNat 1
      return (.ok (hdrSize + data.length),
        wordBytes (values (.ofNat requestId)) ++ data ++
          buf.drop (hdrSize + data.length),
        { state with requestId := .ofNat requestId })) := by
  rw [buildMessage, if_neg (not_lt.mpr fits)]
  cases build.addU32 state.requestId.toNat 1 with
  | error panic => rfl
  | ok requestId =>
      have headerEq := header (.ofNat requestId)
      have written := @writeWords_append [] buf (values (.ofNat requestId)) 0
        rfl (by omega)
      simp only [List.nil_append, headerEq] at written
      simp only [ok_bind, consecutive, written]
      rw [copyInto_append (by simp [headerEq]) (by simp; omega), ok_bind,
        List.drop_drop]

end Builders

/-- A successful completion of the given kind, as the parsers check it. -/
def IsCompletion (size msgType : Nat) (buf : Bytes) : Prop :=
  size ≤ buf.length ∧ leWordAt buf 0 4 = msgType ∧
    leWordAt buf 12 4 = rndisStatusSuccess

instance (size msgType : Nat) (buf : Bytes) :
    Decidable (IsCompletion size msgType buf) :=
  inferInstanceAs (Decidable (_ ∧ _ ∧ _))

section Completions

variable {size msgType : Nat} {name : String} {buf : Bytes}

theorem checkCompletion_ok (completes : IsCompletion size msgType buf)
    (header : 16 ≤ size) :
    checkCompletion size msgType name buf = .ok (.ok ()) := by
  obtain ⟨long, typeEq, statusEq⟩ := completes
  rw [checkCompletion, if_neg (not_lt.mpr long), readU32_eq_ok (by omega),
    ok_bind, readU32_eq_ok (by omega), ok_bind, if_neg (not_not.mpr typeEq),
    if_neg (not_not.mpr statusEq)]
  rfl

theorem checkCompletion_error (rejected : ¬ IsCompletion size msgType buf)
    (header : 16 ≤ size) :
    ∃ err, checkCompletion size msgType name buf = .ok (.error err) := by
  rw [checkCompletion]
  split
  case isTrue => exact ⟨_, rfl⟩
  case isFalse long =>
    rw [readU32_eq_ok (by omega), ok_bind, readU32_eq_ok (by omega), ok_bind]
    split
    case isTrue => exact ⟨_, rfl⟩
    case isFalse typeEq =>
      split
      case isTrue => exact ⟨_, rfl⟩
      case isFalse statusEq =>
        exact absurd ⟨not_lt.mp long, not_not.mp typeEq, not_not.mp statusEq⟩
          rejected

end Completions

/-- The completions that `parse_init_cmplt` accepts. -/
def IsInitCmplt (buf : Bytes) : Prop :=
  IsCompletion 52 rndisMsgInitC buf

/-- The number of information bytes that a query completion announces. -/
def informationLength (buf : Bytes) : Nat :=
  leWordAt buf 16 4

/-- The information bytes of a query completion. -/
def information (buf : Bytes) : Bytes :=
  (buf.drop (8 + leWordAt buf 20 4)).take (informationLength buf)

/-- The completions that `parse_query_cmplt` accepts: the information bytes
they announce lie inside. -/
def IsQueryCmplt (buf : Bytes) : Prop :=
  IsCompletion 24 rndisMsgQueryC buf ∧
    (informationLength buf = 0 ∨
      8 + leWordAt buf 20 4 + informationLength buf ≤ buf.length)

/-- The completions that `parse_set_cmplt` accepts. -/
def IsSetCmplt (buf : Bytes) : Prop :=
  IsCompletion 16 rndisMsgSetC buf

instance : DecidablePred IsInitCmplt :=
  fun buf => inferInstanceAs (Decidable (IsCompletion 52 rndisMsgInitC buf))

instance : DecidablePred IsQueryCmplt :=
  fun _ => inferInstanceAs (Decidable (_ ∧ _))

instance : DecidablePred IsSetCmplt :=
  fun buf => inferInstanceAs (Decidable (IsCompletion 16 rndisMsgSetC buf))

theorem parseInitCmplt_ok {buf : Bytes} (completes : IsInitCmplt buf)
    (state : RndisState) :
    parseInitCmplt buf state =
      .ok (.ok (),
        { state with
          maxTransferSize := .ofNat (leWordAt buf 40 4)
          medium := .ofNat (leWordAt buf 28 4) }) := by
  have long := completes.1
  rw [parseInitCmplt, checkCompletion_ok completes (by omega), ok_bind]
  simp only
  rw [readU32_eq_ok (by omega), ok_bind, readU32_eq_ok (by omega), ok_bind]
  rfl

theorem parseInitCmplt_error {buf : Bytes} (rejected : ¬ IsInitCmplt buf)
    (state : RndisState) :
    ∃ err, parseInitCmplt buf state = .ok (.error err, state) := by
  obtain ⟨err, checked⟩ := checkCompletion_error rejected (by omega)
  exact ⟨err, by rw [parseInitCmplt, checked]; rfl⟩

theorem IsQueryCmplt.information_length {buf : Bytes}
    (completes : IsQueryCmplt buf) :
    (information buf).length = informationLength buf := by
  have inside := completes.2
  rw [information, List.length_take, List.length_drop]
  omega

theorem parseQueryCmplt_ok {buf : Bytes} (completes : IsQueryCmplt buf)
    (dataOut : Bytes) :
    parseQueryCmplt buf dataOut =
      .ok (.ok (min (informationLength buf) dataOut.length),
        (information buf).take dataOut.length ++
          dataOut.drop (min (informationLength buf) dataOut.length)) := by
  obtain ⟨checked, inside⟩ := completes
  have long := checked.1
  rw [parseQueryCmplt, checkCompletion_ok checked (by omega), ok_bind]
  simp only
  rw [readU32_eq_ok (by omega), ok_bind, readU32_eq_ok (by omega), ok_bind]
  rw [← informationLength]
  by_cases empty : informationLength buf = 0
  · simp [empty, information]
  · have bounded := inside.resolve_left empty
    have copied : (((buf.drop (8 + leWordAt buf 20 4)).take
        (min (informationLength buf) dataOut.length))).length =
        min (informationLength buf) dataOut.length := by
      simp
      omega
    rw [if_pos (by omega), if_neg (by omega),
      range_eq_ok (by omega) (by omega), ok_bind, Nat.add_sub_cancel_left,
      copyInto_eq_ok (by omega), ok_bind, patch, copied, information,
      List.take_take, Nat.zero_add, Nat.min_comm dataOut.length]
    rfl

theorem parseQueryCmplt_error {buf : Bytes} (rejected : ¬ IsQueryCmplt buf)
    (dataOut : Bytes) :
    ∃ err, parseQueryCmplt buf dataOut = .ok (.error err, dataOut) := by
  rw [parseQueryCmplt]
  by_cases checked : IsCompletion 24 rndisMsgQueryC buf
  · have outside : ¬ (informationLength buf = 0 ∨
        8 + leWordAt buf 20 4 + informationLength buf ≤ buf.length) :=
      fun inside => rejected ⟨checked, inside⟩
    have long := checked.1
    rw [checkCompletion_ok checked (by omega), ok_bind]
    simp only
    rw [readU32_eq_ok (by omega), ok_bind, readU32_eq_ok (by omega), ok_bind]
    rw [← informationLength, if_pos (by omega), if_pos (by omega)]
    exact ⟨_, rfl⟩
  · obtain ⟨err, checkedEq⟩ := @checkCompletion_error 24 rndisMsgQueryC
      "QUERY_C" buf checked (by omega)
    exact ⟨err, by rw [checkedEq]; rfl⟩

end AndroidTether
