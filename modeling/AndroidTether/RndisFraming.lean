import AndroidTether.NetTypes

/-!
# RNDIS bulk framing

The encoder `build_data_packet` and the decoder `RndisPacketIter` of
`rndis.rs`.  A bulk transfer is a run of messages that announce their length
in the little-endian word at offset 4; the iterator hands out the data part of
every data packet among them.  The main lemma of this file turns the loop into
a monadic fold over the slices that the length words cut out.
-/

namespace AndroidTether

open ByteWords Checked

def rndisMsgPacket : Nat := 0x00000001

/-- `read_u32`: the little-endian word at `offset`. -/
def readU32 (buf : Bytes) (offset : Nat) : Checked Nat := do
  let word ← range buf offset (offset + 4)
  return leNat word

/-- `write_u32`. -/
def writeU32 (buf : Bytes) (offset val : Nat) : Checked Bytes :=
  copyInto buf offset (leBytes 4 val)

/-- `build_data_packet`: the result together with the buffer afterwards. -/
def buildDataPacket (buf ethFrame : Bytes) :
    Checked (Except TetherError Nat × Bytes) := do
  let hdrSize := 44
  let total := hdrSize + ethFrame.length
  if buf.length < total then
    return (.error (.bufferTooSmall total buf.length), buf)
  let buf ← writeU32 buf 0 rndisMsgPacket
  let buf ← writeU32 buf 4 (total % 2 ^ 32)
  let buf ← writeU32 buf 8 36
  let buf ← writeU32 buf 12 (ethFrame.length % 2 ^ 32)
  let buf ← writeU32 buf 16 0
  let buf ← writeU32 buf 20 0
  let buf ← writeU32 buf 24 0
  let buf ← writeU32 buf 28 0
  let buf ← writeU32 buf 32 0
  let buf ← writeU32 buf 36 0
  let buf ← writeU32 buf 40 0
  let buf ← copyInto buf hdrSize ethFrame
  return (.ok total, buf)

/-- The loop body of `RndisPacketIter::next` behind the slicing of one
message; `none` is a `continue`. -/
def dataPacket (build : Build) (pktData : Slice UInt8) :
    Checked (Option (Slice UInt8)) := do
  if pktData.content.length < 8 then return none
  let dpMsgType ← readU32 pktData.content 0
  if dpMsgType ≠ rndisMsgPacket then return none
  if pktData.content.length < 44 then return none
  let dpDataOffset ← readU32 pktData.content 8
  let dpDataLen ← readU32 pktData.content 12
  if dpDataOffset < 36 ∨ dpDataLen = 0 then return none
  -- the sum is formed in `u32` and widened afterwards
  let dataStart ← build.addU32 8 dpDataOffset
  let dataEnd := dataStart + dpDataLen
  if dataEnd > pktData.content.length then return none
  let frame ← subslice pktData dataStart dataEnd
  return some frame

structure RndisPacketIter where
  data : Bytes
  offset : Nat

namespace RndisPacketIter

def new (data : Bytes) : RndisPacketIter :=
  ⟨data, 0⟩

/-- `RndisPacketIter::next`: the slice handed out and the iterator after the
call. -/
def next (build : Build) (iter : RndisPacketIter) :
    Checked (Option (Slice UInt8) × RndisPacketIter) :=
  if iter.offset + 8 > iter.data.length then .ok (none, iter)
  else do
    let msgLen ← readU32 iter.data (iter.offset + 4)
    if _stops : msgLen = 0 ∨ iter.offset + msgLen > iter.data.length then
      return (none, iter)
    else
      let pktData ←
        subslice (.whole iter.data) iter.offset (iter.offset + msgLen)
      match ← dataPacket build pktData with
      | none => next build ⟨iter.data, iter.offset + msgLen⟩
      | some frame => return (some frame, ⟨iter.data, iter.offset + msgLen⟩)
termination_by iter.data.length - iter.offset
decreasing_by omega

end RndisPacketIter

theorem readU32_eq_ok {buf : Bytes} {offset : Nat}
    (inside : offset + 4 ≤ buf.length) :
    readU32 buf offset = .ok (leWordAt buf offset 4) := by
  rw [readU32, range_eq_ok (by omega) inside]
  simp [leWordAt]

theorem writeU32_append {written rest : Bytes} {offset : Nat} (val : Nat)
    (position : written.length = offset) (room : 4 ≤ rest.length) :
    writeU32 (written ++ rest) offset val =
      .ok ((written ++ leBytes 4 val) ++ rest.drop 4) := by
  rw [writeU32, copyInto_append position (by simpa using room), leBytes_length]

/-- The eleven header words that precede the frame in a data packet. -/
def dataPacketHeader (frameLength : Nat) : Bytes :=
  leBytes 4 rndisMsgPacket ++ leBytes 4 ((44 + frameLength) % 2 ^ 32) ++
    leBytes 4 36 ++ leBytes 4 (frameLength % 2 ^ 32) ++ leBytes 4 0 ++
    leBytes 4 0 ++ leBytes 4 0 ++ leBytes 4 0 ++ leBytes 4 0 ++ leBytes 4 0 ++
    leBytes 4 0

@[simp]
theorem dataPacketHeader_length (frameLength : Nat) :
    (dataPacketHeader frameLength).length = 44 := by
  simp [dataPacketHeader]

theorem buildDataPacket_small {buf ethFrame : Bytes}
    (small : buf.length < 44 + ethFrame.length) :
    buildDataPacket buf ethFrame =
      .ok (.error (.bufferTooSmall (44 + ethFrame.length) buf.length), buf) := by
  simp [buildDataPacket, small]

/-- A buffer that is large enough ends up holding the header, the frame and
its own old bytes behind them. -/
theorem buildDataPacket_eq {buf ethFrame : Bytes}
    (fits : 44 + ethFrame.length ≤ buf.length) :
    buildDataPacket buf ethFrame =
      .ok (.ok (44 + ethFrame.length),
        dataPacketHeader ethFrame.length ++ ethFrame ++
          buf.drop (44 + ethFrame.length)) := by
  have word (written rest : Bytes) (offset val : Nat)
      (position : written.length = offset) (room : 4 ≤ rest.length) :=
    @writeU32_append written rest offset val position room
  have first := word [] buf 0 rndisMsgPacket rfl (by omega)
  simp only [List.nil_append] at first
  simp only [buildDataPacket, not_lt.mpr fits, if_false, first, ok_bind]
  rw [word _ _ 4 _ (by simp) (by simp; omega), ok_bind,
    word _ _ 8 _ (by simp) (by simp; omega), ok_bind,
    word _ _ 12 _ (by simp) (by simp; omega), ok_bind,
    word _ _ 16 _ (by simp) (by simp; omega), ok_bind,
    word _ _ 20 _ (by simp) (by simp; omega), ok_bind,
    word _ _ 24 _ (by simp) (by simp; omega), ok_bind,
    word _ _ 28 _ (by simp) (by simp; omega), ok_bind,
    word _ _ 32 _ (by simp) (by simp; omega), ok_bind,
    word _ _ 36 _ (by simp) (by simp; omega), ok_bind,
    word _ _ 40 _ (by simp) (by simp; omega), ok_bind]
  rw [copyInto_append (by simp) (by simp; omega), ok_bind]
  simp only [dataPacketHeader, List.drop_drop]
  rfl

/-- How RNDIS cuts a bulk transfer: eight header bytes, the length in the
second word, and a stop at a zero length or at a message that is cut off. -/
def rndisDelimiter : Delimiter UInt8 where
  size input :=
    if input.length < 8 then none
    else if leWordAt input 4 4 = 0 ∨ input.length < leWordAt input 4 4 then none
    else some (leWordAt input 4 4)
  size_pos := by
    intro input length sizeEq
    split at sizeEq
    · cases sizeEq
    · split at sizeEq
      · cases sizeEq
      · simp only [Option.some.injEq] at sizeEq
        omega
  size_le := by
    intro input length sizeEq
    split at sizeEq
    · cases sizeEq
    · split at sizeEq
      · cases sizeEq
      · simp only [Option.some.injEq] at sizeEq
        omega

theorem rndisDelimiter_size_some {input : Bytes} {length : Nat} :
    rndisDelimiter.size input = some length ↔
      8 ≤ input.length ∧ leWordAt input 4 4 = length ∧ 0 < length ∧
        length ≤ input.length := by
  simp only [rndisDelimiter]
  split
  · simp
    omega
  · split
    · simp
      omega
    · simp
      omega

/-- The messages of a bulk transfer with their positions. -/
def messages (data : Bytes) : List (Slice UInt8) :=
  rndisDelimiter.slices 0 data

theorem leWordAt_drop (bytes : Bytes) (first offset width : Nat) :
    leWordAt (bytes.drop first) offset width =
      leWordAt bytes (first + offset) width := by
  simp [leWordAt]

namespace RndisPacketIter

/-- The part of the transfer that the iterator has not consumed. -/
def rest (iter : RndisPacketIter) : Bytes :=
  iter.data.drop iter.offset

theorem next_of_none (build : Build) {iter : RndisPacketIter}
    (stops : rndisDelimiter.size iter.rest = none) :
    iter.next build = .ok (none, iter) := by
  rw [next]
  by_cases short : iter.offset + 8 > iter.data.length
  · simp [short]
  · have lengthWord := leWordAt_drop iter.data iter.offset 4 4
    simp only [rndisDelimiter, rest, lengthWord, List.length_drop] at stops
    rw [if_neg (by omega)] at stops
    rw [if_neg short, readU32_eq_ok (by omega), ok_bind, dif_pos]
    · rfl
    · split at stops
      · omega
      · cases stops

theorem next_of_some (build : Build) {iter : RndisPacketIter} {length : Nat}
    (sizeEq : rndisDelimiter.size iter.rest = some length) :
    iter.next build = (do
      match ← dataPacket build ⟨iter.offset, iter.rest.take length⟩ with
      | none => next build ⟨iter.data, iter.offset + length⟩
      | some frame => return (some frame, ⟨iter.data, iter.offset + length⟩)) := by
  obtain ⟨long, lengthEq, positive, inside⟩ :=
    rndisDelimiter_size_some.mp sizeEq
  simp only [rest, List.length_drop] at long inside
  rw [rest, leWordAt_drop] at lengthEq
  rw [next, if_neg (by omega), readU32_eq_ok (by omega), ok_bind, lengthEq,
    dif_neg (by omega), subslice_eq_ok (by omega) (by simp [Slice.whole]; omega)]
  simp [Slice.sub, Slice.whole, rest]

theorem rest_advance (iter : RndisPacketIter) (length : Nat) :
    rest ⟨iter.data, iter.offset + length⟩ = iter.rest.drop length := by
  simp [rest]

/-- A call that hands out a frame has moved forward over the same data. -/
theorem next_advances {build : Build} {iter after : RndisPacketIter}
    {frame : Slice UInt8}
    (handed : iter.next build = .ok (some frame, after)) :
    after.data = iter.data ∧ iter.offset < after.offset ∧
      after.offset ≤ iter.data.length := by
  induction inputEq : iter.rest using rndisDelimiter.item_induction
      generalizing iter with
  | stop input stops =>
      subst inputEq
      simp [next_of_none build stops] at handed
  | item input length sizeEq ih =>
      subst inputEq
      obtain ⟨-, -, positive, inside⟩ := rndisDelimiter_size_some.mp sizeEq
      simp only [rest, List.length_drop] at inside
      rw [next_of_some build sizeEq, bind_eq_ok] at handed
      obtain ⟨packet, -, handed⟩ := handed
      cases packet with
      | none =>
          obtain ⟨dataEq, later, bounded⟩ := ih handed (rest_advance iter length)
          simp only at dataEq later bounded
          exact ⟨dataEq, by omega, bounded⟩
      | some frame =>
          simp only [pure_eq_ok, Except.ok.injEq, Prod.mk.injEq] at handed
          obtain ⟨-, rfl⟩ := handed
          exact ⟨rfl, by simp; omega, by simp; omega⟩

/-- `Iterator::for_each` with a callback that updates a state and may
panic. -/
def forEach {σ : Type} (build : Build) (onFrame : σ → Slice UInt8 → Checked σ)
    (state : σ) (iter : RndisPacketIter) : Checked σ :=
  match _handed : iter.next build with
  | .error panic => .error panic
  | .ok (none, _) => .ok state
  | .ok (some frame, after) => do
      let state ← onFrame state frame
      forEach build onFrame state after
termination_by iter.data.length - iter.offset
decreasing_by
  have advances := next_advances _handed
  rw [advances.1]
  omega

/-- What one message contributes to an iteration. -/
def visit {σ : Type} (build : Build) (onFrame : σ → Slice UInt8 → Checked σ)
    (state : σ) (message : Slice UInt8) : Checked σ := do
  match ← dataPacket build message with
  | none => return state
  | some frame => onFrame state frame

theorem forEach_of_next {σ : Type} (build : Build)
    (onFrame : σ → Slice UInt8 → Checked σ) (state : σ)
    (iter : RndisPacketIter) :
    forEach build onFrame state iter = (do
      match ← iter.next build with
      | (none, _) => return state
      | (some frame, after) => do
          let state ← onFrame state frame
          forEach build onFrame state after) := by
  rw [forEach]
  split <;> simp_all

/-- Iterating over a transfer is a fold over the messages it is cut into. -/
theorem forEach_eq_foldlM {σ : Type} (build : Build)
    (onFrame : σ → Slice UInt8 → Checked σ) (state : σ)
    (iter : RndisPacketIter) :
    forEach build onFrame state iter =
      (rndisDelimiter.slices iter.offset iter.rest).foldlM
        (visit build onFrame) state := by
  induction inputEq : iter.rest using rndisDelimiter.item_induction
      generalizing iter state with
  | stop input stops =>
      subst inputEq
      rw [forEach_of_next, next_of_none build stops,
        Delimiter.slices_of_none stops]
      rfl
  | item input length sizeEq ih =>
      subst inputEq
      have advance := rest_advance iter length
      rw [Delimiter.slices_of_some sizeEq, List.foldlM_cons, forEach_of_next,
        next_of_some build sizeEq]
      simp only [visit]
      cases dataPacket build ⟨iter.offset, iter.rest.take length⟩ with
      | error panic => rfl
      | ok packet =>
          cases packet with
          | none =>
              have later := ih state ⟨iter.data, iter.offset + length⟩ advance
              rw [forEach_of_next] at later
              simpa using later
          | some frame =>
              simp only [ok_bind, pure_eq_ok]
              cases onFrame state frame with
              | error panic => rfl
              | ok state =>
                  simpa using
                    ih state ⟨iter.data, iter.offset + length⟩ advance

end RndisPacketIter

/-- Iterating `RndisPacketIter` over a received buffer to exhaustion. -/
def packetFrames (build : Build) (data : Bytes) :
    Checked (List (Slice UInt8)) :=
  RndisPacketIter.forEach build (fun frames frame => .ok (frames ++ [frame])) []
    (.new data)

theorem forEach_new {σ : Type} (build : Build)
    (onFrame : σ → Slice UInt8 → Checked σ) (state : σ) (data : Bytes) :
    RndisPacketIter.forEach build onFrame state (.new data) =
      (messages data).foldlM (RndisPacketIter.visit build onFrame) state := by
  rw [RndisPacketIter.forEach_eq_foldlM]
  simp [RndisPacketIter.new, RndisPacketIter.rest, messages]

/-- The frames an iteration hands out, up to its end or to a panic of the
iterator itself. -/
def handedFrom (build : Build) : List (Slice UInt8) → List (Slice UInt8)
  | [] => []
  | message :: messages =>
      match dataPacket build message with
      | .error _ => []
      | .ok packet => packet.toList ++ handedFrom build messages

def handedFrames (build : Build) (data : Bytes) : List (Slice UInt8) :=
  handedFrom build (messages data)

theorem foldlM_handedFrom {σ : Type} {build : Build}
    {onFrame : σ → Slice UInt8 → Checked σ} {inputs : List (Slice UInt8)}
    {state after : σ}
    (visited : inputs.foldlM (RndisPacketIter.visit build onFrame) state =
      .ok after) :
    (handedFrom build inputs).foldlM onFrame state = .ok after := by
  induction inputs generalizing state with
  | nil => exact visited
  | cons message messages ih =>
      rw [List.foldlM_cons, bind_eq_ok] at visited
      obtain ⟨next, first, later⟩ := visited
      rw [RndisPacketIter.visit, bind_eq_ok] at first
      obtain ⟨packet, packetEq, first⟩ := first
      rw [handedFrom, packetEq]
      cases packet with
      | none =>
          cases first
          exact ih later
      | some frame =>
          have called : onFrame state frame = .ok next := first
          change (onFrame state frame >>= _) = _
          rw [called]
          exact ih later

/-- When the iterator does not panic, only the callback can. -/
theorem foldlM_visit_eq {σ : Type} {build : Build} {inputs : List (Slice UInt8)}
    (decodes : ∀ message ∈ inputs, ∃ packet,
      dataPacket build message = .ok packet)
    (onFrame : σ → Slice UInt8 → Checked σ) (state : σ) :
    inputs.foldlM (RndisPacketIter.visit build onFrame) state =
      (handedFrom build inputs).foldlM onFrame state := by
  induction inputs generalizing state with
  | nil => rfl
  | cons message messages ih =>
      obtain ⟨packet, packetEq⟩ := decodes message (by simp)
      have later := ih fun member memberMem => decodes member (by simp [memberMem])
      rw [List.foldlM_cons, RndisPacketIter.visit, packetEq, handedFrom,
        packetEq]
      cases packet with
      | none => exact later state
      | some frame =>
          change (onFrame state frame >>= _) = (onFrame state frame >>= _)
          cases onFrame state frame with
          | error panic => rfl
          | ok next => exact later next

theorem packetFrames_of_decodes {build : Build} {data : Bytes}
    (decodes : ∀ message ∈ messages data, ∃ packet,
      dataPacket build message = .ok packet) :
    packetFrames build data = .ok (handedFrames build data) := by
  have collects (collected frames : List (Slice UInt8)) :
      frames.foldlM (fun collected frame => Except.ok (collected ++ [frame]))
        collected = (.ok (collected ++ frames) : Checked _) := by
    induction frames generalizing collected with
    | nil => simp
    | cons frame frames ih =>
        rw [List.foldlM_cons, ok_bind, ih, List.append_assoc]
        rfl
  rw [packetFrames, forEach_new, foldlM_visit_eq decodes, collects]
  rfl

end AndroidTether
