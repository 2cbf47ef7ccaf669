import AndroidTether.RndisFraming

/-!
# The reference reading of a bulk transfer

What a bulk transfer contains when all offsets and lengths are computed in
unbounded integers, and the exact relation of `RndisPacketIter` to it.  The
iterator forms `8 + DataOffset` in `u32`; that sum is the only place where the
two readings can part.
-/

namespace AndroidTether

open ByteWords Checked

/-- The type word of a message. -/
def messageType (message : Slice UInt8) : Nat :=
  leWordAt message.content 0 4

/-- The `DataOffset` word of a data packet. -/
def dataOffset (message : Slice UInt8) : Nat :=
  leWordAt message.content 8 4

/-- The `DataLength` word of a data packet. -/
def dataLength (message : Slice UInt8) : Nat :=
  leWordAt message.content 12 4

/-- The message is a data packet whose data part lies inside it. -/
def CarriesFrame (message : Slice UInt8) : Prop :=
  messageType message = rndisMsgPacket ∧ 44 ≤ message.content.length ∧
    36 ≤ dataOffset message ∧ 0 < dataLength message ∧
    8 + dataOffset message + dataLength message ≤ message.content.length

instance (message : Slice UInt8) : Decidable (CarriesFrame message) := by
  unfold CarriesFrame
  infer_instance

/-- The frame one message carries, with all sums in unbounded integers. -/
def referenceFrame (message : Slice UInt8) : Option (Slice UInt8) :=
  if CarriesFrame message then
    some (message.sub (8 + dataOffset message)
      (8 + dataOffset message + dataLength message))
  else none

/-- The frames a transfer carries, with all sums in unbounded integers. -/
def referenceFrames (data : Bytes) : List (Slice UInt8) :=
  (messages data).filterMap referenceFrame

/-- A data packet whose data start is not representable in `u32`. -/
def OffsetOverflows (message : Slice UInt8) : Prop :=
  messageType message = rndisMsgPacket ∧ 44 ≤ message.content.length ∧
    0 < dataLength message ∧ 2 ^ 32 ≤ 8 + dataOffset message

instance (message : Slice UInt8) : Decidable (OffsetOverflows message) := by
  unfold OffsetOverflows
  infer_instance

theorem dataOffset_lt (message : Slice UInt8) : dataOffset message < 2 ^ 32 :=
  leWordAt_lt _ _ _

/-- The loop body in terms of the three words it reads. -/
theorem dataPacket_eq (build : Build) (message : Slice UInt8) :
    dataPacket build message =
      if messageType message = rndisMsgPacket ∧
          44 ≤ message.content.length ∧ 36 ≤ dataOffset message ∧
          0 < dataLength message then do
        let dataStart ← build.addU32 8 (dataOffset message)
        if dataStart + dataLength message ≤ message.content.length then
          return some (message.sub dataStart (dataStart + dataLength message))
        return none
      else .ok none := by
  rw [dataPacket]
  by_cases short : message.content.length < 8
  · rw [if_pos short, if_neg (by omega)]
    rfl
  rw [if_neg short, readU32_eq_ok (by omega), ok_bind]
  by_cases other : leWordAt message.content 0 4 ≠ rndisMsgPacket
  · rw [if_pos other, if_neg (fun accepted => other accepted.1)]
    rfl
  rw [if_neg other]
  by_cases headerless : message.content.length < 44
  · rw [if_pos headerless, if_neg (by omega)]
    rfl
  rw [if_neg headerless, readU32_eq_ok (by omega), ok_bind,
    readU32_eq_ok (by omega), ok_bind]
  change (if dataOffset message < 36 ∨ dataLength message = 0 then _ else _) = _
  by_cases malformed : dataOffset message < 36 ∨ dataLength message = 0
  · rw [if_pos malformed, if_neg (by omega)]
    rfl
  rw [if_neg malformed,
    if_pos ⟨by simpa [messageType] using other, by omega, by omega, by omega⟩]
  change (build.addU32 8 (dataOffset message) >>= _) = _
  cases build.addU32 8 (dataOffset message) with
  | error panic => rfl
  | ok dataStart =>
      simp only [ok_bind, pure_eq_ok]
      change (if dataStart + dataLength message > _ then _ else _) = _
      by_cases beyond : dataStart + dataLength message > message.content.length
      · rw [if_pos beyond, if_neg (by omega)]
      · rw [if_neg beyond, if_pos (by omega)]
        change (subslice message dataStart (dataStart + dataLength message) >>=
          _) = _
        rw [subslice_eq_ok (by omega) (by omega), ok_bind]

/-- As long as the data start fits in `u32`, one message contributes what the
reference reading says. -/
theorem dataPacket_of_fits (build : Build) {message : Slice UInt8}
    (fits : ¬ OffsetOverflows message) :
    dataPacket build message = .ok (referenceFrame message) := by
  rw [dataPacket_eq, referenceFrame]
  split
  · rename_i header
    have small : 8 + dataOffset message < 2 ^ 32 := by
      by_contra large
      exact fits ⟨header.1, header.2.1, header.2.2.2, by omega⟩
    rw [build.addU32_of_lt small, ok_bind]
    by_cases inside :
        8 + dataOffset message + dataLength message ≤ message.content.length
    · rw [if_pos inside,
        if_pos ⟨header.1, header.2.1, header.2.2.1, header.2.2.2, inside⟩]
      rfl
    · rw [if_neg inside, if_neg (fun accepted => inside accepted.2.2.2.2)]
      rfl
  · rename_i header
    rw [if_neg fun accepted => header
      ⟨accepted.1, accepted.2.1, accepted.2.2.1, accepted.2.2.2.1⟩]

theorem dataPacket_debug_of_overflows {message : Slice UInt8}
    (overflows : OffsetOverflows message) :
    dataPacket .debug message = .error .arithmeticOverflow := by
  obtain ⟨typeEq, long, positive, large⟩ := overflows
  rw [dataPacket_eq, if_pos ⟨typeEq, long, by omega, positive⟩,
    Build.addU32_debug_of_le large, error_bind]

/-- In a release build the sum wraps around and the slice is cut from the
header of the message. -/
theorem dataPacket_release_of_overflows {message : Slice UInt8}
    (overflows : OffsetOverflows message) :
    dataPacket .release message =
      .ok (if 8 + dataOffset message - 2 ^ 32 + dataLength message ≤
          message.content.length then
        some (message.sub (8 + dataOffset message - 2 ^ 32)
          (8 + dataOffset message - 2 ^ 32 + dataLength message))
      else none) := by
  obtain ⟨typeEq, long, positive, large⟩ := overflows
  have offsetBound := dataOffset_lt message
  have wrapped :
      (8 + dataOffset message) % 2 ^ 32 = 8 + dataOffset message - 2 ^ 32 := by
    omega
  rw [dataPacket_eq, if_pos ⟨typeEq, long, by omega, positive⟩,
    Build.addU32_release_of_le large, wrapped, ok_bind]
  split <;> rfl

theorem referenceFrame_of_overflows {message : Slice UInt8}
    (short : message.content.length < 2 ^ 32)
    (overflows : OffsetOverflows message) : referenceFrame message = none := by
  obtain ⟨-, -, positive, large⟩ := overflows
  rw [referenceFrame, if_neg]
  rintro ⟨-, -, -, -, inside⟩
  omega

theorem message_length_lt {data : Bytes} {message : Slice UInt8}
    (member : message ∈ messages data) :
    message.content.length < 2 ^ 32 := by
  obtain ⟨input, sizeEq, -⟩ := Delimiter.slice_size member
  obtain ⟨-, lengthEq, -, -⟩ := rndisDelimiter_size_some.mp sizeEq
  have wordBound := leWordAt_lt input 4 4
  omega

/-- What one message contributes in a release build. -/
def releaseFrame (message : Slice UInt8) : Option (Slice UInt8) :=
  if OffsetOverflows message then
    if 8 + dataOffset message - 2 ^ 32 + dataLength message ≤
        message.content.length then
      some (message.sub (8 + dataOffset message - 2 ^ 32)
        (8 + dataOffset message - 2 ^ 32 + dataLength message))
    else none
  else referenceFrame message

theorem dataPacket_release (message : Slice UInt8) :
    dataPacket .release message = .ok (releaseFrame message) := by
  by_cases overflows : OffsetOverflows message
  · rw [dataPacket_release_of_overflows overflows, releaseFrame,
      if_pos overflows]
  · rw [dataPacket_of_fits .release overflows, releaseFrame, if_neg overflows]

theorem packetFrames_eq_foldlM (build : Build) (data : Bytes) :
    packetFrames build data =
      (messages data).foldlM (fun frames message => do
        let packet ← dataPacket build message
        return frames ++ packet.toList) [] := by
  rw [packetFrames, forEach_new]
  congr 1
  funext frames message
  rw [RndisPacketIter.visit]
  cases dataPacket build message with
  | error panic => rfl
  | ok packet => cases packet <;> simp

theorem collect_eq_ok {α β : Type} {contribution : α → Checked (Option β)}
    {pure' : α → Option β} {inputs : List α}
    (agree : ∀ input ∈ inputs, contribution input = .ok (pure' input))
    (collected : List β) :
    inputs.foldlM (fun collected input => do
        let packet ← contribution input
        return collected ++ packet.toList) collected =
      .ok (collected ++ inputs.filterMap pure') := by
  induction inputs generalizing collected with
  | nil => simp
  | cons input inputs ih =>
      have later := ih fun member memberMem => agree member (by simp [memberMem])
      rw [List.foldlM_cons, agree input (by simp), ok_bind, pure_eq_ok, ok_bind,
        later]
      cases packetEq : pure' input <;> simp [packetEq]

theorem exists_ok_of_collect {α β : Type}
    {contribution : α → Checked (Option β)} {inputs : List α}
    {collected result : List β}
    (collects : inputs.foldlM (fun collected input => do
        let packet ← contribution input
        return collected ++ packet.toList) collected = .ok result)
    {input : α} (member : input ∈ inputs) :
    ∃ packet, contribution input = .ok packet := by
  induction inputs generalizing collected with
  | nil => simp at member
  | cons head inputs ih =>
      rw [List.foldlM_cons, bind_eq_ok] at collects
      obtain ⟨next, headOk, collects⟩ := collects
      rcases List.mem_cons.mp member with rfl | member
      · obtain ⟨packet, packetEq, -⟩ := bind_eq_ok.mp headOk
        exact ⟨packet, packetEq⟩
      · exact ih collects member

theorem filterMap_length_lt {α β : Type} {first second : α → Option β}
    {inputs : List α}
    (grows : ∀ input ∈ inputs, (first input).isSome → (second input).isSome)
    (strict : ∃ input ∈ inputs, first input = none ∧ (second input).isSome) :
    (inputs.filterMap first).length < (inputs.filterMap second).length := by
  obtain ⟨input, member, missing, present⟩ := strict
  obtain ⟨before, after, rfl⟩ := List.append_of_mem member
  have weakly (part : List α) (inside : ∀ x ∈ part, x ∈ before ++ input :: after) :
      (part.filterMap first).length ≤ (part.filterMap second).length := by
    rw [List.length_filterMap_eq_countP, List.length_filterMap_eq_countP]
    exact List.countP_mono_left fun x xMem => grows x (inside x xMem)
  have beforeLe := weakly before fun x xMem => by simp [xMem]
  have afterLe := weakly after fun x xMem => by simp [xMem]
  obtain ⟨value, valueEq⟩ := Option.isSome_iff_exists.mp present
  simp only [List.filterMap_append, List.filterMap_cons, missing, valueEq,
    List.length_append, List.length_cons]
  omega

/-- Every frame starts behind the header of its own message, ends inside it,
and the frames come in increasing order without overlap. -/
def WellPlaced (data : Bytes) (frames : List (Slice UInt8)) : Prop :=
  (∀ frame ∈ frames, ∃ message ∈ messages data,
      message.start + 44 ≤ frame.start ∧ frame.stop ≤ message.stop) ∧
    frames.Pairwise fun earlier later => earlier.stop ≤ later.start

theorem referenceFrame_placed {message frame : Slice UInt8}
    (carried : referenceFrame message = some frame) :
    message.start + 44 ≤ frame.start ∧ frame.stop ≤ message.stop := by
  rw [referenceFrame] at carried
  split at carried
  · rename_i header
    obtain ⟨-, -, offsetBound, -, inside⟩ := header
    simp only [Option.some.injEq] at carried
    subst carried
    have contentLength : (message.sub (8 + dataOffset message)
        (8 + dataOffset message + dataLength message)).content.length =
          8 + dataOffset message + dataLength message -
            (8 + dataOffset message) :=
      Slice.sub_content_length inside
    simp only [Slice.stop, contentLength]
    simp only [Slice.sub]
    omega
  · cases carried

theorem referenceFrames_wellPlaced (data : Bytes) :
    WellPlaced data (referenceFrames data) := by
  constructor
  · intro frame frameMem
    obtain ⟨message, messageMem, carried⟩ := List.mem_filterMap.mp frameMem
    exact ⟨message, messageMem, referenceFrame_placed carried⟩
  · rw [referenceFrames, List.pairwise_filterMap]
    refine (Delimiter.slices_pairwise 0 data).imp ?_
    intro earlier later ordered first firstCarried second secondCarried
    have firstPlaced := referenceFrame_placed firstCarried
    have secondPlaced := referenceFrame_placed secondCarried
    omega

/-- Iterating over the buffer ends normally, hands out the reference frames
and nothing else, and these lie where they should. -/
def IteratesReference (build : Build) (data : Bytes) : Prop :=
  ∃ frames, packetFrames build data = .ok frames ∧
    frames = referenceFrames data ∧ WellPlaced data frames

/-- The message has a representable data start, or it is read in a release
build and its wrapped range does not fit into it. -/
def OffsetHarmless (build : Build) (message : Slice UInt8) : Prop :=
  OffsetOverflows message →
    build = .release ∧ message.content.length <
      8 + dataOffset message - 2 ^ 32 + dataLength message

theorem packetFrames_eq_reference {build : Build} {data : Bytes}
    (harmless : ∀ message ∈ messages data, OffsetHarmless build message) :
    packetFrames build data = .ok (referenceFrames data) := by
  have agree : ∀ message ∈ messages data,
      dataPacket build message = .ok (referenceFrame message) := by
    intro message member
    by_cases overflows : OffsetOverflows message
    · obtain ⟨rfl, beyond⟩ := harmless message member overflows
      rw [dataPacket_release_of_overflows overflows, if_neg (by omega),
        referenceFrame_of_overflows (message_length_lt member) overflows]
    · exact dataPacket_of_fits build overflows
  rw [packetFrames_eq_foldlM, collect_eq_ok agree, List.nil_append]
  rfl

theorem offsetHarmless_of_packetFrames {build : Build} {data : Bytes}
    (iterates : packetFrames build data = .ok (referenceFrames data)) :
    ∀ message ∈ messages data, OffsetHarmless build message := by
  intro message member overflows
  rw [packetFrames_eq_foldlM] at iterates
  cases build with
  | debug =>
      obtain ⟨packet, packetEq⟩ := exists_ok_of_collect iterates member
      rw [dataPacket_debug_of_overflows overflows] at packetEq
      cases packetEq
  | release =>
      refine ⟨rfl, ?_⟩
      by_contra fits
      have released : (messages data).filterMap releaseFrame =
          referenceFrames data := by
        rw [collect_eq_ok fun message _ => dataPacket_release message,
          List.nil_append] at iterates
        exact Except.ok.inj iterates
      have grows : ∀ other ∈ messages data, (referenceFrame other).isSome →
          (releaseFrame other).isSome := by
        intro other otherMem carried
        by_cases otherOverflows : OffsetOverflows other
        · rw [referenceFrame_of_overflows (message_length_lt otherMem)
            otherOverflows] at carried
          cases carried
        · rwa [releaseFrame, if_neg otherOverflows]
      have extra : (releaseFrame message).isSome := by
        rw [releaseFrame, if_pos overflows, if_pos (by omega)]
        rfl
      have longer := filterMap_length_lt grows ⟨message, member,
        referenceFrame_of_overflows (message_length_lt member) overflows, extra⟩
      rw [released] at longer
      exact lt_irrefl _ longer

/-- The iterator agrees with the reference reading exactly on the transfers
in which no data packet reaches the overflow of `8 + DataOffset`. -/
theorem iteratesReference_iff (build : Build) (data : Bytes) :
    IteratesReference build data ↔
      ∀ message ∈ messages data, OffsetHarmless build message := by
  constructor
  · rintro ⟨frames, iterates, rfl, -⟩
    exact offsetHarmless_of_packetFrames iterates
  · intro harmless
    exact ⟨referenceFrames data, packetFrames_eq_reference harmless, rfl,
      referenceFrames_wellPlaced data⟩

/-- One data packet of 44 bytes with `DataOffset` 0xFFFFFFF8 and one byte of
data. -/
def wrappingTransfer : Bytes :=
  leBytes 4 rndisMsgPacket ++ leBytes 4 44 ++ leBytes 4 0xFFFFFFF8 ++
    leBytes 4 1 ++ List.replicate 28 0

/-- A release build hands out the first byte of the message header, a debug
build panics; the reference reading has no frame at all. -/
theorem wrappingTransfer_not_iteratesReference :
    ¬ IteratesReference .release wrappingTransfer ∧
      ¬ IteratesReference .debug wrappingTransfer := by
  have released : packetFrames .release wrappingTransfer = .ok [⟨0, [1]⟩] := by
    decide +kernel
  have panicked : packetFrames .debug wrappingTransfer =
      .error .arithmeticOverflow := by
    decide +kernel
  have reference : referenceFrames wrappingTransfer = [] := by
    decide +kernel
  constructor
  · rintro ⟨frames, iterates, rfl, -⟩
    rw [released, reference] at iterates
    cases iterates
  · rintro ⟨frames, iterates, -⟩
    rw [panicked] at iterates
    cases iterates

end AndroidTether
