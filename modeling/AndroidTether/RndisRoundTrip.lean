import AndroidTether.RndisReference

/-!
# Round trip of whole bulk transfers

A transfer that interleaves encoded Ethernet frames with control and
indication messages decodes to exactly the frames.  Indications share their
type word with data packets; their status word, read as a data offset, always
points behind the message.
-/

namespace AndroidTether

open ByteWords Checked

/-- An Ethernet frame with the buffer it is encoded into. -/
structure EncodedFrame where
  ethFrame : Bytes
  buf : Bytes
  nonempty : ethFrame ≠ []
  representable : 44 + ethFrame.length < 2 ^ 32
  fits : 44 + ethFrame.length ≤ buf.length

/-- A frame in a buffer of just its size. -/
def EncodedFrame.ofFrame (ethFrame : Bytes) (nonempty : ethFrame ≠ [])
    (representable : 44 + ethFrame.length < 2 ^ 32) : EncodedFrame where
  ethFrame := ethFrame
  buf := List.replicate (44 + ethFrame.length) 0
  nonempty := nonempty
  representable := representable
  fits := by rw [List.length_replicate]

/-- The bytes `build_data_packet` reports as written. -/
def EncodedFrame.wire (encoded : EncodedFrame) : Bytes :=
  match buildDataPacket encoded.buf encoded.ethFrame with
  | .ok (.ok total, written) => written.take total
  | _ => []

/-- A status indication: the type word of a data packet, a status at offset 8
and at most one transfer long. -/
def IsIndication (bytes : Bytes) : Prop :=
  leWordAt bytes 0 4 = rndisMsgPacket ∧ 12 ≤ bytes.length ∧
    bytes.length ≤ 32768 ∧
    (leWordAt bytes 8 4 = 0 ∨
      2 ^ 30 ≤ leWordAt bytes 8 4 ∧ leWordAt bytes 8 4 ≤ 0xFFFFFFF7)

/-- A well-delimited message that carries no frame. -/
structure OtherMessage where
  bytes : Bytes
  long : 8 ≤ bytes.length
  lengthWord : leWordAt bytes 4 4 = bytes.length
  notData : leWordAt bytes 0 4 ≠ rndisMsgPacket ∨ IsIndication bytes

inductive TransferItem
  | frame (encoded : EncodedFrame)
  | other (message : OtherMessage)

namespace TransferItem

def wire : TransferItem → Bytes
  | .frame encoded => encoded.wire
  | .other message => message.bytes

def ethFrame : TransferItem → Option Bytes
  | .frame encoded => some encoded.ethFrame
  | .other _ => none

end TransferItem

/-- What may follow the last message of a transfer. -/
structure Trailer where
  bytes : Bytes
  ends : bytes.length < 8 ∨ leWordAt bytes 4 4 = 0

/-- The bytes of a whole transfer. -/
def transfer (items : List TransferItem) (trailer : Trailer) : Bytes :=
  (items.map TransferItem.wire).flatten ++ trailer.bytes

theorem EncodedFrame.wire_eq (encoded : EncodedFrame) :
    encoded.wire =
      dataPacketHeader encoded.ethFrame.length ++ encoded.ethFrame := by
  rw [wire, buildDataPacket_eq encoded.fits]
  exact List.take_left' (by simp)

theorem dataPacketHeader_words {frameLength : Nat}
    (representable : 44 + frameLength < 2 ^ 32) (rest : Bytes) :
    leWordAt (dataPacketHeader frameLength ++ rest) 0 4 = rndisMsgPacket ∧
      leWordAt (dataPacketHeader frameLength ++ rest) 4 4 =
        44 + frameLength ∧
      leWordAt (dataPacketHeader frameLength ++ rest) 8 4 = 36 ∧
      leWordAt (dataPacketHeader frameLength ++ rest) 12 4 = frameLength := by
  simp only [dataPacketHeader, List.append_assoc]
  refine ⟨?_, ?_, ?_, ?_⟩
  · simp [rndisMsgPacket]
  · rw [leWordAt_skip (by simp)]
    simp only [leBytes_length, Nat.sub_self, leWordAt_leBytes]
    omega
  · rw [leWordAt_skip (by simp), leWordAt_skip (by simp)]
    simp
  · rw [leWordAt_skip (by simp), leWordAt_skip (by simp),
      leWordAt_skip (by simp)]
    simp only [leBytes_length, Nat.reduceSub, leWordAt_leBytes]
    omega

theorem complete_of_lengthWord {bytes : Bytes} (long : 8 ≤ bytes.length)
    (lengthWord : leWordAt bytes 4 4 = bytes.length) :
    rndisDelimiter.Complete bytes := by
  intro following
  apply rndisDelimiter_size_some.mpr
  rw [leWordAt_append (by omega), List.length_append]
  exact ⟨by omega, lengthWord, by omega, by omega⟩

theorem TransferItem.complete (item : TransferItem) :
    rndisDelimiter.Complete item.wire := by
  cases item with
  | frame encoded =>
      have words :=
        dataPacketHeader_words encoded.representable encoded.ethFrame
      apply complete_of_lengthWord <;> simp only [wire, encoded.wire_eq]
      · simp
        omega
      · simp [words.2.1]
  | other message =>
      exact complete_of_lengthWord message.long message.lengthWord

theorem TransferItem.not_offsetOverflows (item : TransferItem) (start : Nat) :
    ¬ OffsetOverflows ⟨start, item.wire⟩ := by
  rintro ⟨typeEq, long, -, large⟩
  cases item with
  | frame encoded =>
      have words :=
        dataPacketHeader_words encoded.representable encoded.ethFrame
      simp only [dataOffset, wire, encoded.wire_eq, words.2.2.1] at large
      omega
  | other message =>
      simp only [messageType, dataOffset, wire] at typeEq large
      rcases message.notData with otherType | indication
      · exact otherType typeEq
      · obtain ⟨-, -, -, zero | ⟨-, bounded⟩⟩ := indication <;> omega

theorem TransferItem.referenceFrame_content (item : TransferItem)
    (start : Nat) :
    (referenceFrame ⟨start, item.wire⟩).map Slice.content = item.ethFrame := by
  cases item with
  | frame encoded =>
      obtain ⟨typeEq, -, offsetEq, lengthEq⟩ :=
        dataPacketHeader_words encoded.representable encoded.ethFrame
      have positive := List.length_pos_iff.mpr encoded.nonempty
      have carries : CarriesFrame ⟨start,
          dataPacketHeader encoded.ethFrame.length ++ encoded.ethFrame⟩ := by
        simp only [CarriesFrame, messageType, dataOffset, dataLength, typeEq,
          offsetEq, lengthEq]
        exact ⟨trivial, by simp, le_rfl, positive, by simp⟩
      simp only [wire, encoded.wire_eq]
      rw [referenceFrame, if_pos carries]
      simp [Slice.sub, dataOffset, dataLength, offsetEq, lengthEq,
        TransferItem.ethFrame]
  | other message =>
      simp only [wire, TransferItem.ethFrame]
      rw [referenceFrame, if_neg]
      · rfl
      · rintro ⟨typeEq, long, offsetBound, -, inside⟩
        simp only [messageType, dataOffset, dataLength] at *
        rcases message.notData with otherType | indication
        · exact otherType typeEq
        · obtain ⟨-, -, short, zero | ⟨large, -⟩⟩ := indication <;> omega

theorem Trailer.size_eq_none (trailer : Trailer) :
    rndisDelimiter.size trailer.bytes = none := by
  rcases trailer.ends with short | zero
  · simp [rndisDelimiter, short]
  · simp [rndisDelimiter, zero]

theorem transfer_items (items : List TransferItem) (trailer : Trailer) :
    (messages (transfer items trailer)).map Slice.content =
      items.map TransferItem.wire := by
  have complete : ∀ part ∈ items.map TransferItem.wire,
      rndisDelimiter.Complete part := by
    intro part member
    obtain ⟨item, -, rfl⟩ := List.mem_map.mp member
    exact item.complete
  have cut := Delimiter.items_flatten_append complete trailer.bytes
  rw [Delimiter.items_of_none trailer.size_eq_none, List.append_nil] at cut
  exact cut

theorem message_of_transfer {items : List TransferItem} {trailer : Trailer}
    {message : Slice UInt8}
    (member : message ∈ messages (transfer items trailer)) :
    ∃ item ∈ items, message = ⟨message.start, item.wire⟩ := by
  have content : message.content ∈
      (messages (transfer items trailer)).map Slice.content :=
    List.mem_map_of_mem member
  rw [transfer_items] at content
  obtain ⟨item, itemMem, wireEq⟩ := List.mem_map.mp content
  exact ⟨item, itemMem, by rw [wireEq]⟩

theorem referenceFrames_transfer (items : List TransferItem)
    (trailer : Trailer) :
    (referenceFrames (transfer items trailer)).map Slice.content =
      items.filterMap TransferItem.ethFrame := by
  have byContent : ∀ message : Slice UInt8,
      (referenceFrame message).map Slice.content =
        (referenceFrame (.whole message.content)).map Slice.content := by
    intro message
    -- the test and the cut read the content only, not the position
    have sameTest : CarriesFrame (.whole message.content) ↔
        CarriesFrame message := Iff.rfl
    by_cases carries : CarriesFrame message
    · rw [referenceFrame, referenceFrame, if_pos carries,
        if_pos (sameTest.mpr carries)]
      rfl
    · rw [referenceFrame, referenceFrame, if_neg carries,
        if_neg (fun whole => carries (sameTest.mp whole))]
  calc
    (referenceFrames (transfer items trailer)).map Slice.content =
        (messages (transfer items trailer)).filterMap
          fun message => (referenceFrame message).map Slice.content := by
      rw [referenceFrames, List.map_filterMap]
    _ = ((messages (transfer items trailer)).map Slice.content).filterMap
          fun content => (referenceFrame (.whole content)).map Slice.content := by
      rw [List.filterMap_map]
      exact List.filterMap_congr fun message _ => byContent message
    _ = items.filterMap TransferItem.ethFrame := by
      rw [transfer_items, List.filterMap_map]
      exact List.filterMap_congr fun item _ => item.referenceFrame_content 0

/-- The iterator reads a transfer as the reference does. -/
theorem packetFrames_transfer (build : Build) (items : List TransferItem)
    (trailer : Trailer) :
    packetFrames build (transfer items trailer) =
      .ok (referenceFrames (transfer items trailer)) := by
  apply packetFrames_eq_reference
  intro message member overflows
  obtain ⟨item, -, messageEq⟩ := message_of_transfer member
  rw [messageEq] at overflows
  exact absurd overflows (item.not_offsetOverflows _)

/-- Every receiver finds exactly the given frame in a message. -/
def DecodesTo (message frame : Bytes) : Prop :=
  ∀ build, ∃ frames, packetFrames build message = .ok frames ∧
    frames.map Slice.content = [frame]

/-- A frame behind its own header decodes to itself. -/
theorem decodesTo_dataPacket {frame : Bytes} (nonempty : frame ≠ [])
    (representable : 44 + frame.length < 2 ^ 32) :
    DecodesTo (dataPacketHeader frame.length ++ frame) frame := by
  intro build
  let encoded : EncodedFrame :=
    { ethFrame := frame
      buf := List.replicate (44 + frame.length) 0
      nonempty := nonempty
      representable := representable
      fits := by rw [List.length_replicate] }
  have wire : transfer [.frame encoded] ⟨[], .inl (by decide)⟩ =
      dataPacketHeader frame.length ++ frame := by
    simpa [transfer, TransferItem.wire] using encoded.wire_eq
  have decoded := packetFrames_transfer build [.frame encoded]
    ⟨[], .inl (by decide)⟩
  have frames := referenceFrames_transfer [.frame encoded]
    ⟨[], .inl (by decide)⟩
  rw [wire] at decoded frames
  exact ⟨_, decoded, frames⟩

/-- Decoding a transfer returns the encoded frames in order, and an encoder
whose buffer is too small reports it and leaves the buffer as it was. -/
theorem transfer_roundTrip (build : Build) (items : List TransferItem)
    (trailer : Trailer) :
    (∃ frames, packetFrames build (transfer items trailer) = .ok frames ∧
      frames.map Slice.content = items.filterMap TransferItem.ethFrame) ∧
    ∀ buf ethFrame : Bytes, buf.length < 44 + ethFrame.length →
      buildDataPacket buf ethFrame =
        .ok (.error (.bufferTooSmall (44 + ethFrame.length) buf.length), buf) := by
  exact ⟨⟨_, packetFrames_transfer build items trailer,
    referenceFrames_transfer _ _⟩,
    fun buf ethFrame small => buildDataPacket_small small⟩

end AndroidTether
