import AndroidTether.DhcpDiscover

/-!
# Single frames in the DHCP callbacks

What each callback of `discover` does with one frame.  A call is safe when it
returns and reads nothing outside the frame; both callbacks are safe on
exactly the frames described by `OfferInBounds` and `AckInBounds`.
-/

namespace AndroidTether

open ByteWords Checked

/-- Where a frame's own header length puts its DHCP message. -/
def dhcpStart (bytes : Bytes) : Nat :=
  ethHdrSize + (bytes.getD 14 0 &&& 0x0F).toNat * 4 + 8

/-- A frame that gets past the Ethernet, IP and UDP checks. -/
def AddressedToClient (bytes : Bytes) : Prop :=
  282 ≤ bytes.length ∧ beWordAt bytes 12 2 = 0x0800 ∧
    bytes.getD 23 0 = 0x11 ∧ dhcpStart bytes + 2 ≤ bytes.length ∧
    beWordAt bytes (dhcpStart bytes - 6) 2 = dhcpClientPort

instance (bytes : Bytes) : Decidable (AddressedToClient bytes) := by
  unfold AddressedToClient
  infer_instance

/-- The fixed part of the DHCP message lies inside the frame. -/
def HeaderInside (bytes : Bytes) : Prop :=
  dhcpStart bytes + 240 ≤ bytes.length

instance (bytes : Bytes) : Decidable (HeaderInside bytes) := by
  unfold HeaderInside
  infer_instance

/-- The message carries the magic cookie and our transaction id. -/
def IsReply (bytes : Bytes) : Prop :=
  beWordAt bytes (dhcpStart bytes + 236) 4 = dhcpMagicCookie ∧
    beWordAt bytes (dhcpStart bytes + 4) 4 = discoverXid

instance (bytes : Bytes) : Decidable (IsReply bytes) := by
  unfold IsReply
  infer_instance

/-- The option area of a frame. -/
def optionArea (bytes : Bytes) : Bytes :=
  bytes.drop (dhcpStart bytes + 240)

theorem rawRead_inside {transfer : Transfer} {frame : Slice UInt8}
    {position width : Nat} (inside : position + width ≤ frame.content.length) :
    rawRead transfer frame position width =
      ⟨beWordAt frame.content position width, false⟩ := by
  have bytesEq : (List.range' position width).map (rawByte transfer frame) =
      (frame.content.drop position).take width := by
    apply List.ext_getElem
    · simp
      omega
    · intro offset first second
      simp only [List.length_map, List.length_range'] at first
      have within : position + offset < frame.content.length := by omega
      simp [rawByte, List.getD, within]
  rw [rawRead, bytesEq]
  simp [beWordAt, inside]

theorem inspectHeader_inside {transfer : Transfer} {frame : Slice UInt8}
    (inside : HeaderInside frame.content) :
    inspectHeader transfer frame (dhcpStart frame.content) =
      ⟨if IsReply frame.content then some (dhcpStart frame.content) else none,
        false⟩ := by
  unfold HeaderInside at inside
  have magic := @rawRead_inside transfer frame
    (dhcpStart frame.content + 236) 4 (by omega)
  have xid := @rawRead_inside transfer frame
    (dhcpStart frame.content + 4) 4 (by omega)
  simp only [inspectHeader, magic, xid, IsReply]
  split_ifs <;> simp_all

theorem inspectHeader_outside {transfer : Transfer} {frame : Slice UInt8}
    (outside : ¬ HeaderInside frame.content) :
    ∃ start, inspectHeader transfer frame (dhcpStart frame.content) =
      ⟨start, true⟩ ∧
        (start = none ∨ start = some (dhcpStart frame.content)) := by
  have stray : (rawRead transfer frame (dhcpStart frame.content + 236)
      4).outside = true := by
    unfold HeaderInside at outside
    simp only [rawRead, decide_eq_true_eq]
    omega
  simp only [inspectHeader]
  split_ifs <;> simp [stray]

/-- What both callbacks do before they look at the options. -/
theorem acceptFrame_eq (transfer : Transfer) (frame : Slice UInt8) :
    acceptFrame transfer frame =
      .ok (if AddressedToClient frame.content then
        inspectHeader transfer frame (dhcpStart frame.content)
      else ⟨none, false⟩) := by
  simp only [acceptFrame]
  by_cases long : 282 ≤ frame.content.length
  swap
  · rw [if_pos (by simp [ethHdrSize, dhcpFixedSize]; omega),
      if_neg fun addressed => long addressed.1]
    rfl
  rw [if_neg (by simp [ethHdrSize, dhcpFixedSize]; omega)]
  by_cases ethertype : beWordAt frame.content 12 2 = 0x0800
  swap
  · rw [if_pos ethertype, if_neg fun addressed => ethertype addressed.2.1]
    rfl
  have ipByte (offset : Nat) : (frame.content.drop ethHdrSize).getD offset 0 =
      frame.content.getD (14 + offset) 0 := by
    simp [List.getD, ethHdrSize]
  rw [if_neg (not_not.mpr ethertype),
    range_to_end (by simp [ethHdrSize]; omega), ok_bind,
    if_neg (by simp [ethHdrSize]; omega),
    index_eq_ok (by simp [ethHdrSize]; omega), ok_bind, ipByte 9]
  by_cases protocol : frame.content.getD 23 0 = 0x11
  swap
  · rw [if_pos protocol, if_neg fun addressed => protocol addressed.2.2.1]
    rfl
  rw [if_neg (not_not.mpr protocol),
    index_eq_ok (by simp [ethHdrSize]; omega), ok_bind, ipByte 0]
  have start : ethHdrSize + (frame.content.getD (14 + 0) 0 &&& 0x0F).toNat * 4 +
      8 = dhcpStart frame.content := rfl
  have udpStart : ethHdrSize + (frame.content.getD (14 + 0) 0 &&&
      0x0F).toNat * 4 = dhcpStart frame.content - 8 := by
    omega
  have startBound : 22 ≤ dhcpStart frame.content := by
    simp [dhcpStart, ethHdrSize]
  rw [start, udpStart]
  by_cases room : dhcpStart frame.content + 2 ≤ frame.content.length
  swap
  · rw [if_pos (by omega), if_neg fun addressed => room addressed.2.2.2.1]
    rfl
  have port : beNat [frame.content.getD (dhcpStart frame.content - 8 + 2) 0,
      frame.content.getD (dhcpStart frame.content - 8 + 3) 0] =
        beWordAt frame.content (dhcpStart frame.content - 6) 2 := by
    have position : dhcpStart frame.content - 8 + 2 =
        dhcpStart frame.content - 6 := by
      omega
    rw [← position, beWordAt_eq_bytes (by omega)]
    rfl
  rw [if_neg (by omega), index_eq_ok (by omega), ok_bind,
    index_eq_ok (by omega), ok_bind, port]
  by_cases dport : beWordAt frame.content (dhcpStart frame.content - 6) 2 =
      dhcpClientPort
  swap
  · rw [if_pos dport, if_neg fun addressed => dport addressed.2.2.2.2]
    rfl
  rw [if_neg (not_not.mpr dport),
    if_pos ⟨long, ethertype, protocol, room, dport⟩]
  rfl

/-- The three ways in which the common checks can end. -/
theorem acceptFrame_cases (transfer : Transfer) (frame : Slice UInt8) :
    acceptFrame transfer frame = .ok ⟨none, false⟩ ∧
        (AddressedToClient frame.content →
          HeaderInside frame.content ∧ ¬ IsReply frame.content) ∨
      (∃ start, acceptFrame transfer frame = .ok ⟨start, true⟩ ∧
        (start = none ∨ start = some (dhcpStart frame.content)) ∧
        AddressedToClient frame.content ∧ ¬ HeaderInside frame.content) ∨
      acceptFrame transfer frame =
          .ok ⟨some (dhcpStart frame.content), false⟩ ∧
        AddressedToClient frame.content ∧ HeaderInside frame.content ∧
        IsReply frame.content := by
  rw [acceptFrame_eq]
  by_cases addressed : AddressedToClient frame.content
  swap
  · exact .inl ⟨by rw [if_neg addressed], fun holds => absurd holds addressed⟩
  rw [if_pos addressed]
  by_cases inside : HeaderInside frame.content
  · rw [inspectHeader_inside inside]
    by_cases reply : IsReply frame.content
    · exact .inr (.inr ⟨by rw [if_pos reply], addressed, inside, reply⟩)
    · exact .inl ⟨by rw [if_neg reply], fun _ => ⟨inside, reply⟩⟩
  · obtain ⟨start, inspected, startEq⟩ := inspectHeader_outside inside
    exact .inr (.inl
      ⟨start, by rw [inspected], startEq, addressed, inside⟩)

/-- The callback returns and has read nothing outside the frame. -/
def HandledSafely {σ : Type} (outcome : Checked (Handled σ)) : Prop :=
  ∃ state, outcome = .ok ⟨state, false⟩

/-- What the callback of the OFFER phase needs of a frame. -/
def OfferInBounds (bytes : Bytes) : Prop :=
  AddressedToClient bytes → HeaderInside bytes ∧
    (IsReply bytes →
      ¬ OverrunsArea (optionDelimiter.remainder (optionArea bytes)))

/-- What the callback of the ACK phase needs of a frame. -/
def AckInBounds (bytes : Bytes) : Prop :=
  AddressedToClient bytes → HeaderInside bytes

theorem processFrame_ignored {transfer : Transfer} {frame : Slice UInt8}
    (accepted : acceptFrame transfer frame = .ok ⟨none, false⟩)
    (state : OfferState) :
    processFrame transfer state frame = .ok ⟨state, false⟩ := by
  rw [processFrame, accepted]
  rfl

theorem range_options_outside {bytes : Bytes} (outside : ¬ HeaderInside bytes) :
    range bytes (dhcpStart bytes + 240) bytes.length =
      .error .sliceOutOfRange :=
  range_eq_error fun both => outside both.1

/-- After a stray read the frame is ignored or the slicing panics. -/
theorem processFrame_outside {transfer : Transfer} {frame : Slice UInt8}
    {start : Option Nat}
    (accepted : acceptFrame transfer frame = .ok ⟨start, true⟩)
    (startEq : start = none ∨ start = some (dhcpStart frame.content))
    (outside : ¬ HeaderInside frame.content) (state : OfferState) :
    processFrame transfer state frame = .ok ⟨state, true⟩ ∨
      processFrame transfer state frame = .error .sliceOutOfRange := by
  rw [processFrame, accepted, ok_bind]
  rcases startEq with rfl | rfl
  · exact .inl rfl
  · refine .inr ?_
    simp only [range_options_outside outside, error_bind]

theorem processFrame_reply {transfer : Transfer} {frame : Slice UInt8}
    (accepted : acceptFrame transfer frame =
      .ok ⟨some (dhcpStart frame.content), false⟩)
    (inside : HeaderInside frame.content) (state : OfferState) :
    processFrame transfer state frame = (do
      let scan ← scanOffer (optionArea frame.content) state.serverAddr
      if scan.msgType = 2 then do
        let final ← parseDhcpOptions (optionArea frame.content)
        return ⟨⟨some (UInt32.ofNat
          (beWordAt frame.content (dhcpStart frame.content + 16) 4)),
            scan.serverAddr, final⟩, false⟩
      else return ⟨{ state with serverAddr := scan.serverAddr }, false⟩) := by
  unfold HeaderInside at inside
  have yiaddr := @rawRead_inside transfer frame
    (dhcpStart frame.content + 16) 4 (by omega)
  rw [processFrame, accepted, ok_bind]
  simp only [range_to_end inside, ok_bind, yiaddr, Bool.or_false]
  rfl

theorem processFrame_safe_iff (transfer : Transfer) (state : OfferState)
    (frame : Slice UInt8) :
    HandledSafely (processFrame transfer state frame) ↔
      OfferInBounds frame.content := by
  rcases acceptFrame_cases transfer frame with
    ⟨accepted, ignored⟩ | ⟨start, accepted, startEq, addressed, outside⟩ |
      ⟨accepted, addressed, inside, reply⟩
  · rw [processFrame_ignored accepted]
    exact ⟨fun _ addressed => ⟨(ignored addressed).1, fun reply =>
      absurd reply (ignored addressed).2⟩, fun _ => ⟨state, rfl⟩⟩
  · refine ⟨?_, fun inBounds => absurd (inBounds addressed).1 outside⟩
    rintro ⟨after, handled⟩
    rcases processFrame_outside accepted startEq outside state with
      stray | panics
    · rw [stray] at handled
      cases handled
    · rw [panics] at handled
      cases handled
  · rw [processFrame_reply accepted inside]
    constructor
    · rintro ⟨after, handled⟩ -
      rw [bind_eq_ok] at handled
      obtain ⟨scan, scanned, -⟩ := handled
      exact ⟨inside, fun _ =>
        (scanOffer_ok_iff _ state.serverAddr).mp ⟨scan, scanned⟩⟩
    · intro inBounds
      obtain ⟨scan, scanned⟩ := (scanOffer_ok_iff _ state.serverAddr).mpr
        ((inBounds addressed).2 reply)
      obtain ⟨final, parsed⟩ := parseDhcpOptions_ok (optionArea frame.content)
      rw [scanned, ok_bind, parsed]
      split_ifs
      · exact ⟨_, rfl⟩
      · exact ⟨_, rfl⟩

theorem processAck_safe_iff (transfer : Transfer) (state : AckState)
    (frame : Slice UInt8) :
    HandledSafely (processAck transfer state frame) ↔
      (state.found = false → AckInBounds frame.content) := by
  cases foundEq : state.found with
  | true =>
      rw [processAck, foundEq]
      exact ⟨fun _ notFound => absurd notFound (by decide),
        fun _ => ⟨state, rfl⟩⟩
  | false =>
      rw [processAck, foundEq, if_neg (by decide)]
      rcases acceptFrame_cases transfer frame with
        ⟨accepted, ignored⟩ | ⟨start, accepted, startEq, addressed, outside⟩ |
          ⟨accepted, addressed, inside, reply⟩
      · rw [accepted]
        exact ⟨fun _ _ addressed => (ignored addressed).1,
          fun _ => ⟨state, rfl⟩⟩
      · refine ⟨?_, fun inBounds => absurd (inBounds rfl addressed) outside⟩
        rintro ⟨after, handled⟩
        rw [accepted, ok_bind] at handled
        rcases startEq with rfl | rfl
        · cases handled
        · simp only [range_options_outside outside, error_bind] at handled
          cases handled
      · refine ⟨fun _ _ _ => inside, fun _ => ?_⟩
        unfold HeaderInside at inside
        have areaLength : frame.content.length -
            (dhcpStart frame.content + 240) =
              (optionArea frame.content).length := by
          simp [optionArea]
        obtain ⟨msgType, scanned⟩ := scanAck_ok (optionArea frame.content)
        obtain ⟨found, parsed⟩ :=
          parseDhcpOptions_ok (optionArea frame.content)
        have yiaddr := @rawRead_inside transfer frame
          (dhcpStart frame.content + 16) 4 (by omega)
        rw [accepted, ok_bind]
        simp only [range_to_end inside, ok_bind, subtract_eq_ok inside,
          areaLength, yiaddr]
        change HandledSafely (scanAck (optionArea frame.content)
          (optionArea frame.content).length >>= _)
        rw [scanned, ok_bind]
        split_ifs
        · change HandledSafely (parseDhcpOptions
            (optionArea frame.content) >>= _)
          rw [parsed]
          exact ⟨_, rfl⟩
        · exact ⟨state, rfl⟩

/-- A UDP datagram for the client port, with the given version and header
length byte and the given bytes behind a UDP header at the usual place. -/
def datagramFrame (verIhl : UInt8) (payload : Bytes) : Bytes :=
  List.replicate 12 0xAA ++ [0x08, 0x00] ++ verIhl :: List.replicate 8 0 ++
    0x11 :: List.replicate 10 0 ++ [0, 67, 0, 68, 0, 0, 0, 0] ++ payload

/-- A DHCP reply to our transaction. -/
def replyMessage (yiaddr : Ipv4Addr) (opts : Bytes) : Bytes :=
  [2, 1, 6, 0] ++ beBytes 4 discoverXid ++ List.replicate 8 0 ++
    yiaddr.octets ++ List.replicate 216 0 ++ beBytes 4 dhcpMagicCookie ++ opts

/-- A transfer of data packets. -/
def dataPackets (frames : List Bytes) : Bytes :=
  frames.flatMap fun frame => dataPacketHeader frame.length ++ frame

/-- An exchange in which nothing fails and every transfer holds the given
frames. -/
def exchangeOf (frames : List Bytes)
    (fits : (dataPackets frames).length ≤ rndisBufSize) : Exchange where
  receive _ := .ok ⟨dataPackets frames, fun _ => 0, fits⟩
  send _ := .ok ()

end AndroidTether
