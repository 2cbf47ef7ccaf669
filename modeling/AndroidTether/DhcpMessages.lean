import AndroidTether.DhcpEncoding
import AndroidTether.DhcpWire

/-!
# The messages of the DHCP client

What a receiver finds in the bytes that `build_discover` and `build_request`
leave behind.  Both are all or nothing, except in the buffers that pass the size
check and have no room for the packed struct.
-/

namespace AndroidTether

open ByteWords Checked OnesComplement

/-- A frame that is a request of a DHCP client, as its receivers read it. -/
structure IsClientMessage (mac : MacAddr) (xid : UInt32)
    (options : List (UInt8 × Bytes)) (frame : Bytes) : Prop where
  ethernet : frame.take 14 = EthHdr.bytes ⟨.broadcast, mac, 0x0800⟩
  version : frame.getD 14 0 = 0x45
  ipLength : 14 + beWordAt frame 16 2 = frame.length
  protocol : frame.getD 23 0 = 0x11
  ipChecksum : SumsToOnes ((frame.drop 14).take 20)
  ports : beWordAt frame 34 2 = dhcpClientPort ∧
    beWordAt frame 36 2 = dhcpServerPort
  udpLength : 34 + beWordAt frame 38 2 = frame.length
  udpChecksum : beWordAt frame 40 2 = 0
  op : frame.getD 42 0 = 1
  xid_eq : beWordAt frame 46 4 = xid.toNat
  chaddr : (frame.drop 70).take 6 = mac.bytes
  magic : beWordAt frame 278 4 = dhcpMagicCookie
  decoded : decodedOptions (frame.drop 282) = options
  /-- Behind the options the area ends, and nothing but padding is left. -/
  ended : ∃ items padding, encodedOptions items = options ∧
    frame.drop 282 = encodedArea items (.endMark (List.replicate padding 0))

section Reading

variable (mac : MacAddr) (xid : Nat) (rest : Bytes)

theorem bootpHeader_xid :
    beWordAt (bootpHeader mac xid ++ rest) 4 4 = xid % 2 ^ 32 := by
  have cut : ((bootpHeader mac xid ++ rest).drop 4).take 4 =
      beBytes 4 xid := by
    simp only [bootpHeader, DhcpPacket.bytes, discoverPacket,
      List.append_assoc]
    rfl
  exact beWordAt_beBytes cut

theorem bootpHeader_chaddr :
    ((bootpHeader mac xid ++ rest).drop 28).take 6 = mac.bytes := by
  simp only [bootpHeader, DhcpPacket.bytes, discoverPacket, List.append_assoc]
  obtain ⟨a, b, c, d, e, f, macEq⟩ := mac.bytes_eq
  rw [macEq]
  rfl

theorem bootpHeader_magic :
    beWordAt (bootpHeader mac xid ++ rest) 236 4 = dhcpMagicCookie := by
  have cut : ((bootpHeader mac xid ++ rest).drop 236).take 4 =
      beBytes 4 dhcpMagicCookie := by
    simp only [bootpHeader, DhcpPacket.bytes, discoverPacket, List.append_nil]
    rw [List.append_assoc, List.drop_left' (by
      simp only [List.length_append, List.length_cons, List.length_nil,
        List.length_replicate, beBytes_length, MacAddr.length_eq])]
    rfl
  rw [beWordAt_beBytes cut]
  rfl

end Reading

/-- The header goes with any area of the right length. -/
theorem isClientMessage_of_area (mac : MacAddr) (xid : UInt32)
    {items : List AreaItem} {padding : Nat} {area : Bytes}
    (areaEq : area = encodedArea items (.endMark (List.replicate padding 0)))
    (areaLength : area.length = 32) :
    IsClientMessage mac xid (encodedOptions items)
      (messageHeader mac xid.toNat ++ area) := by
  have behind : (messageHeader mac xid.toNat ++ area).drop 282 = area :=
    List.drop_left' (messageHeader_length mac xid.toNat)
  have sizeEq : (messageHeader mac xid.toNat ++ area).length = 314 := by
    rw [List.length_append, messageHeader_length, areaLength]
  have ethLength := EthHdr.bytes_length ⟨.broadcast, mac, 0x0800⟩
  have xidEq := bootpHeader_xid mac xid.toNat area
  have chaddr := bootpHeader_chaddr mac xid.toNat area
  have magic := bootpHeader_magic mac xid.toNat area
  have op : (bootpHeader mac xid.toNat ++ area).getD 0 0 = 1 := rfl
  have sum : wordSum ((ipUdpHeaders [0x79, 0xC2]).take 20) = 0x2FFFD := by
    decide
  have xidBound := xid.toNat_lt
  rw [messageHeader, List.append_assoc, List.append_assoc] at behind sizeEq ⊢
  generalize ethEq : EthHdr.bytes ⟨.broadcast, mac, 0x0800⟩ = eth at *
  generalize bootpHeader mac xid.toNat ++ area = bootp at *
  have bothLength : (eth ++ ipUdpHeaders [0x79, 0xC2]).length = 42 := by
    rw [List.length_append, ethLength]
    rfl
  -- a word behind the Ethernet header, and one behind all three headers
  have ipWord (offset : Nat) (skips : 14 ≤ offset) (width : Nat) :
      beWordAt (eth ++ (ipUdpHeaders [0x79, 0xC2] ++ bootp)) offset width =
        beWordAt (ipUdpHeaders [0x79, 0xC2] ++ bootp) (offset - 14) width := by
    rw [beWordAt_skip (ethLength.trans_le skips), ethLength]
  have bootpWord (offset : Nat) (skips : 42 ≤ offset) (width : Nat) :
      beWordAt (eth ++ (ipUdpHeaders [0x79, 0xC2] ++ bootp)) offset width =
        beWordAt bootp (offset - 42) width := by
    rw [← List.append_assoc, beWordAt_skip (bothLength.trans_le skips),
      bothLength]
  have ipByte (offset : Nat) (skips : 14 ≤ offset) :
      (eth ++ (ipUdpHeaders [0x79, 0xC2] ++ bootp)).getD offset 0 =
        (ipUdpHeaders [0x79, 0xC2] ++ bootp).getD (offset - 14) 0 := by
    rw [List.getD_append_right _ _ _ _ (ethLength.trans_le skips), ethLength]
  exact
    { ethernet := by rw [List.take_left' ethLength, ethEq]
      version := by rw [ipByte 14 (by omega)]; rfl
      ipLength := by rw [ipWord 16 (by omega), sizeEq]; rfl
      protocol := by rw [ipByte 23 (by omega)]; rfl
      ipChecksum := by
        rw [List.drop_left' ethLength,
          List.take_append_of_le_length (by decide), SumsToOnes, sum]
        decide
      ports := by
        rw [ipWord 34 (by omega), ipWord 36 (by omega)]
        exact ⟨rfl, rfl⟩
      udpLength := by rw [ipWord 38 (by omega), sizeEq]; rfl
      udpChecksum := by rw [ipWord 40 (by omega)]; rfl
      op := by
        rw [← List.append_assoc,
          List.getD_append_right _ _ _ _ bothLength.le, bothLength]
        exact op
      xid_eq := by
        rw [bootpWord 46 (by omega), xidEq, Nat.mod_eq_of_lt xidBound]
      chaddr := by
        rw [← List.append_assoc, List.drop_append,
          List.drop_of_length_le (by omega), List.nil_append, bothLength]
        exact chaddr
      magic := by rw [bootpWord 278 (by omega), magic]
      decoded := by rw [behind, areaEq, decodedOptions_encodedArea]
      ended := ⟨items, padding, rfl, behind.trans areaEq⟩ }

def discoverItems : List AreaItem :=
  [.option ⟨53, [1], by decide, by decide, by decide⟩,
    .option ⟨55, [1, 3, 6], by decide, by decide, by decide⟩]

def requestItems (offeredIp serverIp : Ipv4Addr) : List AreaItem :=
  [.option ⟨53, [3], by decide, by decide, by decide⟩,
    .option ⟨50, offeredIp.octets, by decide, by decide, by simp⟩,
    .option ⟨54, serverIp.octets, by decide, by decide, by simp⟩,
    .option ⟨55, [1, 3, 6], by decide, by decide, by decide⟩]

/-- All or nothing: the buffer is too small and stays as it was, or a message
with the given options stands at its front. -/
def BuildsMessage (buf : Bytes) (mac : MacAddr) (xid : UInt32)
    (options : List (UInt8 × Bytes))
    (outcome : Checked (Except TetherError Nat × Bytes)) : Prop :=
  Succeeds outcome fun (result, after) =>
    match result with
    | .error err => (∃ need got, err = .bufferTooSmall need got) ∧ after = buf
    | .ok size => size ≤ after.length ∧ after.length = buf.length ∧
        IsClientMessage mac xid options (after.take size)

section Outcome

variable {buf : Bytes} {mac : MacAddr} {xid : UInt32}
  {options : List (UInt8 × Bytes)}

theorem not_buildsMessage (panic : Panic) :
    ¬ BuildsMessage buf mac xid options (.error panic) :=
  fun ⟨_, returned, _⟩ => nomatch returned

theorem buildsMessage_of_area {items : List AreaItem} {area : Bytes}
    {zeros : Nat} (short : area.length ≤ 32)
    (sizeEq : 282 + area.length + zeros = buf.length)
    (room : 314 ≤ buf.length)
    (areaEq : area ++ List.replicate (32 - area.length) 0 =
      encodedArea items (.endMark (List.replicate (32 - area.length) 0))) :
    BuildsMessage buf mac xid (encodedOptions items)
      (.ok (.ok 314, messageHeader mac xid.toNat ++
        (area ++ List.replicate zeros 0))) := by
  have headerLength := messageHeader_length mac xid.toNat
  have lengthEq : (messageHeader mac xid.toNat ++
      (area ++ List.replicate zeros 0)).length = buf.length := by
    rw [List.length_append, List.length_append, headerLength,
      List.length_replicate]
    omega
  refine succeeds_ok ⟨by omega, lengthEq, ?_⟩
  have front : (messageHeader mac xid.toNat ++
      (area ++ List.replicate zeros 0)).take 314 =
        messageHeader mac xid.toNat ++
          (area ++ List.replicate (32 - area.length) 0) := by
    rw [List.take_append, headerLength,
      List.take_of_length_le (by rw [headerLength]; omega), List.take_append,
      List.take_of_length_le short, List.take_replicate,
      Nat.min_eq_left (by omega)]
  rw [front]
  exact isClientMessage_of_area mac xid areaEq (by simp; omega)

end Outcome

/-- Both builders are all or nothing, except in buffers that pass the size
check and have no room for the struct. -/
theorem dhcpMessages_iff (build : Build) (buf : Bytes) (mac : MacAddr)
    (xid : UInt32) (offeredIp serverIp : Ipv4Addr) :
    (BuildsMessage buf mac xid [(53, [1]), (55, [1, 3, 6])]
        (buildDiscover build buf mac xid.toNat) ↔
      buf.length < 314 ∨ 594 ≤ buf.length) ∧
    (BuildsMessage buf mac xid [(53, [3]), (50, offeredIp.octets),
        (54, serverIp.octets), (55, [1, 3, 6])]
        (buildRequest build buf mac xid.toNat offeredIp serverIp) ↔
      buf.length < 314 ∨ 594 ≤ buf.length) := by
  by_cases small : buf.length < 314
  · rw [buildDiscover_small small, buildRequest_small small]
    exact ⟨iff_of_true (succeeds_ok ⟨⟨_, _, rfl⟩, rfl⟩) (.inl small),
      iff_of_true (succeeds_ok ⟨⟨_, _, rfl⟩, rfl⟩) (.inl small)⟩
  by_cases room : 594 ≤ buf.length
  swap
  · rw [buildDiscover_overrun (by omega) (by omega),
      buildRequest_overrun (by omega) (by omega)]
    exact ⟨iff_of_false (not_buildsMessage _) (by omega),
      iff_of_false (not_buildsMessage _) (by omega)⟩
  rw [buildDiscover_eq room, buildRequest_roomy room]
  refine ⟨iff_of_true ?_ (.inr room), iff_of_true ?_ (.inr room)⟩
  · exact @buildsMessage_of_area buf mac xid discoverItems discoverOptions _
      (by decide) (by rw [discoverOptions]; simp; omega) (by omega) rfl
  · have length : (requestOptions offeredIp serverIp).length = 21 := by
      simp [requestOptions]
    exact @buildsMessage_of_area buf mac xid (requestItems offeredIp serverIp)
      (requestOptions offeredIp serverIp) _ (by omega) (by omega) (by omega)
      (by rw [length]; rfl)

/-- A buffer of just the message's size is overrun. -/
theorem discover_overruns_314 :
    buildDiscover .release (List.replicate 314 0) .broadcast 1 =
        .error .outOfBoundsWrite ∧
      ¬ BuildsMessage (List.replicate 314 0) .broadcast 1
        [(53, [1]), (55, [1, 3, 6])]
        (buildDiscover .release (List.replicate 314 0) .broadcast 1) := by
  have overrun : buildDiscover .release (List.replicate 314 0) .broadcast 1 =
      .error .outOfBoundsWrite :=
    buildDiscover_overrun (by rw [List.length_replicate])
      (by rw [List.length_replicate]; decide)
  rw [overrun]
  exact ⟨rfl, not_buildsMessage _⟩

end AndroidTether
