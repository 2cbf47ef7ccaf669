import AndroidTether.RxPath

/-!
# ARP packets that nobody asked for

`send_gratuitous` of `arp.rs`, and the ARP packet by which the main loop of
`run_session` keeps the data path alive.  Both go to everybody; they differ in
their operation and in the address they ask for.
-/

namespace AndroidTether

open ByteWords Checked

namespace Arp

/-- An ARP packet behind a header for everybody, as a data packet. -/
def broadcastMessage (mac : MacAddr) (arp : ArpPacket) :
    Checked (Except TetherError Bytes) := do
  let ethBuf := List.replicate ethBufSize 0
  let total := ethHdrSize + arpPacketSize
  let ethBuf ← rawWrite ethBuf 0 (EthHdr.bytes ⟨.broadcast, mac, arpEthertype⟩)
  let ethBuf ← rawWrite ethBuf ethHdrSize arp.bytes
  let rndisBuf := List.replicate rndisBufSize 0
  match ← buildDataPacket rndisBuf (← range ethBuf 0 total) with
  | (.error err, _) => return .error err
  | (.ok rndisLen, rndisBuf) => return .ok (← range rndisBuf 0 rndisLen)

/-- An answer that nobody asked for. -/
def gratuitous (mac : MacAddr) (ip : Ipv4Addr) : ArpPacket where
  hwType := arpHwEthernet
  protoType := 0x0800
  hwLen := 6
  protoLen := 4
  opcode := arpOpReply
  senderMac := mac
  senderIp := ip
  targetMac := .broadcast
  targetIp := ip

/-- A question for the address zero. -/
def keepalive (hostMac : MacAddr) (ip : Ipv4Addr) : ArpPacket where
  hwType := arpHwEthernet
  protoType := 0x0800
  hwLen := 6
  protoLen := 4
  opcode := arpOpRequest
  senderMac := hostMac
  senderIp := ip
  targetMac := .broadcast
  targetIp := 0

/-- `send_gratuitous`, given what `send_bulk` makes of a message. -/
def sendGratuitous (sendBulk : Bytes → Except TetherError Nat)
    (mac : MacAddr) (ip : Ipv4Addr) : Checked (Except TetherError Unit) := do
  let message ← broadcastMessage mac (gratuitous mac ip)
  return do
    let _ ← sendBulk (← message)
    return ()

/-- The message that the main loop gives to `try_send` every five seconds. -/
def keepaliveMessage (hostMac : MacAddr) (ip : Ipv4Addr) :
    Checked (Except TetherError Bytes) :=
  broadcastMessage hostMac (keepalive hostMac ip)

/-- The frame with such a packet. -/
def broadcastFrame (mac : MacAddr) (arp : ArpPacket) : Bytes :=
  EthHdr.bytes ⟨.broadcast, mac, arpEthertype⟩ ++ arp.bytes

@[simp]
theorem broadcastFrame_length (mac : MacAddr) (arp : ArpPacket) :
    (broadcastFrame mac arp).length = 42 := by
  simp [broadcastFrame]

/-- Both buffers have room, so that nothing can fail. -/
theorem broadcastMessage_eq (mac : MacAddr) (arp : ArpPacket) :
    broadcastMessage mac arp =
      .ok (.ok (arpMessage (broadcastFrame mac arp))) := by
  have ethSize : ethBufSize = 2048 := rfl
  have rndisSize : (List.replicate rndisBufSize (0 : UInt8)).length = 32768 :=
    List.length_replicate
  have frameLength := broadcastFrame_length mac arp
  have header := patch_append [] (List.replicate ethBufSize 0)
    (EthHdr.bytes ⟨.broadcast, mac, arpEthertype⟩)
  have packet := patch_append (EthHdr.bytes ⟨.broadcast, mac, arpEthertype⟩)
    ((List.replicate ethBufSize 0).drop 14) arp.bytes
  simp only [EthHdr.bytes_length, List.nil_append, List.length_nil]
    at header packet
  have total : (dataPacketHeader 42 ++ broadcastFrame mac arp).length =
      44 + 42 := by
    simp
  rw [broadcastMessage, rawWrite_eq_ok (by simp; omega), header, ok_bind]
  dsimp only [ethHdrSize, arpPacketSize]
  rw [rawWrite_eq_ok (by simp; omega), packet, ok_bind, ← broadcastFrame,
    range_eq_ok (Nat.zero_le _) (by simp), ok_bind, List.drop_zero,
    Nat.sub_zero, List.take_left' frameLength,
    buildDataPacket_eq (by omega), ok_bind, frameLength]
  dsimp only
  rw [range_eq_ok (Nat.zero_le _) (by simp; omega), ok_bind, List.drop_zero,
    Nat.sub_zero, List.take_left' total, arpMessage, frameLength]
  rfl

theorem broadcastFrame_cut (mac : MacAddr) (arp : ArpPacket) :
    ((broadcastFrame mac arp).drop 6).take 6 = mac.bytes ∧
      ((broadcastFrame mac arp).drop 12).take 2 = beBytes 2 0x0806 := by
  obtain ⟨a, b, c, d, e, f, macBytes⟩ := mac.bytes_eq
  rw [broadcastFrame, EthHdr.bytes, macBytes]
  exact ⟨rfl, rfl⟩

/-- The addresses that the packet gives away. -/
theorem broadcastFrame_sender (mac : MacAddr) (arp : ArpPacket) :
    ((broadcastFrame mac arp).drop 22).take 6 = arp.senderMac.bytes ∧
      ((broadcastFrame mac arp).drop 28).take 4 =
        beBytes 4 arp.senderIp.toNat := by
  obtain ⟨a, b, c, d, e, f, macBytes⟩ := mac.bytes_eq
  obtain ⟨u, v, w, x, y, z, senderBytes⟩ := arp.senderMac.bytes_eq
  rw [broadcastFrame, EthHdr.bytes, ArpPacket.bytes, macBytes, senderBytes]
  exact ⟨rfl, rfl⟩

theorem broadcastFrame_etherType (mac : MacAddr) (arp : ArpPacket) :
    beWordAt (broadcastFrame mac arp) 12 2 = 0x0806 :=
  beWordAt_beBytes (broadcastFrame_cut mac arp).2

end Arp

end AndroidTether
