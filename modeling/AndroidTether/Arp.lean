import AndroidTether.NetTypes

/-!
# Answers to ARP requests

`build_reply` and `handle_request` of `arp.rs`.  The packet structs are read
and written through raw pointers, so a reader carries the proof that the bytes
are there.
-/

namespace AndroidTether

open ByteWords Checked

structure ArpPacket where
  hwType : Nat
  protoType : Nat
  hwLen : Nat
  protoLen : Nat
  opcode : Nat
  senderMac : MacAddr
  senderIp : Ipv4Addr
  targetMac : MacAddr
  targetIp : Ipv4Addr

/-- `size_of::<ArpPacket>()` of the packed struct. -/
def arpPacketSize : Nat := 28

namespace ArpPacket

/-- The packed layout. -/
def bytes (arp : ArpPacket) : Bytes :=
  beBytes 2 arp.hwType ++ beBytes 2 arp.protoType ++ beBytes 1 arp.hwLen ++
    beBytes 1 arp.protoLen ++ beBytes 2 arp.opcode ++ arp.senderMac.bytes ++
    arp.senderIp.octets ++ arp.targetMac.bytes ++ arp.targetIp.octets

/-- The struct at `offset`. -/
def readAt (frame : Bytes) (offset : Nat)
    (inside : offset + arpPacketSize ≤ frame.length) : ArpPacket where
  hwType := beWordAt frame offset 2
  protoType := beWordAt frame (offset + 2) 2
  hwLen := beWordAt frame (offset + 4) 1
  protoLen := beWordAt frame (offset + 5) 1
  opcode := beWordAt frame (offset + 6) 2
  senderMac := .readAt frame (offset + 8) (by
    rw [arpPacketSize] at inside
    omega)
  senderIp := .readAt frame (offset + 14)
  targetMac := .readAt frame (offset + 18) (by
    rw [arpPacketSize] at inside
    omega)
  targetIp := .readAt frame (offset + 24)

@[simp]
theorem bytes_length (arp : ArpPacket) : arp.bytes.length = 28 := by
  simp [bytes, MacAddr.length_eq]

end ArpPacket

namespace Arp

/-- `build_reply`: the result together with the buffer afterwards. -/
def buildReply (buf : Bytes) (ourMac : MacAddr) (ourIp : Ipv4Addr)
    (theirMac : MacAddr) (theirIp : Ipv4Addr) :
    Checked (Except TetherError Nat × Bytes) := do
  let total := ethHdrSize + arpPacketSize
  if buf.length < total then
    return (.error (.bufferTooSmall total buf.length), buf)
  let buf ← rawWrite buf 0 (EthHdr.bytes ⟨theirMac, ourMac, arpEthertype⟩)
  let arp : ArpPacket :=
    { hwType := arpHwEthernet
      protoType := 0x0800
      hwLen := 6
      protoLen := 4
      opcode := arpOpReply
      senderMac := ourMac
      senderIp := ourIp
      targetMac := theirMac
      targetIp := theirIp }
  let buf ← rawWrite buf ethHdrSize arp.bytes
  return (.ok total, buf)

/-- `handle_request`: the length of the reply, zero when there is none. -/
def handleRequest (frame replyBuf : Bytes) (ourMac : MacAddr)
    (ourIp : Ipv4Addr) : Checked (Except TetherError Nat × Bytes) :=
  if short : frame.length < ethHdrSize + arpPacketSize then
    .ok (.ok 0, replyBuf)
  else if beWordAt frame 12 2 ≠ arpEthertype then .ok (.ok 0, replyBuf)
  else
    let arp := ArpPacket.readAt frame ethHdrSize (by omega)
    if arp.opcode = arpOpRequest ∧ arp.targetIp = ourIp then
      buildReply replyBuf ourMac ourIp arp.senderMac arp.senderIp
    else .ok (.ok 0, replyBuf)

/-- The answer that goes out to a host with the given addresses. -/
def reply (ourMac : MacAddr) (ourIp : Ipv4Addr) (theirMac : MacAddr)
    (theirIp : Ipv4Addr) : Bytes :=
  EthHdr.bytes ⟨theirMac, ourMac, arpEthertype⟩ ++
    ArpPacket.bytes
      { hwType := arpHwEthernet
        protoType := 0x0800
        hwLen := 6
        protoLen := 4
        opcode := arpOpReply
        senderMac := ourMac
        senderIp := ourIp
        targetMac := theirMac
        targetIp := theirIp }

@[simp]
theorem reply_length (ourMac : MacAddr) (ourIp : Ipv4Addr)
    (theirMac : MacAddr) (theirIp : Ipv4Addr) :
    (reply ourMac ourIp theirMac theirIp).length = 42 := by
  simp [reply]

theorem buildReply_eq {buf : Bytes} (room : 42 ≤ buf.length)
    (ourMac : MacAddr) (ourIp : Ipv4Addr) (theirMac : MacAddr)
    (theirIp : Ipv4Addr) :
    buildReply buf ourMac ourIp theirMac theirIp =
      .ok (.ok 42, reply ourMac ourIp theirMac theirIp ++ buf.drop 42) := by
  have header := patch_append [] buf
    (EthHdr.bytes ⟨theirMac, ourMac, arpEthertype⟩)
  simp only [EthHdr.bytes_length, List.nil_append, List.length_nil] at header
  have notSmall : ¬ buf.length < ethHdrSize + arpPacketSize := by
    rw [ethHdrSize, arpPacketSize]
    omega
  rw [buildReply, if_neg notSmall, rawWrite_eq_ok (by simp; omega), header,
    ok_bind]
  dsimp only
  have behind := fun packet : ArpPacket => patch_append
    (EthHdr.bytes ⟨theirMac, ourMac, arpEthertype⟩) (buf.drop 14) packet.bytes
  simp only [EthHdr.bytes_length, ArpPacket.bytes_length, List.drop_drop]
    at behind
  rw [ethHdrSize, rawWrite_eq_ok (by simp; omega), behind, ok_bind]
  rfl

/-- What makes a frame a request that has to be answered: "who has `ourIp`". -/
def IsRequest (ourIp : Ipv4Addr) (frame : Bytes) : Prop :=
  42 ≤ frame.length ∧ beWordAt frame 12 2 = 0x0806 ∧
    beWordAt frame 20 2 = 1 ∧ beWordAt frame 38 4 = ourIp.toNat

instance (ourIp : Ipv4Addr) (frame : Bytes) :
    Decidable (IsRequest ourIp frame) := by
  unfold IsRequest
  infer_instance

/-- Only a request gets an answer, whoever asks it. -/
theorem handleRequest_of_not {frame : Bytes} (replyBuf : Bytes)
    (ourMac : MacAddr) {ourIp : Ipv4Addr}
    (notRequest : ¬ IsRequest ourIp frame) :
    handleRequest frame replyBuf ourMac ourIp = .ok (.ok 0, replyBuf) := by
  unfold handleRequest
  dsimp only
  split_ifs with short otherType request
  · rfl
  · rfl
  · refine absurd ⟨not_lt.mp short, not_not.mp otherType, request.1, ?_⟩
      notRequest
    exact Ipv4Addr.readAt_eq_iff.mp request.2
  · rfl

/-- The address block of a request. -/
def requestMac (frame : Bytes) : Bytes :=
  (frame.drop 22).take 6

/-- A frame is the reply to a request: it gives our addresses to the host
that asked, and nobody answers it in turn. -/
structure IsReplyTo (ourMac : MacAddr) (ourIp : Ipv4Addr)
    (request frame : Bytes) : Prop where
  length : frame.length = 42
  destination : frame.take 6 = requestMac request
  source : (frame.drop 6).take 6 = ourMac.bytes
  etherType : beWordAt frame 12 2 = 0x0806
  hardware : (frame.drop 14).take 6 = [0, 1, 0x08, 0, 6, 4]
  opcode : beWordAt frame 20 2 = 2
  senderMac : (frame.drop 22).take 6 = ourMac.bytes
  senderIp : beWordAt frame 28 4 = ourIp.toNat
  targetMac : (frame.drop 32).take 6 = requestMac request
  targetIp : beWordAt frame 38 4 = beWordAt request 28 4
  unanswered : ∀ buf mac ip,
    handleRequest frame buf mac ip = .ok (.ok 0, buf)

theorem reply_cut (ourMac : MacAddr) (ourIp : Ipv4Addr) (theirMac : MacAddr)
    (theirIp : Ipv4Addr) {frame : Bytes}
    (frameEq : frame = reply ourMac ourIp theirMac theirIp) :
    frame.take 6 = theirMac.bytes ∧
      (frame.drop 6).take 6 = ourMac.bytes ∧
      (frame.drop 12).take 2 = beBytes 2 0x0806 ∧
      (frame.drop 14).take 6 =
        beBytes 2 1 ++ beBytes 2 0x0800 ++ beBytes 1 6 ++ beBytes 1 4 ∧
      (frame.drop 20).take 2 = beBytes 2 2 ∧
      (frame.drop 22).take 6 = ourMac.bytes ∧
      (frame.drop 28).take 4 = beBytes 4 ourIp.toNat ∧
      (frame.drop 32).take 6 = theirMac.bytes ∧
      (frame.drop 38).take 4 = beBytes 4 theirIp.toNat := by
  obtain ⟨a, b, c, d, e, f, ourBytes⟩ := ourMac.bytes_eq
  obtain ⟨u, v, w, x, y, z, theirBytes⟩ := theirMac.bytes_eq
  rw [frameEq, reply, EthHdr.bytes, ArpPacket.bytes, ourBytes, theirBytes]
  exact ⟨rfl, rfl, rfl, rfl, rfl, rfl, rfl, rfl, rfl⟩

theorem handleRequest_of_request {frame replyBuf : Bytes} {ourMac : MacAddr}
    {ourIp : Ipv4Addr} (request : IsRequest ourIp frame)
    (room : 42 ≤ replyBuf.length) :
    ∃ answer, handleRequest frame replyBuf ourMac ourIp =
        .ok (.ok 42, answer ++ replyBuf.drop 42) ∧
      IsReplyTo ourMac ourIp frame answer := by
  obtain ⟨long, etherType, opcode, targetIp⟩ := request
  have senderIp : beWordAt frame 28 4 < 2 ^ 32 := beWordAt_lt frame 28 4
  have bound := ourIp.toNat_lt
  have inside : ethHdrSize + arpPacketSize ≤ frame.length := long
  let arp := ArpPacket.readAt frame ethHdrSize inside
  have asked : arp.opcode = arpOpRequest ∧ arp.targetIp = ourIp :=
    ⟨opcode, Ipv4Addr.readAt_eq_iff.mpr targetIp⟩
  have theirIp : arp.senderIp.toNat = beWordAt frame 28 4 :=
    (Ipv4Addr.readAt_eq_iff.mp rfl).symm
  refine ⟨reply ourMac ourIp arp.senderMac arp.senderIp, ?_, ?_⟩
  · rw [handleRequest, dif_neg (not_lt.mpr inside),
      if_neg (not_not.mpr (show _ = arpEthertype from etherType))]
    exact (if_pos asked).trans (buildReply_eq room _ _ _ _)
  obtain ⟨destination, source, etherTypeCut, hardware, opcodeCut, senderMac,
    senderIpCut, targetMac, targetIpCut⟩ :=
      reply_cut ourMac ourIp arp.senderMac arp.senderIp rfl
  have replyOpcode := beWordAt_beBytes opcodeCut
  refine
    { length := reply_length _ _ _ _
      destination := destination
      source := source
      etherType := beWordAt_beBytes etherTypeCut
      hardware := hardware.trans (by decide)
      opcode := replyOpcode
      senderMac := senderMac
      senderIp := ?_
      targetMac := targetMac
      targetIp := ?_
      unanswered := ?_ }
  · rw [beWordAt_beBytes senderIpCut]
    exact Nat.mod_eq_of_lt bound
  · rw [beWordAt_beBytes targetIpCut, theirIp]
    exact Nat.mod_eq_of_lt senderIp
  · intro buf mac ip
    refine handleRequest_of_not buf mac fun isRequest => ?_
    have requested := isRequest.2.2.1
    rw [replyOpcode] at requested
    exact absurd requested (by decide)

/-- The question who has an address, as a host sends it to everybody. -/
def request (theirMac : MacAddr) (theirIp targetIp : Ipv4Addr) : Bytes :=
  EthHdr.bytes ⟨.broadcast, theirMac, arpEthertype⟩ ++
    ArpPacket.bytes
      { hwType := arpHwEthernet
        protoType := 0x0800
        hwLen := 6
        protoLen := 4
        opcode := arpOpRequest
        senderMac := theirMac
        senderIp := theirIp
        targetMac := .broadcast
        targetIp := targetIp }

theorem request_length (theirMac : MacAddr) (theirIp targetIp : Ipv4Addr) :
    (request theirMac theirIp targetIp).length = 42 := by
  simp [request]

theorem request_isRequest (theirMac : MacAddr) (theirIp targetIp : Ipv4Addr) :
    IsRequest targetIp (request theirMac theirIp targetIp) := by
  have bound := targetIp.toNat_lt
  obtain ⟨u, v, w, x, y, z, theirBytes⟩ := theirMac.bytes_eq
  have cut : ((request theirMac theirIp targetIp).drop 12).take 2 =
        beBytes 2 0x0806 ∧
      ((request theirMac theirIp targetIp).drop 20).take 2 = beBytes 2 1 ∧
      ((request theirMac theirIp targetIp).drop 38).take 4 =
        beBytes 4 targetIp.toNat := by
    rw [request, EthHdr.bytes, ArpPacket.bytes, theirBytes]
    exact ⟨rfl, rfl, rfl⟩
  refine ⟨(request_length _ _ _).ge, beWordAt_beBytes cut.1,
    beWordAt_beBytes cut.2.1, ?_⟩
  rw [beWordAt_beBytes cut.2.2]
  exact Nat.mod_eq_of_lt bound

end Arp

end AndroidTether
