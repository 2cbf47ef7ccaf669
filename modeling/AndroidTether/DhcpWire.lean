import AndroidTether.DhcpOptions
import AndroidTether.OnesComplement

/-!
# Building DHCP messages

`build_discover` and `build_request` of `dhcp.rs`, which lay out an Ethernet
frame by single-byte stores and by raw writes of packed structs, and the bytes
that they leave.  The size check only covers the message that is returned, so
in a shorter buffer that passes it the struct is written over the end.
-/

namespace AndroidTether

open ByteWords Checked OnesComplement

def dhcpServerPort : Nat := 67
def dhcpClientPort : Nat := 68
def dhcpMagicCookie : Nat := 0x63825363
def dhcpFixedSize : Nat := 240

/-- `checksum` of `dhcp.rs`; an odd last byte is left out. -/
def checksum (build : Build) (iph : Bytes) : Checked Nat := do
  let sum ← (chunksOfTwo iph).foldlM (fun sum chunk =>
    if chunk.length = 2 then build.addU32 sum (beNat chunk) else .ok sum) 0
  return (2 ^ 32 - 1 - carryFold sum) % 2 ^ 16

structure DhcpPacket where
  op : UInt8
  htype : UInt8
  hlen : UInt8
  hops : UInt8
  xid : Nat
  secs : Nat
  flags : Nat
  ciaddr : Nat
  yiaddr : Nat
  siaddr : Nat
  giaddr : Nat
  chaddr : Bytes
  sname : Bytes
  file : Bytes
  magic : Nat
  options : Bytes

/-- The packed layout, with every word in network order. -/
def DhcpPacket.bytes (dhcp : DhcpPacket) : Bytes :=
  [dhcp.op, dhcp.htype, dhcp.hlen, dhcp.hops] ++ beBytes 4 dhcp.xid ++
    beBytes 2 dhcp.secs ++ beBytes 2 dhcp.flags ++ beBytes 4 dhcp.ciaddr ++
    beBytes 4 dhcp.yiaddr ++ beBytes 4 dhcp.siaddr ++ beBytes 4 dhcp.giaddr ++
    dhcp.chaddr ++ dhcp.sname ++ dhcp.file ++ beBytes 4 dhcp.magic ++
    dhcp.options

/-- The struct that `build_discover` writes. -/
def discoverPacket (mac : MacAddr) (xid : Nat) : DhcpPacket where
  op := 1
  htype := 1
  hlen := 6
  hops := 0
  xid := xid
  secs := 0
  flags := 0x8000
  ciaddr := 0
  yiaddr := 0
  siaddr := 0
  giaddr := 0
  chaddr := mac.bytes ++ List.replicate 10 0
  sname := List.replicate 64 0
  file := List.replicate 128 0
  magic := dhcpMagicCookie
  options := List.replicate 312 0

/-- `build_discover`: the result together with the buffer afterwards. -/
def buildDiscover (build : Build) (buf : Bytes) (mac : MacAddr) (xid : Nat) :
    Checked (Except TetherError Nat × Bytes) := do
  let ipSize := 20
  let udpSize := 8
  let dhcpMinSize := 300
  let total := ethHdrSize + dhcpMinSize
  if buf.length < total then
    return (.error (.bufferTooSmall total buf.length), buf)
  let buf := List.replicate buf.length 0
  let buf ← rawWrite buf 0 (EthHdr.bytes ⟨.broadcast, mac, 0x0800⟩)
  let ipStart := ethHdrSize
  let udpStart := ipStart + ipSize
  let dhcpStart := udpStart + udpSize
  let dhcpLenVal := dhcpMinSize - ipSize - udpSize
  let udpLen := udpSize + dhcpLenVal
  let ipLenVal := ipSize + udpSize + dhcpLenVal
  let buf ← storeAll buf
    [(ipStart, 0x45), (ipStart + 8, 64), (ipStart + 9, 0x11),
      (udpStart, UInt8.ofNat (dhcpClientPort >>> 8)),
      (udpStart + 1, UInt8.ofNat dhcpClientPort),
      (udpStart + 2, UInt8.ofNat (dhcpServerPort >>> 8)),
      (udpStart + 3, UInt8.ofNat dhcpServerPort),
      (udpStart + 4, UInt8.ofNat (udpLen >>> 8)),
      (udpStart + 5, UInt8.ofNat udpLen),
      (ipStart + 2, UInt8.ofNat (ipLenVal >>> 8)),
      (ipStart + 3, UInt8.ofNat ipLenVal),
      (ipStart + 16, 0xFF), (ipStart + 17, 0xFF), (ipStart + 18, 0xFF),
      (ipStart + 19, 0xFF)]
  let buf ← rawWrite buf dhcpStart (discoverPacket mac xid).bytes
  let optsStart := dhcpStart + 240
  let buf ← storeAll buf
    [(optsStart, 53), (optsStart + 1, 1), (optsStart + 2, 1),
      (optsStart + 3, 55), (optsStart + 4, 3), (optsStart + 5, 1),
      (optsStart + 6, 3), (optsStart + 7, 6), (optsStart + 8, 0xFF)]
  let ipSum ← checksum build (← range buf ipStart (ipStart + ipSize))
  let buf ← storeAll buf
    [(ipStart + 10, UInt8.ofNat (ipSum >>> 8)),
      (ipStart + 11, UInt8.ofNat ipSum)]
  return (.ok total, buf)

/-- `build_request`, which rewrites the option area of a discover. -/
def buildRequest (build : Build) (buf : Bytes) (mac : MacAddr) (xid : Nat)
    (offeredIp serverIp : Ipv4Addr) :
    Checked (Except TetherError Nat × Bytes) := do
  match ← buildDiscover build buf mac xid with
  | (.error error, buf) => return (.error error, buf)
  | (.ok total, buf) =>
    let optsStart := ethHdrSize + 20 + 8 + 240
    let buf ← storeAll buf
      [(optsStart, 53), (optsStart + 1, 1), (optsStart + 2, 3),
        (optsStart + 3, 50), (optsStart + 4, 4)]
    let buf ← copyInto buf (optsStart + 5) offeredIp.octets
    let buf ← storeAll buf [(optsStart + 9, 54), (optsStart + 10, 4)]
    let buf ← copyInto buf (optsStart + 11) serverIp.octets
    let buf ← storeAll buf
      [(optsStart + 15, 55), (optsStart + 16, 3), (optsStart + 17, 1),
        (optsStart + 18, 3), (optsStart + 19, 6), (optsStart + 20, 0xFF)]
    return (.ok total, buf)

@[simp]
theorem discoverPacket_length (mac : MacAddr) (xid : Nat) :
    (discoverPacket mac xid).bytes.length = 552 := by
  simp only [DhcpPacket.bytes, discoverPacket, List.length_append,
    List.length_cons, List.length_nil, List.length_replicate, beBytes_length,
    MacAddr.length_eq]

theorem checksum_sum (build : Build) {iph : Bytes}
    (even : iph.length % 2 = 0) {start : Nat}
    (fits : start + wordSum iph < 2 ^ 32) :
    ((chunksOfTwo iph).foldlM (fun sum chunk =>
      if chunk.length = 2 then build.addU32 sum (beNat chunk) else .ok sum)
      start) = .ok (start + wordSum iph) := by
  fun_induction wordSum iph generalizing start with
  | case1 high low rest ih =>
      have full : [high, low].length = 2 := rfl
      simp only [List.length_cons] at even
      rw [chunksOfTwo, List.foldlM_cons, if_pos full,
        Build.addU32_of_lt build (by omega), ok_bind,
        ih (by omega) (by omega), Nat.add_assoc]
  | case2 high => simp at even
  | case3 => rfl

theorem checksum_eq_ok (build : Build) {iph : Bytes}
    (even : iph.length % 2 = 0) (bounded : iph.length ≤ 131072) :
    checksum build iph = .ok (65535 - carryFold (wordSum iph)) := by
  have sumBound := wordSum_le iph
  have foldBound := (carryFold_spec (wordSum iph)).1
  rw [checksum, checksum_sum build even (by omega), Nat.zero_add, ok_bind]
  simp only [pure_eq_ok, Except.ok.injEq]
  omega

/-- The IP and the UDP header, with a checksum. -/
def ipUdpHeaders (sum : Bytes) : Bytes :=
  [0x45, 0, 0x01, 0x2C, 0, 0, 0, 0, 64, 0x11] ++ sum ++
    [0, 0, 0, 0, 0xFF, 0xFF, 0xFF, 0xFF, 0, 68, 0, 67, 0x01, 0x18, 0, 0]

/-- The struct in front of its option area. -/
def bootpHeader (mac : MacAddr) (xid : Nat) : Bytes :=
  { discoverPacket mac xid with options := [] }.bytes

/-- A message up to its options. -/
def messageHeader (mac : MacAddr) (xid : Nat) : Bytes :=
  EthHdr.bytes ⟨.broadcast, mac, 0x0800⟩ ++ ipUdpHeaders [0x79, 0xC2] ++
    bootpHeader mac xid

/-- The option area of a DISCOVER up to its end mark. -/
def discoverOptions : Bytes :=
  [53, 1, 1, 55, 3, 1, 3, 6, 0xFF]

theorem bootpHeader_length (mac : MacAddr) (xid : Nat) :
    (bootpHeader mac xid).length = 240 := by
  simp only [bootpHeader, DhcpPacket.bytes, discoverPacket,
    List.length_append, List.length_cons, List.length_nil,
    List.length_replicate, beBytes_length, MacAddr.length_eq]

theorem messageHeader_length (mac : MacAddr) (xid : Nat) :
    (messageHeader mac xid).length = 282 := by
  rw [messageHeader, List.length_append, List.length_append,
    EthHdr.bytes_length, bootpHeader_length]
  rfl

theorem discoverPacket_bytes (mac : MacAddr) (xid : Nat) :
    (discoverPacket mac xid).bytes =
      bootpHeader mac xid ++ List.replicate 312 0 := by
  simp only [bootpHeader, DhcpPacket.bytes, discoverPacket, List.append_nil]

/-- The single-byte stores of the IP and the UDP header, counted from the
IP header. -/
def headerStores : List (Nat × UInt8) :=
  [(0, 0x45), (8, 64), (9, 0x11), (20, 0), (21, 68), (22, 0), (23, 67),
    (24, 0x01), (25, 0x18), (2, 0x01), (3, 0x2C), (16, 0xFF), (17, 0xFF),
    (18, 0xFF), (19, 0xFF)]

theorem checksum_stored {eth rest : Bytes} (ethLength : eth.length = 14) :
    storeAll (eth ++ ipUdpHeaders [0, 0] ++ rest)
      [(14 + 10, 0x79), (14 + 11, 0xC2)] =
      .ok (eth ++ ipUdpHeaders [0x79, 0xC2] ++ rest) := by
  have stored := @storeAll_middle eth (ipUdpHeaders [0, 0]) rest
    [(10, 0x79), (11, 0xC2)] (by decide)
  rw [ethLength] at stored
  exact stored

theorem ipHeader_checksum (build : Build) :
    checksum build ((ipUdpHeaders [0, 0]).take 20) = .ok 0x79C2 := by
  have sum : wordSum ((ipUdpHeaders [0, 0]).take 20) = 0x2863B := by decide
  rw [checksum_eq_ok build (by decide) (by decide), sum,
    carryFold_of_le (by decide), carryFold_of_lt (by decide)]

/-- What `build_discover` does behind the write of the packed struct. -/
def finishDiscover (build : Build) (buf : Bytes) :
    Checked (Except TetherError Nat × Bytes) := do
  let buf ← storeAll buf
    [(282, 53), (282 + 1, 1), (282 + 2, 1), (282 + 3, 55), (282 + 4, 3),
      (282 + 5, 1), (282 + 6, 3), (282 + 7, 6), (282 + 8, 0xFF)]
  let ipSum ← checksum build (← range buf 14 34)
  let buf ← storeAll buf
    [(14 + 10, UInt8.ofNat (ipSum >>> 8)), (14 + 11, UInt8.ofNat ipSum)]
  return (.ok 314, buf)

section Discover

variable {build : Build} {buf : Bytes} {mac : MacAddr} {xid : Nat}

theorem buildDiscover_small (small : buf.length < 314) :
    buildDiscover build buf mac xid =
      .ok (.error (.bufferTooSmall 314 buf.length), buf) := by
  rw [buildDiscover, if_pos (by simpa [ethHdrSize] using small)]
  rfl

theorem buildDiscover_passes (passes : 314 ≤ buf.length) :
    buildDiscover build buf mac xid = (do
      let buf ← rawWrite (List.replicate buf.length 0) 0
        (EthHdr.bytes ⟨.broadcast, mac, 0x0800⟩)
      let buf ← storeAll buf
        (headerStores.map fun write => (14 + write.1, write.2))
      let buf ← rawWrite buf 42 (discoverPacket mac xid).bytes
      finishDiscover build buf) := by
  rw [buildDiscover, if_neg (by simp [ethHdrSize]; omega)]
  rfl

/-- A buffer that passes the size check gets its headers, whether there is
room for the struct or not. -/
theorem buildDiscover_headers (passes : 314 ≤ buf.length) :
    buildDiscover build buf mac xid = (do
      let buf ← rawWrite (EthHdr.bytes ⟨.broadcast, mac, 0x0800⟩ ++
        ipUdpHeaders [0, 0] ++ List.replicate (buf.length - 42) 0) 42
          (discoverPacket mac xid).bytes
      finishDiscover build buf) := by
  have ethLength := EthHdr.bytes_length ⟨.broadcast, mac, 0x0800⟩
  have written := @rawWrite_append [] (List.replicate buf.length 0)
    (EthHdr.bytes ⟨.broadcast, mac, 0x0800⟩) 0 rfl (by simp; omega)
  have zeros : (List.replicate buf.length (0 : UInt8)).drop 14 =
      List.replicate 28 0 ++ List.replicate (buf.length - 42) 0 := by
    rw [List.drop_replicate, List.replicate_append_replicate]
    exact congrArg (List.replicate · 0) (by omega)
  rw [ethLength, zeros, List.nil_append, List.nil_append,
    ← List.append_assoc] at written
  have stored := @storeAll_middle
    (EthHdr.bytes ⟨.broadcast, mac, 0x0800⟩) (List.replicate 28 0)
    (List.replicate (buf.length - 42) 0) headerStores (by decide)
  have headers : storeAll (List.replicate 28 0) headerStores =
      .ok (ipUdpHeaders [0, 0]) := by
    decide
  rw [ethLength, headers] at stored
  rw [buildDiscover_passes passes, written, ok_bind, stored]
  simp only [Except.map, ok_bind]

/-- The stores behind the struct. -/
theorem finishDiscover_eq {eth bootp rest : Bytes}
    (ethLength : eth.length = 14) (bootpLength : bootp.length = 240)
    (room : 9 ≤ rest.length) :
    finishDiscover build (eth ++ ipUdpHeaders [0, 0] ++ bootp ++ rest) =
      .ok (.ok 314, eth ++ ipUdpHeaders [0x79, 0xC2] ++ bootp ++
        (discoverOptions ++ rest.drop 9)) := by
  have headersLength : (ipUdpHeaders [0, 0]).length = 28 := rfl
  have stored := @storeAll_append (eth ++ ipUdpHeaders [0, 0] ++ bootp) rest
    discoverOptions 282 (by simp [ethLength, bootpLength, headersLength]) room
  have front (behind : Bytes) :
      range (eth ++ ipUdpHeaders [0, 0] ++ behind) 14 34 =
        .ok ((ipUdpHeaders [0, 0]).take 20) := by
    rw [range_eq_ok (by omega) (by simp [ethLength, headersLength]; omega),
      List.append_assoc, List.drop_left' ethLength,
      List.take_append_of_le_length (by rw [headersLength]; omega)]
  have summed := @checksum_stored eth
    (bootp ++ discoverOptions ++ rest.drop 9) ethLength
  rw [finishDiscover]
  refine (congrArg (· >>= _) stored).trans ?_
  simp only [List.append_assoc, ok_bind] at front summed ⊢
  rw [front, ok_bind, ipHeader_checksum, ok_bind]
  refine (congrArg (· >>= _) summed).trans ?_
  rfl

/-- With room for the whole struct `build_discover` leaves its message and
nothing but zeros behind it. -/
theorem buildDiscover_eq (room : 594 ≤ buf.length) :
    buildDiscover build buf mac xid =
      .ok (.ok 314, messageHeader mac xid ++ (discoverOptions ++
        List.replicate (buf.length - 291) 0)) := by
  have ethLength := EthHdr.bytes_length ⟨.broadcast, mac, 0x0800⟩
  have headersLength : (ipUdpHeaders [0, 0]).length = 28 := rfl
  have written := @rawWrite_append (EthHdr.bytes ⟨.broadcast, mac, 0x0800⟩ ++
    ipUdpHeaders [0, 0]) (List.replicate (buf.length - 42) 0)
    (discoverPacket mac xid).bytes 42
    (by rw [List.length_append, ethLength, headersLength]) (by simp; omega)
  have zeros : List.replicate 312 (0 : UInt8) ++
      (List.replicate (buf.length - 42) 0).drop 552 =
        List.replicate (buf.length - 282) 0 := by
    rw [List.drop_replicate, List.replicate_append_replicate]
    exact congrArg (List.replicate · 0) (by omega)
  rw [discoverPacket_length, discoverPacket_bytes, ← List.append_assoc,
    List.append_assoc _ (List.replicate 312 0), zeros] at written
  rw [buildDiscover_headers (by omega), discoverPacket_bytes, written,
    ok_bind, finishDiscover_eq ethLength (bootpHeader_length mac xid)
      (by simp; omega), List.drop_replicate, Nat.sub_sub]
  rfl

/-- In a shorter buffer the struct is written over the end. -/
theorem buildDiscover_overrun (passes : 314 ≤ buf.length)
    (short : buf.length < 594) :
    buildDiscover build buf mac xid = .error .outOfBoundsWrite := by
  have headersLength : (ipUdpHeaders [0, 0]).length = 28 := rfl
  rw [buildDiscover_headers passes, rawWrite, if_neg, error_bind]
  rw [discoverPacket_length, List.length_append, List.length_append,
    EthHdr.bytes_length, headersLength, List.length_replicate]
  omega

theorem buildDiscover_succeeds (build : Build) {buf : Bytes} (mac : MacAddr)
    (xid : Nat) (room : 594 ≤ buf.length) :
    Succeeds (buildDiscover build buf mac xid)
      fun (result, after) => result = .ok 314 ∧ after.length = buf.length := by
  rw [buildDiscover_eq room]
  refine succeeds_ok ⟨rfl, ?_⟩
  simp only [List.length_append, messageHeader_length, List.length_replicate,
    discoverOptions, List.length_cons, List.length_nil]
  omega

end Discover

/-- The option area of a REQUEST up to its end mark. -/
def requestOptions (offeredIp serverIp : Ipv4Addr) : Bytes :=
  [53, 1, 3, 50, 4] ++ offeredIp.octets ++ [54, 4] ++ serverIp.octets ++
    [55, 3, 1, 3, 6, 0xFF]

/-- `build_request` writes its options over those of a discover. -/
theorem buildRequest_eq {build : Build} {buf header rest : Bytes}
    {mac : MacAddr} {xid total : Nat}
    (discovered : buildDiscover build buf mac xid =
      .ok (.ok total, header ++ rest))
    (headerLength : header.length = 282) (room : 21 ≤ rest.length)
    (offeredIp serverIp : Ipv4Addr) :
    buildRequest build buf mac xid offeredIp serverIp =
      .ok (.ok total,
        header ++ requestOptions offeredIp serverIp ++ rest.drop 21) := by
  have built : Succeeds
      (buildRequest build buf mac xid offeredIp serverIp)
      (· = (.ok total,
        header ++ requestOptions offeredIp serverIp ++ rest.drop 21)) := by
    rw [buildRequest, discovered, ok_bind]
    apply (succeeds_of_eq (@storeAll_append header rest [53, 1, 3, 50, 4] 282
      headerLength (by simp; omega))).bind
    rintro _ rfl
    apply (succeeds_of_eq (@copyInto_append _ _ offeredIp.octets 287
      (by simp; omega) (by simp; omega))).bind
    rintro _ rfl
    apply (succeeds_of_eq (@storeAll_append _ _ [54, 4] 291 (by simp; omega)
      (by simp; omega))).bind
    rintro _ rfl
    apply (succeeds_of_eq (@copyInto_append _ _ serverIp.octets 293
      (by simp; omega) (by simp; omega))).bind
    rintro _ rfl
    apply (succeeds_of_eq (@storeAll_append _ _ [55, 3, 1, 3, 6, 0xFF] 297
      (by simp; omega) (by simp; omega))).bind
    rintro _ rfl
    exact succeeds_ok (by simp [requestOptions])
  obtain ⟨_, returned, rfl⟩ := built
  exact returned

section Request

variable {build : Build} {buf : Bytes} {mac : MacAddr} {xid : Nat}
  {offeredIp serverIp : Ipv4Addr}

theorem buildRequest_small (small : buf.length < 314) :
    buildRequest build buf mac xid offeredIp serverIp =
      .ok (.error (.bufferTooSmall 314 buf.length), buf) := by
  rw [buildRequest, buildDiscover_small small, ok_bind]
  rfl

theorem buildRequest_overrun (passes : 314 ≤ buf.length)
    (short : buf.length < 594) :
    buildRequest build buf mac xid offeredIp serverIp =
      .error .outOfBoundsWrite := by
  rw [buildRequest, buildDiscover_overrun passes short, error_bind]

theorem buildRequest_roomy (room : 594 ≤ buf.length) :
    buildRequest build buf mac xid offeredIp serverIp =
      .ok (.ok 314, messageHeader mac xid ++
        (requestOptions offeredIp serverIp ++
          List.replicate (buf.length - 303) 0)) := by
  have requested := buildRequest_eq
    (@buildDiscover_eq build buf mac xid room) (messageHeader_length mac xid)
    (by simp; omega) offeredIp serverIp
  have zeros : (discoverOptions ++
      List.replicate (buf.length - 291) (0 : UInt8)).drop 21 =
        List.replicate (buf.length - 303) 0 := by
    rw [List.drop_append, List.drop_of_length_le (by decide),
      List.nil_append, List.drop_replicate]
    exact congrArg (List.replicate · 0) (Nat.sub_sub _ _ _)
  rw [requested, zeros, List.append_assoc]

end Request

theorem buildRequest_succeeds (build : Build) {buf : Bytes} (mac : MacAddr)
    (xid : Nat) (offeredIp serverIp : Ipv4Addr) (room : 594 ≤ buf.length) :
    Succeeds (buildRequest build buf mac xid offeredIp serverIp)
      fun (result, after) => result = .ok 314 ∧
        after.length = buf.length ∧
        ∃ header rest, header.length = 282 ∧
          after = header ++ requestOptions offeredIp serverIp ++ rest := by
  refine ⟨_, buildRequest_roomy room, rfl, ?_, _, _,
    messageHeader_length mac xid, (List.append_assoc _ _ _).symm⟩
  simp only [List.length_append, messageHeader_length, List.length_replicate,
    requestOptions, List.length_cons, List.length_nil,
    Ipv4Addr.octets_length]
  omega

end AndroidTether
