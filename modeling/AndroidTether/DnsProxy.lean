import AndroidTether.NetTypes
import AndroidTether.OnesComplement

/-!
# Interception of DNS queries

`is_dns_to_gateway`, `build_reply` and `ip_checksum` of `dns_proxy.rs`, and
the slice of the TX loop that cuts the query out of an intercepted packet.
The three recompute the offsets that depend on the IP header length on their
own; a packet built from its fields ties them together.
-/

namespace AndroidTether

open ByteWords Checked OnesComplement

/-- `is_dns_to_gateway`: the length of the DNS message at the end of the
packet, if the packet is to be intercepted. -/
def isDnsToGateway (utunPkt : Bytes) (ourIp _gatewayIp : Ipv4Addr) :
    Checked (Option Nat) := do
  if utunPkt.length < 4 + 20 + 8 + 12 then return none
  let af := beNat (← range utunPkt 0 4)
  if af ≠ 2 then return none
  let ip ← range utunPkt 4 utunPkt.length
  let verIhl ← index ip 0
  if verIhl &&& 0xF0 ≠ 0x40 then return none
  let ihl := ((verIhl &&& 0x0F) * 4).toNat
  if ip.length < ihl + 8 then return none
  if (← index ip 9) ≠ 17 then return none
  let src := beNat
    [← index ip 12, ← index ip 13, ← index ip 14, ← index ip 15]
  if src ≠ ourIp.toNat then return none
  let udp ← range ip ihl ip.length
  let dport := beNat [← index udp 2, ← index udp 3]
  if dport ≠ 53 then return none
  let dnsStart := 4 + ihl + 8
  return some (← subtract utunPkt.length dnsStart)

/-- `tbuf[tlen - dns_len..tlen]` of the TX loop. -/
def dnsQuery (tbuf : Bytes) (tlen dnsLen : Nat) : Checked Bytes := do
  let start ← subtract tlen dnsLen
  range tbuf start tlen

/-- The word in a chunk; an odd last byte is the high half of one. -/
def chunkWord : Bytes → Nat
  | [high, low] => beNat [high, low]
  | high :: _ => high.toNat <<< 8
  | [] => 0

def ipChecksum (build : Build) (hdr : Bytes) : Checked Nat := do
  let sum ← (chunksOfTwo hdr).foldlM
    (fun sum chunk => build.addU32 sum (chunkWord chunk)) 0
  return 2 ^ 16 - 1 - carryFold sum % 2 ^ 16

def buildReply (build : Build) (orig dnsResp : Bytes) : Checked Bytes := do
  let origIp ← range orig 4 orig.length
  let ihl := (((← index origIp 0) &&& 0x0F) * 4).toNat
  let udpStart := 4 + ihl
  let ipTotal := 20 + 8 + dnsResp.length
  let out :=
    (← range orig 0 4) ++
      [0x45, 0x00, UInt8.ofNat (ipTotal >>> 8), UInt8.ofNat ipTotal, 0x00,
        0x00, 0x00, 0x00, 64, 17] ++ List.replicate 2 0 ++
      (← range origIp 16 20) ++ (← range origIp 12 16)
  let ipHdrStart ← subtract out.length 20
  let csum ← ipChecksum build (← range out ipHdrStart (ipHdrStart + 20))
  let out ← store out (ipHdrStart + 10) (UInt8.ofNat (csum >>> 8))
  let out ← store out (ipHdrStart + 11) (UInt8.ofNat csum)
  let origUdp ← range orig udpStart orig.length
  let udpLen := (8 + dnsResp.length) % 2 ^ 16
  return out ++ (← range origUdp 2 4) ++ (← range origUdp 0 2) ++
    [UInt8.ofNat (udpLen >>> 8), UInt8.ofNat udpLen, 0x00, 0x00] ++ dnsResp

theorem ipChecksum_sum (build : Build) {hdr : Bytes} {start : Nat}
    (fits : start + wordSum hdr < 2 ^ 32) :
    ((chunksOfTwo hdr).foldlM
      (fun sum chunk => build.addU32 sum (chunkWord chunk)) start) =
        .ok (start + wordSum hdr) := by
  fun_induction wordSum hdr generalizing start with
  | case1 high low rest ih =>
      have word : chunkWord [high, low] = beNat [high, low] := rfl
      rw [chunksOfTwo, List.foldlM_cons, word,
        Build.addU32_of_lt build (by omega), ok_bind, ih (by omega),
        Nat.add_assoc]
  | case2 high =>
      have word : chunkWord [high] = 256 * high.toNat := by
        change high.toNat <<< 8 = _
        rw [Nat.shiftLeft_eq, Nat.mul_comm]
      rw [chunksOfTwo, List.foldlM_cons, word,
        Build.addU32_of_lt build (by omega), ok_bind]
      rfl
  | case3 => rfl

theorem ipChecksum_eq_ok (build : Build) {hdr : Bytes}
    (bounded : hdr.length ≤ 131072) :
    ipChecksum build hdr = .ok (65535 - carryFold (wordSum hdr)) := by
  have sumBound := wordSum_le hdr
  have foldBound := (carryFold_spec (wordSum hdr)).1
  rw [ipChecksum, ipChecksum_sum build (by omega), Nat.zero_add, ok_bind,
    Nat.mod_eq_of_lt (show carryFold (wordSum hdr) < 2 ^ 16 by omega)]
  rfl

/-- An IPv4 UDP datagram to port 53 as the utun delivers it. -/
structure QueryPacket (ourIp : Ipv4Addr) where
  ihl : Nat
  ihl_ge : 5 ≤ ihl
  ihl_le : ihl ≤ 15
  tos : UInt8
  totalLength : Nat
  identification : Nat
  fragment : Nat
  ttl : UInt8
  headerChecksum : Nat
  dst : Ipv4Addr
  options : Bytes
  options_length : options.length = 4 * (ihl - 5)
  srcPort : Nat
  udpLength : Nat
  udpChecksum : Nat
  query : Bytes
  query_length : 12 ≤ query.length

namespace QueryPacket

variable {ourIp : Ipv4Addr} (packet : QueryPacket ourIp)

/-- The IP header without its options. -/
def fixedHeader : Bytes :=
  [UInt8.ofNat (0x40 + packet.ihl), packet.tos] ++
    beBytes 2 packet.totalLength ++ beBytes 2 packet.identification ++
    beBytes 2 packet.fragment ++ [packet.ttl, 17] ++
    beBytes 2 packet.headerChecksum ++ ourIp.octets ++ packet.dst.octets

def udpHeader : Bytes :=
  beBytes 2 packet.srcPort ++ beBytes 2 53 ++ beBytes 2 packet.udpLength ++
    beBytes 2 packet.udpChecksum

/-- The IP datagram behind the address family word. -/
def datagram : Bytes :=
  packet.fixedHeader ++ packet.options ++ (packet.udpHeader ++ packet.query)

def bytes : Bytes :=
  beBytes 4 2 ++ packet.datagram

@[simp]
theorem fixedHeader_length : packet.fixedHeader.length = 20 := by
  simp [fixedHeader]

@[simp]
theorem udpHeader_length : packet.udpHeader.length = 8 := by
  simp [udpHeader]

theorem bytes_length :
    packet.bytes.length = 12 + 4 * packet.ihl + packet.query.length := by
  have atLeast := packet.ihl_ge
  simp [bytes, datagram, packet.options_length]
  omega

theorem verIhl :
    (UInt8.ofNat (0x40 + packet.ihl) &&& 0xF0) = 0x40 ∧
      ((UInt8.ofNat (0x40 + packet.ihl) &&& 0x0F) * 4).toNat =
        4 * packet.ihl := by
  have headerLengths : ∀ ihl < 16, (UInt8.ofNat (0x40 + ihl) &&& 0xF0) = 0x40 ∧
      ((UInt8.ofNat (0x40 + ihl) &&& 0x0F) * 4).toNat = 4 * ihl := by
    decide
  exact headerLengths packet.ihl (by have := packet.ihl_le; omega)

theorem datagram_length :
    packet.datagram.length = 8 + 4 * packet.ihl + packet.query.length := by
  have atLeast := packet.ihl_ge
  simp [datagram, packet.options_length]
  omega

theorem datagram_getD {offset : Nat} (inside : offset < 20) :
    packet.datagram.getD offset 0 = packet.fixedHeader.getD offset 0 := by
  rw [datagram, List.append_assoc]
  exact List.getD_append _ _ _ _ (by rw [fixedHeader_length]; exact inside)

theorem range_datagram :
    range packet.bytes 4 packet.bytes.length = .ok packet.datagram := by
  have length := packet.bytes_length
  rw [range_to_end (by omega), bytes]
  exact congrArg Except.ok (List.drop_left' (beBytes_length 4 2))

theorem range_udp :
    range packet.datagram (4 * packet.ihl) packet.datagram.length =
      .ok (packet.udpHeader ++ packet.query) := by
  have length := packet.datagram_length
  have atLeast := packet.ihl_ge
  have headerLength :
      (packet.fixedHeader ++ packet.options).length = 4 * packet.ihl := by
    simp [packet.options_length]
    omega
  rw [range_to_end (by omega), datagram]
  exact congrArg Except.ok (List.drop_left' headerLength)

theorem index_datagram {offset : Nat} (inside : offset < 20) :
    index packet.datagram offset = .ok (packet.fixedHeader.getD offset 0) := by
  have length := packet.datagram_length
  have atLeast := packet.ihl_ge
  rw [index_eq_ok (by omega), packet.datagram_getD inside]

theorem isDnsToGateway_eq (gatewayIp : Ipv4Addr) :
    isDnsToGateway packet.bytes ourIp gatewayIp =
      .ok (some packet.query.length) := by
  have length := packet.bytes_length
  have ipLength := packet.datagram_length
  have atLeast := packet.ihl_ge
  have queryLength := packet.query_length
  obtain ⟨version, headerLength⟩ := packet.verIhl
  have af : range packet.bytes 0 4 = .ok (beBytes 4 2) := by
    rw [range_eq_ok (by decide) (by omega), bytes]
    exact congrArg Except.ok (List.take_left' (beBytes_length 4 2))
  have first : packet.fixedHeader.getD 0 0 = UInt8.ofNat (0x40 + packet.ihl) :=
    rfl
  have protocol : packet.fixedHeader.getD 9 0 = 17 := rfl
  have source : [packet.fixedHeader.getD 12 0, packet.fixedHeader.getD 13 0,
      packet.fixedHeader.getD 14 0, packet.fixedHeader.getD 15 0] =
        ourIp.octets :=
    rfl
  have udpByte {offset : Nat} (inside : offset < 8) :
      index (packet.udpHeader ++ packet.query) offset =
        .ok (packet.udpHeader.getD offset 0) := by
    rw [index_eq_ok (by simp; omega), List.getD_append _ _ _ _ (by simpa)]
  have port : beNat [packet.udpHeader.getD 2 0, packet.udpHeader.getD 3 0] =
      53 :=
    rfl
  rw [isDnsToGateway, if_neg (by omega), af, ok_bind, beNat_beBytes,
    if_neg (by decide), packet.range_datagram, ok_bind,
    packet.index_datagram (by decide), ok_bind, first,
    if_neg (not_not.mpr version), headerLength, if_neg (by omega),
    packet.index_datagram (by decide), ok_bind,
    if_neg (not_not.mpr protocol)]
  simp only [packet.index_datagram (show 12 < 20 by decide),
    packet.index_datagram (show 13 < 20 by decide),
    packet.index_datagram (show 14 < 20 by decide),
    packet.index_datagram (show 15 < 20 by decide), ok_bind, source,
    Ipv4Addr.beNat_octets, ne_eq, not_true, if_false, packet.range_udp,
    udpByte (show 2 < 8 by decide), udpByte (show 3 < 8 by decide), port,
    subtract_eq_ok (show 4 + 4 * packet.ihl + 8 ≤ packet.bytes.length by
      omega)]
  have rest : packet.bytes.length - (4 + 4 * packet.ihl + 8) =
      packet.query.length := by
    omega
  rw [rest]
  rfl

theorem dnsQuery_eq (stale : Bytes) :
    dnsQuery (packet.bytes ++ stale) packet.bytes.length
      packet.query.length = .ok packet.query := by
  obtain ⟨before, cut⟩ : ∃ before, packet.bytes = before ++ packet.query :=
    ⟨beBytes 4 2 ++ (packet.fixedHeader ++ packet.options ++
      packet.udpHeader), by simp [bytes, datagram]⟩
  have start : packet.bytes.length - packet.query.length = before.length := by
    rw [cut, List.length_append]
    omega
  have fits : packet.query.length ≤ packet.bytes.length := by
    rw [cut, List.length_append]
    omega
  have dropped : (packet.bytes ++ stale).drop before.length =
      packet.query ++ stale := by
    rw [cut, List.append_assoc]
    exact List.drop_left
  rw [dnsQuery, subtract_eq_ok fits, ok_bind,
    range_eq_ok (by omega) (by simp), start, dropped]
  exact congrArg Except.ok (List.take_left' (by omega))

theorem range_fixedHeader {first last : Nat} (ordered : first ≤ last)
    (inside : last ≤ 20) :
    range packet.datagram first last =
      .ok ((packet.fixedHeader.drop first).take (last - first)) := by
  have length := packet.datagram_length
  have atLeast := packet.ihl_ge
  rw [range_eq_ok ordered (by omega), datagram, List.append_assoc,
    List.drop_append_of_le_length (by simp; omega),
    List.take_append_of_le_length (by simp; omega)]

end QueryPacket

/-- The IP header that `build_reply` writes. -/
def replyIpHeader (ipTotal csum : Nat) (src dst : Ipv4Addr) : Bytes :=
  [0x45, 0x00] ++ beBytes 2 ipTotal ++ [0, 0, 0, 0, 64, 17] ++
    beBytes 2 csum ++ src.octets ++ dst.octets

@[simp]
theorem replyIpHeader_length (ipTotal csum : Nat) (src dst : Ipv4Addr) :
    (replyIpHeader ipTotal csum src dst).length = 20 := by
  simp [replyIpHeader]

/-- The ones-complement sum of the finished header is all ones. -/
theorem replyIpHeader_sum (ipTotal : Nat) (src dst : Ipv4Addr) :
    SumsToOnes (replyIpHeader ipTotal
      (65535 - carryFold (wordSum (replyIpHeader ipTotal 0 src dst)))
        src dst) := by
  have cut (value : Nat) : replyIpHeader ipTotal value src dst =
      ([0x45, 0x00] ++ beBytes 2 ipTotal ++ [0, 0, 0, 0, 64, 17]) ++
        beBytes 2 value ++ (src.octets ++ dst.octets) := by
    simp [replyIpHeader]
  rw [sumsToOnes_iff, cut, cut 0]
  exact carryFold_stored (by simp) _

/-- The header while only the high byte of its checksum is stored. -/
def halfStored (ipTotal csum : Nat) (src dst : Ipv4Addr) : Bytes :=
  beBytes 4 2 ++ ((0x45 : UInt8) :: 0x00 :: (beBytes 2 ipTotal ++
    [0, 0, 0, 0, 64, 17, UInt8.ofNat (csum >>> 8), 0] ++ src.octets ++
    dst.octets))

theorem store_checksum_high (ipTotal csum : Nat) (src dst : Ipv4Addr) :
    store (beBytes 4 2 ++ replyIpHeader ipTotal 0 src dst) (4 + 10)
      (UInt8.ofNat (csum >>> 8)) =
        .ok (halfStored ipTotal csum src dst) := by
  rw [store_eq_ok (by simp)]
  rfl

theorem store_checksum_low (ipTotal csum : Nat) (src dst : Ipv4Addr) :
    store (halfStored ipTotal csum src dst) (4 + 11) (UInt8.ofNat csum) =
      .ok (beBytes 4 2 ++ replyIpHeader ipTotal csum src dst) := by
  rw [store_eq_ok (by simp [halfStored]), replyIpHeader, ← beBytes_two csum]
  rfl

/-- What `build_reply` makes of an intercepted packet. -/
theorem buildReply_eq (build : Build) {ourIp : Ipv4Addr}
    (packet : QueryPacket ourIp) (dnsResp : Bytes) :
    buildReply build packet.bytes dnsResp = .ok
      (beBytes 4 2 ++
        replyIpHeader (28 + dnsResp.length)
          (65535 - carryFold (wordSum
            (replyIpHeader (28 + dnsResp.length) 0 packet.dst ourIp)))
          packet.dst ourIp ++
        (beBytes 2 53 ++ beBytes 2 packet.srcPort ++
          beBytes 2 ((8 + dnsResp.length) % 2 ^ 16) ++ beBytes 2 0) ++
        dnsResp) := by
  have length := packet.bytes_length
  have ipLength := packet.datagram_length
  have atLeast := packet.ihl_ge
  have first : packet.fixedHeader.getD 0 0 = UInt8.ofNat (0x40 + packet.ihl) :=
    rfl
  have af : range packet.bytes 0 4 = .ok (beBytes 4 2) := by
    rw [range_eq_ok (by decide) (by omega), QueryPacket.bytes]
    exact congrArg Except.ok (List.take_left' (beBytes_length 4 2))
  have dst : (packet.fixedHeader.drop 16).take (20 - 16) =
      packet.dst.octets := rfl
  have src : (packet.fixedHeader.drop 12).take (16 - 12) = ourIp.octets := rfl
  have udp : range packet.bytes (4 + 4 * packet.ihl) packet.bytes.length =
      .ok (packet.udpHeader ++ packet.query) := by
    have inner := packet.range_udp
    rw [range_to_end (by omega)] at inner ⊢
    rw [← inner, QueryPacket.bytes, ← List.drop_drop]
    exact congrArg (Except.ok <| List.drop _ ·)
      (List.drop_left' (beBytes_length 4 2))
  rw [buildReply, packet.range_datagram, ok_bind,
    packet.index_datagram (by decide), ok_bind, first, packet.verIhl.2]
  simp only [af, ok_bind, packet.range_fixedHeader (show 16 ≤ 20 by decide)
    (le_refl 20), packet.range_fixedHeader (show 12 ≤ 16 by decide)
    (by decide), dst, src, udp]
  have blank : beBytes 4 2 ++
      [0x45, 0x00, UInt8.ofNat ((20 + 8 + dnsResp.length) >>> 8),
        UInt8.ofNat (20 + 8 + dnsResp.length), 0x00, 0x00, 0x00, 0x00, 64,
        17] ++ List.replicate 2 0 ++ packet.dst.octets ++ ourIp.octets =
      beBytes 4 2 ++
        replyIpHeader (28 + dnsResp.length) 0 packet.dst ourIp := by
    rw [replyIpHeader, ← beBytes_two (28 + dnsResp.length)]
    simp [beBytes, leBytes]
  have outLength : (beBytes 4 2 ++
      replyIpHeader (28 + dnsResp.length) 0 packet.dst ourIp).length = 24 := by
    simp
  have header : range (beBytes 4 2 ++
      replyIpHeader (28 + dnsResp.length) 0 packet.dst ourIp) 4 (4 + 20) =
        .ok (replyIpHeader (28 + dnsResp.length) 0 packet.dst ourIp) := by
    rw [range_eq_ok (by decide) (by simp), List.drop_left' (by simp),
      List.take_of_length_le (by simp)]
  rw [blank, outLength, subtract_eq_ok (by decide), ok_bind, header, ok_bind,
    ipChecksum_eq_ok build (by simp), ok_bind,
    store_checksum_high, ok_bind, store_checksum_low, ok_bind]
  rw [range_eq_ok (by decide) (by simp; omega), ok_bind,
    range_eq_ok (by decide) (by simp; omega), ok_bind, pure_eq_ok]
  have ports : ((packet.udpHeader ++ packet.query).drop 2).take (4 - 2) =
        beBytes 2 53 ∧
      ((packet.udpHeader ++ packet.query).drop 0).take (2 - 0) =
        beBytes 2 packet.srcPort :=
    ⟨rfl, rfl⟩
  have udpTail : [UInt8.ofNat (((8 + dnsResp.length) % 2 ^ 16) >>> 8),
      UInt8.ofNat ((8 + dnsResp.length) % 2 ^ 16), 0x00, 0x00] =
        beBytes 2 ((8 + dnsResp.length) % 2 ^ 16) ++ beBytes 2 0 := by
    rw [← beBytes_two ((8 + dnsResp.length) % 2 ^ 16)]
    rfl
  rw [ports.1, ports.2, udpTail]
  simp only [List.append_assoc]

/-- A response within the bound that `dot_query_inner` enforces. -/
structure DotResponse where
  bytes : Bytes
  bounded : bytes.length ≤ 4096

/-- The layout of a reply to an intercepted packet. -/
structure IsReplyTo {ourIp : Ipv4Addr} (packet : QueryPacket ourIp)
    (response ipHeader udpHeader : Bytes) : Prop where
  header_length : ipHeader.length = 20
  version : ipHeader.head? = some 0x45
  total_length : beWordAt ipHeader 2 2 = 28 + response.length
  protocol : ipHeader.getD 9 0 = 17
  checksum : SumsToOnes ipHeader
  src : (ipHeader.drop 12).take 4 = packet.dst.octets
  dst : ipHeader.drop 16 = ourIp.octets
  ports : udpHeader.take 4 = beBytes 2 53 ++ beBytes 2 packet.srcPort
  udp_header_length : udpHeader.length = 8
  udp_length : beWordAt udpHeader 4 2 = 8 + response.length

/-- Interception, query extraction and reply fit together for every datagram
to port 53 and every response. -/
theorem dnsInterception (build : Build) {ourIp : Ipv4Addr}
    (packet : QueryPacket ourIp) (gatewayIp : Ipv4Addr) (stale : Bytes)
    (response : DotResponse) :
    isDnsToGateway packet.bytes ourIp gatewayIp =
        .ok (some packet.query.length) ∧
      dnsQuery (packet.bytes ++ stale) packet.bytes.length
        packet.query.length = .ok packet.query ∧
      ∃ ipHeader udpHeader,
        buildReply build packet.bytes response.bytes =
          .ok (packet.bytes.take 4 ++ ipHeader ++ udpHeader ++
            response.bytes) ∧
        IsReplyTo packet response.bytes ipHeader udpHeader ∧
        (packet.bytes.take 4 ++ ipHeader ++ udpHeader ++
          response.bytes).length = 32 + response.bytes.length := by
  have bounded := response.bounded
  have af : packet.bytes.take 4 = beBytes 4 2 :=
    List.take_left' (beBytes_length 4 2)
  refine ⟨packet.isDnsToGateway_eq gatewayIp, packet.dnsQuery_eq stale, _, _,
    by rw [af]; exact buildReply_eq build packet response.bytes, ?_, ?_⟩
  · exact
      { header_length := replyIpHeader_length ..
        version := rfl
        total_length := by
          change beNat (beBytes 2 (28 + response.bytes.length)) = _
          rw [beNat_beBytes]
          omega
        protocol := rfl
        checksum := replyIpHeader_sum ..
        src := rfl
        dst := rfl
        ports := rfl
        udp_header_length := by simp
        udp_length := by
          change beNat (beBytes 2
            ((8 + response.bytes.length) % 2 ^ 16)) = _
          rw [beNat_beBytes]
          omega }
  · simp [af]
    omega

end AndroidTether
