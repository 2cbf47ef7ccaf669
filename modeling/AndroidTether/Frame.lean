import AndroidTether.NetTypes

/-!
# Between utun packets and Ethernet frames

`ip_to_eth` and `eth_to_utun` of `frame.rs`: the address family word in front
of a packet is replaced by an Ethernet header, and the other way round.
-/

namespace AndroidTether

open ByteWords Checked

def afInet : Nat := 2
def afInet6 : Nat := 30

/-- The EtherType for a packet; an unknown address family is resolved by the
version nibble of the packet. -/
def packetEtherType (utunPkt : Bytes) : Checked (Option Nat) := do
  let af := beNat (← range utunPkt 0 4)
  if af = afInet then return some 0x0800
  else if af = afInet6 then return some 0x86DD
  else
    let ver := (← index utunPkt 4) >>> 4
    if ver = 4 then return some 0x0800
    else if ver = 6 then return some 0x86DD
    else return none

/-- `ip_to_eth`: the length of the frame, zero for a rejected packet, and the
buffer afterwards. -/
def ipToEth (utunPkt ethBuf : Bytes) (srcMac gatewayMac : MacAddr) :
    Checked (Nat × Bytes) := do
  if utunPkt.length < 5 then return (0, ethBuf)
  let ipLen ← subtract utunPkt.length 4
  let total := ethHdrSize + ipLen
  if total > ethBuf.length then return (0, ethBuf)
  match ← packetEtherType utunPkt with
  | none => return (0, ethBuf)
  | some ethertype =>
    let ethBuf ←
      rawWrite ethBuf 0 (EthHdr.bytes ⟨gatewayMac, srcMac, ethertype⟩)
    let ethBuf ←
      copyInto ethBuf ethHdrSize (← range utunPkt 4 utunPkt.length)
    return (total, ethBuf)

/-- `eth_to_utun`: the length of the packet, zero for a rejected frame, and
the buffer afterwards. -/
def ethToUtun (ethFrame utunBuf : Bytes) : Checked (Nat × Bytes) := do
  if ethFrame.length < ethHdrSize then return (0, utunBuf)
  let ethertype := beWordAt ethFrame 12 2
  let ipLen ← subtract ethFrame.length ethHdrSize
  let total := 4 + ipLen
  if total > utunBuf.length then return (0, utunBuf)
  match (if ethertype = 0x0800 then some afInet
    else if ethertype = 0x86DD then some afInet6 else none) with
  | none => return (0, utunBuf)
  | some af =>
    let utunBuf ← copyInto utunBuf 0 (beBytes 4 af)
    let utunBuf ←
      copyInto utunBuf 4 (← range ethFrame ethHdrSize ethFrame.length)
    return (total, utunBuf)

theorem packetEtherType_eq {utunPkt : Bytes} (long : 5 ≤ utunPkt.length) :
    packetEtherType utunPkt = .ok
      (if beWordAt utunPkt 0 4 = afInet then some 0x0800
      else if beWordAt utunPkt 0 4 = afInet6 then some 0x86DD
      else if utunPkt.getD 4 0 >>> 4 = 4 then some 0x0800
      else if utunPkt.getD 4 0 >>> 4 = 6 then some 0x86DD
      else none) := by
  have af : beNat ((utunPkt.drop 0).take (4 - 0)) = beWordAt utunPkt 0 4 := rfl
  rw [packetEtherType, range_eq_ok (by decide) (by omega), ok_bind, af,
    index_eq_ok (by omega), ok_bind]
  dsimp only
  split_ifs <;> rfl

theorem packetEtherType_eq_ok {utunPkt : Bytes} (long : 5 ≤ utunPkt.length) :
    ∃ ethertype, packetEtherType utunPkt = .ok ethertype ∧
      (beWordAt utunPkt 0 4 = afInet → ethertype = some 0x0800) ∧
      (beWordAt utunPkt 0 4 = afInet6 → ethertype = some 0x86DD) ∧
      ∀ value ∈ ethertype, value = 0x0800 ∨ value = 0x86DD := by
  refine ⟨_, packetEtherType_eq long, fun inet => if_pos inet,
    fun inet6 => ?_, ?_⟩
  · rw [inet6]
    rfl
  · split_ifs <;> simp

theorem packetEtherType_inet {utunPkt : Bytes} (long : 5 ≤ utunPkt.length)
    (af : beWordAt utunPkt 0 4 = afInet) :
    packetEtherType utunPkt = .ok (some 0x0800) := by
  rw [packetEtherType_eq long, if_pos af]

/-- A frame is made of a header and the packet without its first word. -/
theorem ipToEth_eq {utunPkt ethBuf : Bytes} {srcMac gatewayMac : MacAddr}
    {ethertype : Nat}
    (etherTypeEq : packetEtherType utunPkt = .ok (some ethertype))
    (long : 5 ≤ utunPkt.length) (fits : 10 + utunPkt.length ≤ ethBuf.length) :
    ipToEth utunPkt ethBuf srcMac gatewayMac =
      .ok (10 + utunPkt.length,
        EthHdr.bytes ⟨gatewayMac, srcMac, ethertype⟩ ++ utunPkt.drop 4 ++
          ethBuf.drop (10 + utunPkt.length)) := by
  have total : 14 + (utunPkt.length - 4) = 10 + utunPkt.length := by omega
  have header := patch_append [] ethBuf
    (EthHdr.bytes ⟨gatewayMac, srcMac, ethertype⟩)
  simp only [EthHdr.bytes_length, List.nil_append, List.length_nil] at header
  have notLarge : ¬ ethHdrSize + (utunPkt.length - 4) > ethBuf.length := by
    rw [ethHdrSize]
    omega
  rw [ipToEth, if_neg (by omega), subtract_eq_ok (by omega), ok_bind]
  dsimp only
  rw [if_neg notLarge, etherTypeEq, ok_bind]
  simp only [ethHdrSize]
  rw [rawWrite_eq_ok (by simp; omega), header, ok_bind,
    range_to_end (by omega), ok_bind,
    copyInto_append (by simp) (by simp; omega), ok_bind, List.drop_drop,
    List.length_drop, total]
  rfl

/-- A rejected packet leaves the buffer alone. -/
theorem ipToEth_cases (utunPkt ethBuf : Bytes)
    (srcMac gatewayMac : MacAddr) :
    ipToEth utunPkt ethBuf srcMac gatewayMac = .ok (0, ethBuf) ∨
      ∃ ethertype, packetEtherType utunPkt = .ok (some ethertype) ∧
        5 ≤ utunPkt.length ∧ 10 + utunPkt.length ≤ ethBuf.length ∧
        ipToEth utunPkt ethBuf srcMac gatewayMac =
          .ok (10 + utunPkt.length,
            EthHdr.bytes ⟨gatewayMac, srcMac, ethertype⟩ ++ utunPkt.drop 4 ++
              ethBuf.drop (10 + utunPkt.length)) := by
  by_cases short : utunPkt.length < 5
  · exact .inl (if_pos short)
  obtain ⟨ethertype, etherTypeEq, -⟩ := packetEtherType_eq_ok
    (show 5 ≤ utunPkt.length by omega)
  by_cases large : ethHdrSize + (utunPkt.length - 4) > ethBuf.length
  · rw [ipToEth, if_neg short, subtract_eq_ok (by omega), ok_bind]
    exact .inl (if_pos large)
  cases ethertype with
  | none =>
      rw [ipToEth, if_neg short, subtract_eq_ok (by omega), ok_bind]
      dsimp only
      rw [if_neg large, etherTypeEq]
      exact .inl rfl
  | some ethertype =>
      have fits : 10 + utunPkt.length ≤ ethBuf.length := by
        rw [ethHdrSize] at large
        omega
      exact .inr ⟨ethertype, etherTypeEq, by omega, fits,
        ipToEth_eq etherTypeEq (by omega) fits⟩

/-- A frame that `eth_to_utun` accepts when the buffer holds `room` bytes. -/
def CarriesIp (room : Nat) (frame : Bytes) : Prop :=
  14 ≤ frame.length ∧
    (beWordAt frame 12 2 = 0x0800 ∨ beWordAt frame 12 2 = 0x86DD) ∧
    frame.length ≤ room + 10

instance (room : Nat) (frame : Bytes) : Decidable (CarriesIp room frame) := by
  unfold CarriesIp
  infer_instance

/-- The packet of such a frame: the address family and the payload. -/
def utunPacket (frame : Bytes) : Bytes :=
  beBytes 4 (if beWordAt frame 12 2 = 0x0800 then 2 else 30) ++ frame.drop 14

theorem utunPacket_length (frame : Bytes) :
    (utunPacket frame).length = 4 + (frame.length - 14) := by
  simp [utunPacket]

theorem ethToUtun_of_carriesIp {ethFrame utunBuf : Bytes}
    (carries : CarriesIp utunBuf.length ethFrame) :
    ethToUtun ethFrame utunBuf =
      .ok (4 + (ethFrame.length - 14),
        utunPacket ethFrame ++
          utunBuf.drop (4 + (ethFrame.length - 14))) := by
  obtain ⟨long, etherType, fits⟩ := carries
  have family : (if beWordAt ethFrame 12 2 = 0x0800 then some afInet
      else if beWordAt ethFrame 12 2 = 0x86DD then some afInet6 else none) =
        some (if beWordAt ethFrame 12 2 = 0x0800 then 2 else 30) := by
    rcases etherType with inet | inet6
    · rw [inet]
      rfl
    · rw [inet6]
      rfl
  have word := patch_append [] utunBuf
    (beBytes 4 (if beWordAt ethFrame 12 2 = 0x0800 then 2 else 30))
  simp only [beBytes_length, List.nil_append, List.length_nil] at word
  rw [ethToUtun, if_neg (by rw [ethHdrSize]; omega)]
  dsimp only
  rw [ethHdrSize, subtract_eq_ok long, ok_bind, if_neg (by omega), family]
  dsimp only
  rw [copyInto_eq_ok (by rw [beBytes_length]; omega), word, ok_bind,
    range_to_end long, ok_bind,
    copyInto_append (by simp) (by simp; omega), ok_bind, List.drop_drop,
    List.length_drop]
  rfl

theorem ethToUtun_of_not {ethFrame utunBuf : Bytes}
    (rejected : ¬ CarriesIp utunBuf.length ethFrame) :
    ethToUtun ethFrame utunBuf = .ok (0, utunBuf) := by
  rw [ethToUtun]
  by_cases short : ethFrame.length < ethHdrSize
  · exact if_pos short
  rw [if_neg short, subtract_eq_ok (by omega), ok_bind]
  dsimp only
  by_cases large : 4 + (ethFrame.length - ethHdrSize) > utunBuf.length
  · exact if_pos large
  rw [if_neg large]
  rw [ethHdrSize] at short large
  have otherType : ¬ (beWordAt ethFrame 12 2 = 0x0800 ∨
      beWordAt ethFrame 12 2 = 0x86DD) := fun etherType =>
    rejected ⟨by omega, etherType, by omega⟩
  rw [if_neg fun inet => otherType (.inl inet),
    if_neg fun inet6 => otherType (.inr inet6)]
  rfl

end AndroidTether
