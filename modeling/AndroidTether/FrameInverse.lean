import AndroidTether.Frame

/-!
# There and back between utun and Ethernet

The two conversions of `frame.rs` undo each other, up to the address family
word of a packet whose IP version had to be looked up.  A frame without any
payload is the exception: it becomes a packet of four bytes, and `ip_to_eth`
takes none that is shorter than five.
-/

namespace AndroidTether

open ByteWords Checked

/-- The packet that comes back: an unknown address family is replaced by that
of the IP version. -/
def restoredPacket (utunPkt : Bytes) : Bytes :=
  if beWordAt utunPkt 0 4 = afInet ∨ beWordAt utunPkt 0 4 = afInet6 then
    utunPkt
  else
    beBytes 4 (if utunPkt.getD 4 0 >>> 4 = 4 then afInet else afInet6) ++
      utunPkt.drop 4

/-- The frame of an accepted packet turns back into the packet. -/
def RestoresPacket (utunPkt ethBuf : Bytes) (srcMac gatewayMac : MacAddr) :
    Prop :=
  ∀ elen after, ipToEth utunPkt ethBuf srcMac gatewayMac = .ok (elen, after) →
    0 < elen → ∀ utunBuf : Bytes, utunPkt.length ≤ utunBuf.length →
      ethToUtun (after.take elen) utunBuf =
        .ok (utunPkt.length,
          restoredPacket utunPkt ++ utunBuf.drop utunPkt.length)

/-- The packet of an accepted frame turns back into the frame, given its own
addresses. -/
def ReproducesFrame (ethFrame utunBuf : Bytes) : Prop :=
  ∀ ulen after, ethToUtun ethFrame utunBuf = .ok (ulen, after) → 0 < ulen →
    ∀ (dstMac srcMac : MacAddr) (ethBuf : Bytes),
      ethFrame.take 12 = dstMac.bytes ++ srcMac.bytes →
      ethFrame.length ≤ ethBuf.length →
        ipToEth (after.take ulen) ethBuf srcMac dstMac =
          .ok (ethFrame.length, ethFrame ++ ethBuf.drop ethFrame.length)

/-- A conversion returns, and a rejected input leaves its buffer alone. -/
def RejectsCleanly (converted : Checked (Nat × Bytes)) (buf : Bytes) : Prop :=
  ∃ length after, converted = .ok (length, after) ∧
    (length = 0 → after = buf)

/-- An accepted packet comes back with the family of its EtherType. -/
theorem restoredPacket_eq {utunPkt : Bytes} {ethertype : Nat}
    (etherTypeEq : packetEtherType utunPkt = .ok (some ethertype))
    (long : 5 ≤ utunPkt.length) :
    restoredPacket utunPkt =
        beBytes 4 (if ethertype = 0x0800 then 2 else 30) ++ utunPkt.drop 4 ∧
      (ethertype = 0x0800 ∨ ethertype = 0x86DD) := by
  have keeps {family : Nat} (af : beWordAt utunPkt 0 4 = family) :
      utunPkt = beBytes 4 family ++ utunPkt.drop 4 := by
    rw [← af, beBytes_beWordAt (by omega), List.drop_zero,
      List.take_append_drop]
  rw [packetEtherType_eq long] at etherTypeEq
  rw [restoredPacket]
  split_ifs at etherTypeEq with inet inet6 version4 version6
  · cases etherTypeEq
    rw [if_pos (.inl inet)]
    exact ⟨keeps inet, .inl rfl⟩
  · cases etherTypeEq
    rw [if_pos (.inr inet6)]
    exact ⟨keeps inet6, .inr rfl⟩
  · cases etherTypeEq
    rw [if_neg (not_or.mpr ⟨inet, inet6⟩), if_pos version4]
    exact ⟨rfl, .inl rfl⟩
  · cases etherTypeEq
    rw [if_neg (not_or.mpr ⟨inet, inet6⟩), if_neg version4]
    exact ⟨rfl, .inr rfl⟩
  · cases etherTypeEq

theorem restoresPacket (utunPkt ethBuf : Bytes) (srcMac gatewayMac : MacAddr) :
    RestoresPacket utunPkt ethBuf srcMac gatewayMac := by
  intro elen after converted accepted utunBuf room
  rcases ipToEth_cases utunPkt ethBuf srcMac gatewayMac with
    rejected | ⟨ethertype, etherTypeEq, long, fits, converts⟩
  · rw [rejected] at converted
    cases converted
    exact absurd accepted (by decide)
  · rw [converts] at converted
    cases converted
    obtain ⟨restored, known⟩ := restoredPacket_eq etherTypeEq long
    have frameLength : (EthHdr.bytes ⟨gatewayMac, srcMac, ethertype⟩ ++
        utunPkt.drop 4).length = 10 + utunPkt.length := by
      simp
      omega
    have typeWord : beWordAt (EthHdr.bytes ⟨gatewayMac, srcMac, ethertype⟩ ++
        utunPkt.drop 4) 12 2 = ethertype := by
      have cut : ((EthHdr.bytes ⟨gatewayMac, srcMac, ethertype⟩ ++
          utunPkt.drop 4).drop 12).take 2 = beBytes 2 ethertype := by
        rw [EthHdr.bytes, List.append_assoc, List.drop_left'
          (by simp [MacAddr.length_eq]), List.take_left' (beBytes_length ..)]
      rw [beWordAt_beBytes cut]
      rcases known with rfl | rfl <;> rfl
    have carries : CarriesIp utunBuf.length
        (EthHdr.bytes ⟨gatewayMac, srcMac, ethertype⟩ ++ utunPkt.drop 4) := by
      refine ⟨by omega, ?_, by omega⟩
      rw [typeWord]
      exact known
    have packetEq : utunPacket (EthHdr.bytes ⟨gatewayMac, srcMac, ethertype⟩ ++
        utunPkt.drop 4) = restoredPacket utunPkt := by
      rw [utunPacket, typeWord, List.drop_left' (EthHdr.bytes_length _),
        restored]
    have total : 4 + (10 + utunPkt.length - 14) = utunPkt.length := by omega
    rw [List.take_left' frameLength, ethToUtun_of_carriesIp carries,
      packetEq, frameLength, total]

theorem packetEtherType_utunPacket {room : Nat} {frame : Bytes}
    (carries : CarriesIp room frame) (payload : 14 < frame.length) :
    packetEtherType (utunPacket frame) =
      .ok (some (beWordAt frame 12 2)) := by
  have long : 5 ≤ (utunPacket frame).length := by
    rw [utunPacket_length]
    omega
  have family : beWordAt (utunPacket frame) 0 4 =
      if beWordAt frame 12 2 = 0x0800 then 2 else 30 := by
    have cut : ((utunPacket frame).drop 0).take 4 =
        beBytes 4 (if beWordAt frame 12 2 = 0x0800 then 2 else 30) := by
      rw [utunPacket, List.drop_zero, List.take_left' (beBytes_length ..)]
    rw [beWordAt_beBytes cut]
    split_ifs <;> rfl
  rw [packetEtherType_eq long, family]
  rcases carries.2.1 with inet | inet6
  · rw [inet]
    rfl
  · rw [inet6]
    rfl

theorem reproducesFrame {ethFrame : Bytes} (payload : 14 < ethFrame.length)
    (utunBuf : Bytes) : ReproducesFrame ethFrame utunBuf := by
  intro ulen after converted accepted dstMac srcMac ethBuf addresses room
  by_cases carries : CarriesIp utunBuf.length ethFrame
  swap
  · rw [ethToUtun_of_not carries] at converted
    cases converted
    exact absurd accepted (by decide)
  rw [ethToUtun_of_carriesIp carries] at converted
  cases converted
  have packetLength := utunPacket_length ethFrame
  have payloadEq : (utunPacket ethFrame).drop 4 = ethFrame.drop 14 :=
    List.drop_left' (beBytes_length ..)
  have header : EthHdr.bytes ⟨dstMac, srcMac, beWordAt ethFrame 12 2⟩ =
      ethFrame.take 14 := by
    have typeBytes : beBytes 2 (beWordAt ethFrame 12 2) =
        (ethFrame.drop 12).take 2 := beBytes_beWordAt (by omega)
    rw [EthHdr.bytes, ← addresses, typeBytes, ← List.take_add]
  have total : 10 + (utunPacket ethFrame).length = ethFrame.length := by
    omega
  rw [List.take_left' packetLength,
    ipToEth_eq (packetEtherType_utunPacket carries payload) (by omega)
      (by omega), total, header, payloadEq, List.take_append_drop]

theorem ipToEth_rejectsCleanly (utunPkt ethBuf : Bytes)
    (srcMac gatewayMac : MacAddr) :
    RejectsCleanly (ipToEth utunPkt ethBuf srcMac gatewayMac) ethBuf := by
  rcases ipToEth_cases utunPkt ethBuf srcMac gatewayMac with
    rejected | ⟨ethertype, -, -, -, converts⟩
  · exact ⟨0, ethBuf, rejected, fun _ => rfl⟩
  · exact ⟨_, _, converts, fun none => absurd none (by omega)⟩

theorem ethToUtun_rejectsCleanly (ethFrame utunBuf : Bytes) :
    RejectsCleanly (ethToUtun ethFrame utunBuf) utunBuf := by
  by_cases carries : CarriesIp utunBuf.length ethFrame
  · exact ⟨_, _, ethToUtun_of_carriesIp carries,
      fun none => absurd none (by omega)⟩
  · exact ⟨0, utunBuf, ethToUtun_of_not carries, fun _ => rfl⟩

/-- The conversions undo each other on every packet and on every frame that
carries something. -/
theorem conversions_inverse :
    (∀ utunPkt ethBuf srcMac gatewayMac,
      RestoresPacket utunPkt ethBuf srcMac gatewayMac) ∧
    (∀ ethFrame utunBuf, 14 < ethFrame.length →
      ReproducesFrame ethFrame utunBuf) ∧
    (∀ utunPkt ethBuf srcMac gatewayMac,
      RejectsCleanly (ipToEth utunPkt ethBuf srcMac gatewayMac) ethBuf) ∧
    ∀ ethFrame utunBuf,
      RejectsCleanly (ethToUtun ethFrame utunBuf) utunBuf :=
  ⟨restoresPacket, fun _ utunBuf payload => reproducesFrame payload utunBuf,
    ipToEth_rejectsCleanly, ethToUtun_rejectsCleanly⟩

/-- An IPv4 frame that ends behind its header. -/
def headerOnlyFrame : Bytes :=
  MacAddr.broadcast.bytes ++ MacAddr.broadcast.bytes ++ [0x08, 0x00]

/-- `eth_to_utun` accepts such a frame, and `ip_to_eth` rejects the packet. -/
theorem headerOnlyFrame_not_reproduced :
    ethToUtun headerOnlyFrame [0, 0, 0, 0] = .ok (4, [0, 0, 0, 2]) ∧
      ¬ ReproducesFrame headerOnlyFrame [0, 0, 0, 0] := by
  have accepted : ethToUtun headerOnlyFrame [0, 0, 0, 0] =
      .ok (4, [0, 0, 0, 2]) := rfl
  have rejected : ipToEth (([0, 0, 0, 2] : Bytes).take 4) headerOnlyFrame
      .broadcast .broadcast = .ok (0, headerOnlyFrame) := rfl
  refine ⟨accepted, fun reproduces => ?_⟩
  have back := reproduces 4 _ accepted (by decide) .broadcast .broadcast
    headerOnlyFrame rfl le_rfl
  rw [rejected] at back
  exact absurd (Prod.ext_iff.mp (Except.ok.inj back)).1 (by decide)

theorem shortFrame_reproduced :
    ReproducesFrame (headerOnlyFrame ++ [0x45]) [0, 0, 0, 0, 0] :=
  conversions_inverse.2.1 _ _ (by decide)

end AndroidTether
