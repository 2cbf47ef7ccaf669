import AndroidTether.TxLoop

/-!
# Plain DNS on the USB side

Which frames with a DNS datagram the TX loop hands out.  Interception and
framing read the same packet, so a datagram that has room for a DNS message
is always diverted first; what lets it through all the same is the warm-up,
until the first encrypted answer sets its flag.
-/

namespace AndroidTether

open ByteWords Checked

/-- `IHL` in bytes. -/
def ipHeaderLength (ip : Bytes) : Nat :=
  ((ip.getD 0 0 &&& 0x0F) * 4).toNat

/-- An IPv4 UDP datagram from `ourIp` to port 53 that begins in `ip`: a first
or only fragment with a whole UDP header. -/
structure IsDnsDatagram (ourIp : Ipv4Addr) (ip : Bytes) : Prop where
  version : ip.getD 0 0 &&& 0xF0 = 0x40
  header : 20 ≤ ipHeaderLength ip
  udp_inside : ipHeaderLength ip + 8 ≤ ip.length
  protocol : ip.getD 9 0 = 17
  first_fragment : beWordAt ip 6 2 % 0x2000 = 0
  source : beWordAt ip 12 4 = ourIp.toNat
  port : beWordAt ip (ipHeaderLength ip + 2) 2 = 53

/-- The frame that `ip_to_eth` makes of a packet. -/
def framedPacket (config : TxConfig) (gatewayMac : MacAddr) (ethertype : Nat)
    (packet : Bytes) : Bytes :=
  EthHdr.bytes ⟨gatewayMac, config.hostMac, ethertype⟩ ++ packet.drop 4

theorem framedPacket_length (config : TxConfig) (gatewayMac : MacAddr)
    (ethertype : Nat) {packet : Bytes} (long : 5 ≤ packet.length) :
    (framedPacket config gatewayMac ethertype packet).length =
      10 + packet.length := by
  simp [framedPacket]
  omega

theorem framedPacket_datagram (config : TxConfig) (gatewayMac : MacAddr)
    (ethertype : Nat) (packet : Bytes) :
    (framedPacket config gatewayMac ethertype packet).drop 14 =
      packet.drop 4 :=
  List.drop_left' (EthHdr.bytes_length _)

/-- A message is the encoding of the frame of its packet. -/
def IsFramed (config : TxConfig) (packet message : Bytes) : Prop :=
  ∃ gatewayMac ethertype,
    5 ≤ packet.length ∧ packet.length ≤ tunBufSize ∧
    packetEtherType packet = .ok (some ethertype) ∧
    message = dataPacketHeader (10 + packet.length) ++
      framedPacket config gatewayMac ethertype packet

/-- A packet with a known EtherType is framed when both buffers have room. -/
theorem frameMessage_eq {config : TxConfig} {gatewayMac : MacAddr}
    {packet ebuf rbuf : Bytes} {ethertype : Nat}
    (etherTypeEq : packetEtherType packet = .ok (some ethertype))
    (long : 5 ≤ packet.length) (fits : 10 + packet.length ≤ ebuf.length)
    (room : 54 + packet.length ≤ rbuf.length) :
    ∃ ebuf' rbuf', frameMessage config gatewayMac packet ebuf rbuf =
        .ok (some (dataPacketHeader (10 + packet.length) ++
          framedPacket config gatewayMac ethertype packet), ebuf', rbuf') ∧
      ebuf'.length = ebuf.length ∧ rbuf'.length = rbuf.length := by
  have frameLength := framedPacket_length config gatewayMac ethertype long
  unfold frameMessage
  rw [ipToEth_eq etherTypeEq long fits, ← framedPacket, ok_bind]
  dsimp only
  rw [if_neg (by omega), range_eq_ok (by omega) (by simp; omega), ok_bind,
    List.drop_zero, Nat.sub_zero, List.take_left' frameLength,
    buildDataPacket_eq (by omega), ok_bind, frameLength]
  dsimp only
  rw [range_eq_ok (by omega) (by simp; omega), ok_bind, List.drop_zero,
    Nat.sub_zero, List.take_left' (by simp; omega)]
  refine ⟨_, _, rfl, ?_, ?_⟩
  · rw [List.length_append, frameLength, List.length_drop]
    omega
  · simp only [List.length_append, dataPacketHeader_length, frameLength,
      List.length_drop]
    omega

/-- Framing keeps the size of its buffer, and a message holds no more than the
header and what that buffer can hold. -/
theorem frameMessage_cases (config : TxConfig) (gatewayMac : MacAddr)
    (packet ebuf rbuf : Bytes) (bounded : packet.length ≤ tunBufSize) :
    ∃ message ebuf' rbuf',
      frameMessage config gatewayMac packet ebuf rbuf =
          .ok (message, ebuf', rbuf') ∧
        ebuf'.length = ebuf.length ∧
        ∀ bytes ∈ message, IsFramed config packet bytes ∧
          bytes.length ≤ 44 + ebuf.length := by
  rcases ipToEth_cases packet ebuf config.hostMac gatewayMac with
    rejected | ⟨ethertype, etherTypeEq, long, fits, framed⟩
  · rw [frameMessage, rejected]
    exact ⟨none, _, _, rfl, rfl, by simp⟩
  have frameLength := framedPacket_length config gatewayMac ethertype long
  by_cases room : 54 + packet.length ≤ rbuf.length
  · obtain ⟨ebuf', rbuf', messageEq, ebufLength, -⟩ := @frameMessage_eq config
      gatewayMac packet ebuf rbuf ethertype etherTypeEq long fits room
    refine ⟨some _, ebuf', rbuf', messageEq, ebufLength, ?_⟩
    rintro bytes ⟨⟩
    refine ⟨⟨gatewayMac, ethertype, long, bounded, etherTypeEq, rfl⟩, ?_⟩
    rw [List.length_append, dataPacketHeader_length, frameLength]
    omega
  · unfold frameMessage
    rw [framed, ← framedPacket, ok_bind]
    dsimp only
    rw [if_neg (by omega), range_eq_ok (by omega) (by simp; omega), ok_bind,
      List.drop_zero, Nat.sub_zero, List.take_left' frameLength,
      buildDataPacket_small (by omega), ok_bind]
    refine ⟨none, _, _, rfl, ?_, by simp⟩
    rw [List.length_append, frameLength, List.length_drop]
    omega

/-- What the interceptor looks at in a packet. -/
structure TakenForDns (ourIp : Ipv4Addr) (packet : Bytes) : Prop where
  long : 44 ≤ packet.length
  family : beWordAt packet 0 4 = 2
  version : (packet.drop 4).getD 0 0 &&& 0xF0 = 0x40
  udp_inside : 4 + ipHeaderLength (packet.drop 4) + 8 ≤ packet.length
  protocol : (packet.drop 4).getD 9 0 = 17
  source : beWordAt (packet.drop 4) 12 4 = ourIp.toNat
  port :
    beWordAt (packet.drop 4) (ipHeaderLength (packet.drop 4) + 2) 2 = 53

/-- The interceptor never panics; what it reports lies behind a whole UDP
header. -/
theorem isDnsToGateway_cases (packet : Bytes) (ourIp gatewayIp : Ipv4Addr) :
    TakenForDns ourIp packet ∧ isDnsToGateway packet ourIp gatewayIp =
        .ok (some (packet.length - (4 + ipHeaderLength (packet.drop 4) + 8))) ∨
      ¬ TakenForDns ourIp packet ∧
        isDnsToGateway packet ourIp gatewayIp = .ok none := by
  by_cases short : packet.length < 44
  · exact .inr ⟨fun taken => absurd taken.long (by omega), if_pos short⟩
  have ipLength : (packet.drop 4).length = packet.length - 4 := by simp
  have afWord : beNat ((packet.drop 0).take (4 - 0)) = beWordAt packet 0 4 :=
    rfl
  rw [isDnsToGateway, if_neg short, range_eq_ok (by decide) (by omega), ok_bind,
    afWord]
  by_cases family : beWordAt packet 0 4 = 2
  swap
  · exact .inr ⟨fun taken => family taken.family, if_pos family⟩
  rw [if_neg (not_not.mpr family), range_to_end (by omega), ok_bind,
    index_eq_ok (by omega), ok_bind]
  by_cases version : (packet.drop 4).getD 0 0 &&& 0xF0 = 0x40
  swap
  · exact .inr ⟨fun taken => version taken.version, if_pos version⟩
  have headerLength : (((packet.drop 4).getD 0 0 &&& 0x0F) * 4).toNat =
      ipHeaderLength (packet.drop 4) := rfl
  rw [if_neg (not_not.mpr version), headerLength]
  by_cases inside : 4 + ipHeaderLength (packet.drop 4) + 8 ≤ packet.length
  swap
  · exact .inr ⟨fun taken => inside taken.udp_inside,
      if_pos (show (packet.drop 4).length < _ by omega)⟩
  rw [if_neg (by omega), index_eq_ok (by omega), ok_bind]
  by_cases protocol : (packet.drop 4).getD 9 0 = 17
  swap
  · exact .inr ⟨fun taken => protocol taken.protocol, if_pos protocol⟩
  have sourceBytes := @beWordAt_eq_bytes (packet.drop 4) 12 4 (by omega)
  have portBytes := @beWordAt_eq_bytes (packet.drop 4)
    (ipHeaderLength (packet.drop 4) + 2) 2 (by omega)
  have udpByte {offset : Nat} (small : offset < 8) :
      index ((packet.drop 4).drop (ipHeaderLength (packet.drop 4))) offset =
        .ok ((packet.drop 4).getD
          (ipHeaderLength (packet.drop 4) + offset) 0) := by
    rw [index_eq_ok (by rw [List.length_drop]; omega)]
    simp [List.getD, Nat.add_assoc]
  simp only [List.range', List.map] at sourceBytes portBytes
  rw [if_neg (not_not.mpr protocol), index_eq_ok (by omega), ok_bind,
    index_eq_ok (by omega), ok_bind, index_eq_ok (by omega), ok_bind,
    index_eq_ok (by omega), ok_bind, ← sourceBytes]
  by_cases source : beWordAt (packet.drop 4) 12 4 = ourIp.toNat
  swap
  · exact .inr ⟨fun taken => source taken.source, if_pos source⟩
  rw [if_neg (not_not.mpr source), range_to_end (by omega), ok_bind,
    udpByte (by decide), ok_bind, udpByte (by decide), ok_bind, ← portBytes]
  by_cases port :
      beWordAt (packet.drop 4) (ipHeaderLength (packet.drop 4) + 2) 2 = 53
  swap
  · exact .inr ⟨fun taken => port taken.port, if_pos port⟩
  rw [if_neg (not_not.mpr port)]
  dsimp only
  rw [subtract_eq_ok inside]
  exact .inl ⟨⟨by omega, family, version, inside, protocol, source, port⟩, rfl⟩

theorem isDnsToGateway_eq_some_iff {packet : Bytes}
    {ourIp gatewayIp : Ipv4Addr} {dnsLen : Nat} :
    isDnsToGateway packet ourIp gatewayIp = .ok (some dnsLen) ↔
      TakenForDns ourIp packet ∧
        dnsLen =
          packet.length - (4 + ipHeaderLength (packet.drop 4) + 8) := by
  rcases isDnsToGateway_cases packet ourIp gatewayIp with
    ⟨taken, isDns⟩ | ⟨notTaken, passed⟩
  · rw [isDns, Except.ok.injEq, Option.some.injEq]
    exact ⟨fun lengthEq => ⟨taken, lengthEq.symm⟩,
      fun both => both.2.symm⟩
  · rw [passed]
    exact ⟨fun both => (nomatch both), fun both => absurd both.1 notTaken⟩

/-- The test looks at the packet at the front of the buffer. -/
theorem interceptedQuery_append (config : TxConfig) (packet stale : Bytes) :
    interceptedQuery config (packet ++ stale) packet.length = (do
      match ← isDnsToGateway packet config.ourIp config.gatewayIp with
      | none => return none
      | some dnsLen =>
        return some (← dnsQuery (packet ++ stale) packet.length dnsLen)) := by
  have front : range (packet ++ stale) 0 packet.length = .ok packet := by
    rw [range_eq_ok (Nat.zero_le _) (by simp), List.drop_zero, Nat.sub_zero,
      List.take_left]
  unfold interceptedQuery
  exact congrArg (· >>= _) front

theorem interceptedQuery_pass {config : TxConfig} {tbuf : Bytes} {tlen : Nat}
    (inside : tlen ≤ tbuf.length)
    (passed : interceptedQuery config tbuf tlen = .ok none) (dnsLen : Nat) :
    isDnsToGateway (tbuf.take tlen) config.ourIp config.gatewayIp ≠
      .ok (some dnsLen) := by
  intro isDns
  rw [interceptedQuery, range_eq_ok (Nat.zero_le _) inside, ok_bind,
    List.drop_zero, Nat.sub_zero, isDns, ok_bind] at passed
  cases query : dnsQuery tbuf tlen dnsLen <;> simp [query] at passed

/-- The packet is the last one that was read. -/
def LastRead (trace : List TxEvent) (packet : Bytes) : Prop :=
  ∃ before after, trace = before ++ .read packet :: after ∧
    ∀ other, .read other ∉ after

/-- Since the packet was read, its query has gone to the resolver's channel,
which has taken it or not. -/
def Diverted (trace before : List TxEvent) (packet : Bytes) (sent : Bool) :
    Prop :=
  ∃ query after, trace = before ++ .diverted packet query sent :: after ∧
    LastRead before packet ∧ ∀ other, .read other ∉ after

/-- And that was before an encrypted answer had set the warm-up flag. -/
def DivertedCold (trace : List TxEvent) (packet : Bytes) (sent : Bool) :
    Prop :=
  ∃ before, Diverted trace before packet sent ∧ .warmed ∉ before

theorem noRead_concat {after : List TxEvent} {event : TxEvent}
    (noRead : ∀ other, .read other ∉ after)
    (quiet : ∀ other, event ≠ .read other) :
    ∀ other, .read other ∉ after ++ [event] := by
  intro other member
  rcases List.mem_append.mp member with earlier | isLast
  · exact noRead other earlier
  · exact quiet other (List.mem_singleton.mp isLast).symm

theorem LastRead.concat {trace : List TxEvent} {packet : Bytes}
    {event : TxEvent} (last : LastRead trace packet)
    (quiet : ∀ other, event ≠ .read other) :
    LastRead (trace ++ [event]) packet := by
  obtain ⟨before, after, rfl, noRead⟩ := last
  exact ⟨before, after ++ [event], by simp, noRead_concat noRead quiet⟩

theorem Diverted.concat {trace before : List TxEvent} {packet : Bytes}
    {sent : Bool} {event : TxEvent}
    (diverted : Diverted trace before packet sent)
    (quiet : ∀ other, event ≠ .read other) :
    Diverted (trace ++ [event]) before packet sent := by
  obtain ⟨query, after, rfl, last, noRead⟩ := diverted
  exact ⟨query, after ++ [event], by simp, last, noRead_concat noRead quiet⟩

theorem DivertedCold.concat {trace : List TxEvent} {packet : Bytes}
    {sent : Bool} {event : TxEvent} (diverted : DivertedCold trace packet sent)
    (quiet : ∀ other, event ≠ .read other) :
    DivertedCold (trace ++ [event]) packet sent := by
  obtain ⟨before, diverted, cold⟩ := diverted
  exact ⟨before, diverted.concat quiet, cold⟩

/-- What allows a packet to go on to the phone. -/
def Excused (config : TxConfig) (trace : List TxEvent) (packet : Bytes) :
    Prop :=
  ∀ dnsLen, isDnsToGateway packet config.ourIp config.gatewayIp =
    .ok (some dnsLen) → ∃ sent, DivertedCold trace packet sent

theorem Excused.concat {config : TxConfig} {trace : List TxEvent}
    {packet : Bytes} {event : TxEvent} (excused : Excused config trace packet)
    (quiet : ∀ other, event ≠ .read other) :
    Excused config (trace ++ [event]) packet := by
  intro dnsLen isDns
  obtain ⟨sent, diverted⟩ := excused dnsLen isDns
  exact ⟨sent, diverted.concat quiet⟩

/-- What the loop knows of its current packet at each position. -/
def TxPc.Accounted (config : TxConfig) (trace : List TxEvent)
    (tbuf : Bytes) : TxPc → Prop
  | .received _ tlen | .intercepting _ tlen =>
      tlen ≤ tbuf.length ∧ LastRead trace (tbuf.take tlen)
  | .testingWarm _ tlen =>
      tlen ≤ tbuf.length ∧
        ∃ before sent, Diverted trace before (tbuf.take tlen) sent
  | .forwarding _ tlen =>
      tlen ≤ tbuf.length ∧ Excused config trace (tbuf.take tlen)
  | .sending _ packet message =>
      Excused config trace packet ∧ IsFramed config packet message
  | .polling | .readable | .batch _ | .finished => True

theorem TxPc.Accounted.concat {config : TxConfig} {trace : List TxEvent}
    {tbuf : Bytes} {pc : TxPc} {event : TxEvent}
    (accounted : pc.Accounted config trace tbuf)
    (quiet : ∀ other, event ≠ .read other) :
    pc.Accounted config (trace ++ [event]) tbuf := by
  cases pc with
  | received count tlen | intercepting count tlen =>
      exact ⟨accounted.1, accounted.2.concat quiet⟩
  | testingWarm count tlen =>
      obtain ⟨inside, before, sent, diverted⟩ := accounted
      exact ⟨inside, before, sent, diverted.concat quiet⟩
  | forwarding count tlen => exact ⟨accounted.1, accounted.2.concat quiet⟩
  | sending count packet message =>
      exact ⟨accounted.1.concat quiet, accounted.2⟩
  | polling | readable | batch count | finished => trivial

/-- The invariant of the TX loop in an encrypted mode. -/
structure TxInvariant (config : TxConfig) (trace : List TxEvent)
    (s : TxState) : Prop where
  size : s.tbuf.length = tunBufSize
  cold : s.warm = false → .warmed ∉ trace
  /-- Only a resolver that has ended does not get a query. -/
  lost : ∀ packet query, .diverted packet query false ∈ trace →
    s.dnsOpen = false
  accounted : s.pc.Accounted config trace s.tbuf

namespace TxInvariant

variable {config : TxConfig} {trace : List TxEvent} {s : TxState}

theorem initial : TxInvariant config [] .initial where
  size := List.length_replicate
  cold _ := List.not_mem_nil
  lost _ _ member := absurd member List.not_mem_nil
  accounted := trivial

theorem lost_concat {next : TxState} {event : TxEvent}
    (inv : TxInvariant config trace s) (stays : next.dnsOpen → s.dnsOpen)
    (now : ∀ packet query, event = .diverted packet query false →
      s.dnsOpen = false) :
    ∀ packet query, .diverted packet query false ∈ trace ++ [event] →
      next.dnsOpen = false := by
  intro packet query member
  have closed : s.dnsOpen = false := by
    rcases List.mem_append.mp member with earlier | isLast
    · exact inv.lost packet query earlier
    · exact now packet query (List.mem_singleton.mp isLast).symm
  exact Bool.eq_false_iff.mpr fun isOpen =>
    Bool.false_ne_true (closed.symm.trans (stays isOpen))

/-- Most steps keep the packet buffer, the warm-up flag and the channel. -/
theorem move {next : TxState} {event : TxEvent}
    (inv : TxInvariant config trace s) (quiet : event ≠ .warmed)
    (sent : ∀ packet query, event ≠ .diverted packet query false)
    (sameBuffer : next.tbuf = s.tbuf) (sameWarm : next.warm = s.warm)
    (stays : next.dnsOpen → s.dnsOpen)
    (accounted : next.pc.Accounted config (trace ++ [event]) s.tbuf) :
    TxInvariant config (trace ++ [event]) next where
  size := by rw [sameBuffer, inv.size]
  cold notWarm := by
    have before := inv.cold (sameWarm ▸ notWarm)
    simp [before, quiet.symm]
  lost := inv.lost_concat stays fun packet query isDiverted =>
    absurd isDiverted (sent packet query)
  accounted := sameBuffer ▸ accounted

theorem step {next : TxState} {event : TxEvent}
    (encrypted : config.dnsMode ≠ .system) (inv : TxInvariant config trace s)
    (taken : TxStep config s event next) :
    TxInvariant config (trace ++ [event]) next := by
  have kept := @TxPc.Accounted.concat _ _ _ _ event inv.accounted
  cases taken with
  | pollTimeout | resolverTakes | resolverFails | learnGateway | stop =>
      exact inv.move (by simp) (by simp) rfl rfl id (kept (by simp))
  | resolverStops =>
      exact inv.move (by simp) (by simp) rfl rfl (by simp) (kept (by simp))
  | pollReadable | pollStopped | readableGo | readableStopped | readNothing
  | batchDone | receivedStopped | interceptPanics | warmSkips | reject
  | forwardPanics | send | sendFails =>
      exact inv.move (by simp) (by simp) rfl rfl id trivial
  | @readPacket count packet _ _ _ fits =>
      have taken : (packet ++ s.tbuf.drop packet.length).take packet.length =
          packet :=
        List.take_left
      have size := inv.size
      refine ⟨by simp; omega, fun notWarm => ?_,
        inv.lost_concat id (by simp), by simp, ?_⟩
      · simp [inv.cold notWarm]
      · simp only
        rw [taken]
        exact ⟨trace, [], rfl, fun _ => List.not_mem_nil⟩
  | @receivedGo count tlen atPc =>
      rw [atPc] at kept
      refine inv.move (by simp) (by simp) rfl rfl id ?_
      rw [if_neg encrypted]
      exact kept (by simp)
  | @intercept count tlen query atPc diverted =>
      have accounted := inv.accounted
      rw [atPc] at accounted
      refine ⟨inv.size, fun notWarm => ?_, inv.lost_concat id ?_,
        accounted.1, trace, s.dnsOpen, query, [], rfl, accounted.2,
        fun _ => List.not_mem_nil⟩
      · simp [inv.cold notWarm]
      · rintro packet query isDiverted
        exact (TxEvent.diverted.inj isDiverted).2.2
  | @pass count tlen atPc passed =>
      have accounted := inv.accounted
      rw [atPc] at accounted
      exact inv.move (by simp) (by simp) rfl rfl id
        ⟨accounted.1, fun dnsLen isDns =>
          absurd isDns (interceptedQuery_pass accounted.1 passed dnsLen)⟩
  | @coldForwards count tlen atPc notWarm =>
      have accounted := inv.accounted
      rw [atPc] at accounted
      obtain ⟨inside, before, sent, diverted⟩ := accounted
      have cold : .warmed ∉ before := by
        obtain ⟨query, after, traceEq, -⟩ := diverted
        have notWarmed := inv.cold notWarm
        rw [traceEq] at notWarmed
        exact fun warmed => notWarmed (List.mem_append_left _ warmed)
      exact inv.move (by simp) (by simp) rfl rfl id ⟨inside, fun _ _ =>
        ⟨sent, before, diverted.concat (by simp), cold⟩⟩
  | @forward count tlen message ebuf rbuf atPc framed =>
      rw [atPc] at kept
      have size := inv.size
      obtain ⟨result, ebuf', rbuf', resultEq, -, isFramed⟩ :=
        frameMessage_cases config s.gatewayMac (s.tbuf.take tlen) s.ebuf
          s.rbuf (by simp; omega)
      rw [framed] at resultEq
      cases resultEq
      exact inv.move (by simp) (by simp) rfl rfl id
        ⟨(kept (by simp)).2, (isFramed _ rfl).1⟩
  | resolverAnswers =>
      exact ⟨inv.size, fun notWarm => absurd notWarm (by simp),
        inv.lost_concat id (by simp), kept (by simp)⟩

theorem of_run {state : TxState} (encrypted : config.dnsMode ≠ .system)
    (run : Run (TxStep config) .initial trace state) :
    TxInvariant config trace state :=
  run.history initial fun inv taken => inv.step encrypted taken

end TxInvariant

/-- The state in which a packet that was read first is looked at. -/
def TxState.afterRead (packet : Bytes) : TxState :=
  { TxState.initial with
    tbuf := packet ++ TxState.initial.tbuf.drop packet.length
    pc := .intercepting 0 packet.length }

theorem run_afterRead {config : TxConfig} (encrypted : config.dnsMode ≠ .system)
    {packet : Bytes} (nonempty : packet ≠ [])
    (fits : packet.length ≤ tunBufSize) :
    Run (TxStep config) .initial [.tau, .tau, .read packet, .tau]
      (.afterRead packet) := by
  have readable := Run.nil.snoc
    (@TxStep.pollReadable config .initial rfl rfl)
  have batch := readable.snoc (.readableGo rfl rfl)
  have received := batch.snoc (.readPacket packet rfl (by decide) nonempty
    (by simpa [TxState.initial] using fits))
  have looked := received.snoc (.receivedGo rfl rfl)
  rw [if_neg encrypted] at looked
  exact looked

theorem run_handed {config : TxConfig} {trace : List TxEvent} {s : TxState}
    {packet : Bytes} {ethertype : Nat} (run : Run (TxStep config) .initial trace s)
    (atPc : s.pc = .forwarding 0 packet.length)
    (current : s.tbuf.take packet.length = packet)
    (etherTypeEq : packetEtherType packet = .ok (some ethertype))
    (long : 5 ≤ packet.length) (fits : packet.length ≤ ethBufSize - 10)
    (ebufLength : s.ebuf.length = ethBufSize)
    (rbufLength : s.rbuf.length = rndisBufSize) :
    ∃ final, Run (TxStep config) .initial
      (trace ++ [.tau] ++ [.handed packet
        (dataPacketHeader (10 + packet.length) ++
          framedPacket config s.gatewayMac ethertype packet)]) final := by
  have ethSize : ethBufSize = 2048 := rfl
  have rndisSize : rndisBufSize = 32768 := rfl
  obtain ⟨ebuf, rbuf, framed, -⟩ := @frameMessage_eq config s.gatewayMac packet
    s.ebuf s.rbuf ethertype etherTypeEq long (by omega) (by omega)
  have sending := run.snoc (.forward atPc (by rw [current]; exact framed))
  have handed := sending.snoc (.send rfl)
  rw [current] at handed
  exact ⟨_, handed⟩

/-- The same for a packet that is not diverted. -/
def passedFirst (packet : Bytes) : List TxEvent :=
  [.tau, .tau, .read packet, .tau, .tau, .tau]

/-- The message for a packet that is read first. -/
def firstMessage (config : TxConfig) (packet : Bytes) : Bytes :=
  dataPacketHeader (10 + packet.length) ++
    framedPacket config .broadcast 0x0800 packet

theorem run_passed {config : TxConfig} (encrypted : config.dnsMode ≠ .system)
    {packet : Bytes} (long : 5 ≤ packet.length)
    (fits : packet.length ≤ ethBufSize - 10)
    (etherTypeEq : packetEtherType packet = .ok (some 0x0800))
    (passed : isDnsToGateway packet config.ourIp config.gatewayIp =
      .ok none) :
    ∃ final, Run (TxStep config) .initial
      (passedFirst packet ++ [.handed packet (firstMessage config packet)])
        final := by
  have ethSize : ethBufSize = 2048 := rfl
  have tunSize : tunBufSize = 2304 := rfl
  have nonempty : packet ≠ [] := by
    rw [← List.length_pos_iff]
    omega
  have notDiverted : interceptedQuery config (TxState.afterRead packet).tbuf
      packet.length = .ok none := by
    rw [TxState.afterRead, interceptedQuery_append, passed]
    rfl
  have forwarding := (run_afterRead encrypted nonempty (by omega)).snoc
    (.pass rfl notDiverted)
  obtain ⟨final, handed⟩ := run_handed forwarding rfl List.take_left
    etherTypeEq long fits List.length_replicate List.length_replicate
  exact ⟨final, handed⟩

def encryptedConfig : TxConfig where
  dnsMode := .doH
  ourIp := 0xC0A82A64
  gatewayIp := 0xC0A82A81
  hostMac := .broadcast

/-- A query to 8.8.8.8 that is sent before any encrypted answer. -/
def coldQuery : QueryPacket encryptedConfig.ourIp where
  ihl := 5
  ihl_ge := le_rfl
  ihl_le := by decide
  tos := 0
  totalLength := 47
  identification := 1
  fragment := 0
  ttl := 64
  headerChecksum := 0x7fa1
  dst := 0x08080808
  options := []
  options_length := rfl
  srcPort := 50000
  udpLength := 27
  udpChecksum := 0
  query := [0x12, 0x34, 1, 0, 0, 1, 0, 0, 0, 0, 0, 0, 1, 0x61, 0, 0, 1, 0, 1]
  query_length := by decide

/-- A datagram to port 53 that is too short for a DNS message. -/
def shortDatagram : Bytes :=
  [0, 0, 0, 2, 0x45, 0, 0, 32, 0, 1, 0, 0, 64, 17, 0x7f, 0xb0, 192, 168, 42,
    100, 8, 8, 8, 8, 0xC3, 0x50, 0, 53, 0, 12, 0, 0, 1, 2, 3, 4]

end AndroidTether
