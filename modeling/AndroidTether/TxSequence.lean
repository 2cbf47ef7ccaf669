import AndroidTether.DnsLeak
import Mathlib.Data.List.Forall2

/-!
# The messages of the TX loop

What the TX loop makes of a whole sequence of packets while the session is on.
The loop looks at the warm-up flag and at the gateway's hardware address once
for a packet, at moments that the other threads choose; the account of a run
notes what it saw, and the messages are a function of that account.
-/

namespace AndroidTether

open ByteWords Checked

/-- A step while the session is on and the channel has its receiver: the flag
stays set and `send` does not fail. -/
structure ServedStep (config : TxConfig) (s : TxState) (event : TxEvent)
    (next : TxState) : Prop where
  step : TxStep config s event next
  on : next.running = true
  received : ∀ count packet message, s.pc = .sending count packet message →
    next.pc ≠ .polling

/-- What the loop saw when it handled one packet. -/
structure TxSeen where
  packet : Bytes
  warm : Bool
  gatewayMac : MacAddr

namespace TxSeen

variable (config : TxConfig) (seen : TxSeen)

/-- The interceptor takes the packet and encrypted DNS is up. -/
def suppressed : Bool :=
  config.dnsMode ≠ .system && seen.warm &&
    match isDnsToGateway seen.packet config.ourIp config.gatewayIp with
    | .ok (some _) => true
    | _ => false

/-- `ip_to_eth` returns zero for the packet. -/
def rejected : Bool :=
  match ipToEth seen.packet (List.replicate ethBufSize 0) config.hostMac
    seen.gatewayMac with
  | .ok (elen, _) => elen = 0
  | .error _ => false

/-- The packet leads to a message. -/
def sent : Bool :=
  !seen.suppressed config && !seen.rejected config

/-- A message for the packet: a header and one frame to the gateway as it was
seen, with the packet behind its address family as payload. -/
def FramedAs (message : Bytes) : Prop :=
  ∃ ethertype, packetEtherType seen.packet = .ok (some ethertype) ∧
    (ethertype = 0x0800 ∨ ethertype = 0x86DD) ∧
    message = dataPacketHeader (10 + seen.packet.length) ++
      framedPacket config seen.gatewayMac ethertype seen.packet ∧
    DecodesTo message
      (framedPacket config seen.gatewayMac ethertype seen.packet)

end TxSeen

/-- The account of a run: the packets whose fate is settled, and the flag as
it was last tested. -/
structure TxAccount where
  warm : Bool
  settled : List TxSeen

/-- The flag is tested on the way out of `testingWarm`, the address is copied
on the way out of `forwarding`. -/
def TxAccount.next (account : TxAccount) (taken : Taken TxState TxEvent) :
    TxAccount :=
  match taken.before.pc, taken.after.pc with
  | .testingWarm _ tlen, .batch _ =>
    { account with
      settled := account.settled ++ [⟨taken.before.tbuf.take tlen,
        taken.before.warm, taken.before.gatewayMac⟩] }
  | .testingWarm _ _, .forwarding _ _ =>
    { account with warm := taken.before.warm }
  | .forwarding _ tlen, .batch _ | .forwarding _ tlen, .sending _ _ _ =>
    { account with
      settled := account.settled ++ [⟨taken.before.tbuf.take tlen,
        account.warm, taken.before.gatewayMac⟩] }
  | _, _ => account

def txAccount (history : List (Taken TxState TxEvent)) : TxAccount :=
  history.foldl TxAccount.next ⟨false, []⟩

/-- The packets that were read, in order. -/
def readPackets (history : List (Taken TxState TxEvent)) : List Bytes :=
  history.filterMap fun taken =>
    match taken.label with
    | .read packet => some packet
    | .tau | .diverted .. | .warmed | .handed .. => none

/-- The messages that were handed to `tx_sender`, in order. -/
def handedMessages (history : List (Taken TxState TxEvent)) : List Bytes :=
  history.filterMap fun taken =>
    match taken.label with
    | .handed _ message => some message
    | .tau | .diverted .. | .warmed | .read _ => none

/-- The packet that the loop is still deciding about. -/
def TxState.underway (s : TxState) : List Bytes :=
  match s.pc with
  | .received _ tlen | .intercepting _ tlen | .testingWarm _ tlen
  | .forwarding _ tlen => [s.tbuf.take tlen]
  | .polling | .readable | .batch _ | .sending .. | .finished => []

/-- The message that the loop is about to hand out. -/
def TxState.pending (s : TxState) : List Bytes :=
  match s.pc with
  | .sending _ _ message => [message]
  | .polling | .readable | .batch _ | .received .. | .intercepting ..
  | .testingWarm .. | .forwarding .. | .finished => []

theorem frameMessage_sized (config : TxConfig) {gatewayMac : MacAddr}
    {packet ebuf rbuf : Bytes} (warm : Bool)
    (bounded : packet.length ≤ tunBufSize)
    (ebufSize : ebuf.length = ethBufSize)
    (rbufSize : rbuf.length = rndisBufSize) :
    (TxSeen.rejected config ⟨packet, warm, gatewayMac⟩ = true ∧
      frameMessage config gatewayMac packet ebuf rbuf =
        .ok (none, ebuf, rbuf)) ∨
    (TxSeen.rejected config ⟨packet, warm, gatewayMac⟩ = false ∧
      ∃ message ebuf' rbuf',
        frameMessage config gatewayMac packet ebuf rbuf =
          .ok (some message, ebuf', rbuf') ∧
        TxSeen.FramedAs config ⟨packet, warm, gatewayMac⟩ message ∧
        ebuf'.length = ethBufSize ∧ rbuf'.length = rndisBufSize) := by
  have tunSize : tunBufSize = 2304 := rfl
  have ethSize : ethBufSize = 2048 := rfl
  have rndisSize : rndisBufSize = 32768 := rfl
  have blank : (List.replicate ethBufSize (0 : UInt8)).length = ethBufSize :=
    List.length_replicate
  rcases ipToEth_cases packet ebuf config.hostMac gatewayMac with
    rejected | ⟨ethertype, etherTypeEq, long, fits, -⟩
  · refine .inl ⟨?_, by rw [frameMessage, rejected]; rfl⟩
    rcases ipToEth_cases packet (List.replicate ethBufSize 0) config.hostMac
        gatewayMac with
      blankRejected | ⟨ethertype, etherTypeEq, long, fits, -⟩
    · simp [TxSeen.rejected, blankRejected]
    · -- acceptance depends on the length of the buffer only
      have accepted := @ipToEth_eq packet ebuf config.hostMac gatewayMac
        ethertype etherTypeEq long (by omega)
      rw [rejected] at accepted
      simp only [Except.ok.injEq, Prod.mk.injEq] at accepted
      omega
  · have accepted := @ipToEth_eq packet (List.replicate ethBufSize 0)
      config.hostMac gatewayMac ethertype etherTypeEq long (by omega)
    obtain ⟨ebuf', rbuf', framed, ebufLength, rbufLength⟩ :=
      @frameMessage_eq config gatewayMac packet ebuf rbuf ethertype
        etherTypeEq long fits (by omega)
    refine .inr ⟨?_, _, ebuf', rbuf', framed, ?_, by omega, by omega⟩
    · simp only [TxSeen.rejected, accepted, decide_eq_false_iff_not]
      omega
    · have frameLength :=
        framedPacket_length config gatewayMac ethertype long
      refine ⟨ethertype, etherTypeEq, ?_, rfl, ?_⟩
      · obtain ⟨known, knownEq, -, -, values⟩ := packetEtherType_eq_ok long
        rw [etherTypeEq] at knownEq
        cases knownEq
        exact values ethertype rfl
      · rw [← frameLength]
        exact decodesTo_dataPacket (List.length_pos_iff.mp (by omega))
          (by omega)

theorem interceptedQuery_eq_ok (config : TxConfig) {tbuf : Bytes}
    {tlen : Nat} (inside : tlen ≤ tbuf.length) :
    ∃ result, interceptedQuery config tbuf tlen = .ok result ∧
      (result.isSome ↔ ∃ dnsLen, isDnsToGateway (tbuf.take tlen)
        config.ourIp config.gatewayIp = .ok (some dnsLen)) := by
  rw [interceptedQuery, range_eq_ok (Nat.zero_le _) inside, ok_bind,
    List.drop_zero, Nat.sub_zero]
  rcases isDnsToGateway_cases (tbuf.take tlen) config.ourIp
    config.gatewayIp with ⟨taken, isDns⟩ | ⟨-, passed⟩
  · have packetLength : (tbuf.take tlen).length = tlen := by simp [inside]
    have udpInside := taken.udp_inside
    rw [isDns, ok_bind]
    dsimp only
    rw [dnsQuery, subtract_eq_ok (by omega), ok_bind,
      range_eq_ok (by omega) inside, ok_bind]
    exact ⟨some _, rfl, by simp⟩
  · rw [passed]
    exact ⟨none, rfl, by simp⟩

theorem txAccount_concat (history : List (Taken TxState TxEvent))
    (taken : Taken TxState TxEvent) :
    txAccount (history ++ [taken]) = (txAccount history).next taken := by
  rw [txAccount, List.foldl_concat]
  rfl

theorem readPackets_append (earlier later : List (Taken TxState TxEvent)) :
    readPackets (earlier ++ later) = readPackets earlier ++ readPackets later :=
  List.filterMap_append

theorem handedMessages_append
    (earlier later : List (Taken TxState TxEvent)) :
    handedMessages (earlier ++ later) =
      handedMessages earlier ++ handedMessages later :=
  List.filterMap_append

theorem TxAccount.next_of_pc_eq (account : TxAccount) {s next : TxState}
    {event : TxEvent} (pcEq : next.pc = s.pc) :
    account.next ⟨s, event, next⟩ = account := by
  unfold TxAccount.next
  rw [pcEq]
  cases s.pc <;> rfl

/-- What the loop knows of its current packet at each position. -/
def TxPc.Sequenced (config : TxConfig) (warm : Bool) (tbuf : Bytes) :
    TxPc → Prop
  | .received _ tlen => tlen ≤ tunBufSize
  | .intercepting _ tlen => tlen ≤ tunBufSize ∧ config.dnsMode ≠ .system
  | .testingWarm _ tlen =>
      tlen ≤ tunBufSize ∧ config.dnsMode ≠ .system ∧
        ∃ dnsLen, isDnsToGateway (tbuf.take tlen) config.ourIp
          config.gatewayIp = .ok (some dnsLen)
  | .forwarding _ tlen =>
      tlen ≤ tunBufSize ∧ ∀ gatewayMac,
        TxSeen.suppressed config ⟨tbuf.take tlen, warm, gatewayMac⟩ = false
  | .polling | .readable | .batch _ | .sending .. => True
  | .finished => False

/-- The three buffers keep their sizes. -/
structure TxState.Sized (s : TxState) : Prop where
  tbuf : s.tbuf.length = tunBufSize
  ebuf : s.ebuf.length = ethBufSize
  rbuf : s.rbuf.length = rndisBufSize

/-- The invariant of the loop while it is served. -/
structure TxSequenced (config : TxConfig)
    (history : List (Taken TxState TxEvent)) (s : TxState) : Prop where
  sized : s.Sized
  on : s.running = true
  sequenced : s.pc.Sequenced config (txAccount history).warm s.tbuf
  reads : readPackets history =
    (txAccount history).settled.map TxSeen.packet ++ s.underway
  messages : List.Forall₂ (TxSeen.FramedAs config)
    ((txAccount history).settled.filter (·.sent config))
    (handedMessages history ++ s.pending)

namespace TxSequenced

variable {config : TxConfig} {history : List (Taken TxState TxEvent)}
  {s next : TxState} {event : TxEvent}

theorem initial : TxSequenced config [] .initial where
  sized := ⟨List.length_replicate, List.length_replicate,
    List.length_replicate⟩
  on := rfl
  sequenced := trivial
  reads := rfl
  messages := .nil

/-- A step that settles nothing. -/
theorem move (inv : TxSequenced config history s)
    (account : (txAccount history).next ⟨s, event, next⟩ =
      { txAccount history with
        warm := ((txAccount history).next ⟨s, event, next⟩).warm })
    (sized : next.Sized) (on : next.running = true)
    (sequenced : next.pc.Sequenced config
      ((txAccount history).next ⟨s, event, next⟩).warm next.tbuf)
    (read : s.underway ++ readPackets [⟨s, event, next⟩] = next.underway)
    (handed : s.pending = handedMessages [⟨s, event, next⟩] ++ next.pending) :
    TxSequenced config (history ++ [⟨s, event, next⟩]) next where
  sized := sized
  on := on
  sequenced := by
    rw [txAccount_concat]
    exact sequenced
  reads := by
    rw [txAccount_concat, account, readPackets_append, inv.reads,
      List.append_assoc, read]
  messages := by
    rw [txAccount_concat, account, handedMessages_append, List.append_assoc,
      ← handed]
    exact inv.messages

/-- The fate of the current packet is settled. -/
theorem settle (inv : TxSequenced config history s) (seen : TxSeen)
    (account : (txAccount history).next ⟨s, event, next⟩ =
      { txAccount history with
        settled := (txAccount history).settled ++ [seen] })
    (sized : next.Sized) (on : next.running = true)
    (sequenced : next.pc.Sequenced config (txAccount history).warm next.tbuf)
    (quiet : readPackets [⟨s, event, next⟩] = [] ∧
      handedMessages [⟨s, event, next⟩] = [])
    (decided : s.underway = [seen.packet] ∧ next.underway = [] ∧ s.pending = [])
    (outcome : List.Forall₂ (TxSeen.FramedAs config)
      ([seen].filter (·.sent config)) next.pending) :
    TxSequenced config (history ++ [⟨s, event, next⟩]) next where
  sized := sized
  on := on
  sequenced := by
    rw [txAccount_concat, account]
    exact sequenced
  reads := by
    rw [txAccount_concat, account, readPackets_append, inv.reads, quiet.1,
      decided.1, decided.2.1, List.map_append]
    simp
  messages := by
    have before := inv.messages
    rw [decided.2.2, List.append_nil] at before
    rw [txAccount_concat, account, handedMessages_append, quiet.2,
      List.append_nil, List.filter_append]
    exact List.rel_append before outcome

/-- A step of another thread leaves the loop where it is. -/
theorem environment (inv : TxSequenced config history s)
    (pcEq : next.pc = s.pc) (tbufEq : next.tbuf = s.tbuf)
    (ebufEq : next.ebuf = s.ebuf) (rbufEq : next.rbuf = s.rbuf)
    (on : next.running = true)
    (quiet : readPackets [⟨s, event, next⟩] = [] ∧
      handedMessages [⟨s, event, next⟩] = []) :
    TxSequenced config (history ++ [⟨s, event, next⟩]) next := by
  have account := @TxAccount.next_of_pc_eq (txAccount history) s next event
    pcEq
  refine inv.move (by rw [account]) ?_ on ?_ ?_ ?_
  · exact ⟨tbufEq ▸ inv.sized.tbuf, ebufEq ▸ inv.sized.ebuf,
      rbufEq ▸ inv.sized.rbuf⟩
  · rw [account, pcEq, tbufEq]
    exact inv.sequenced
  · rw [quiet.1, List.append_nil, TxState.underway, TxState.underway, pcEq,
      tbufEq]
  · rw [quiet.2, List.nil_append, TxState.pending, TxState.pending, pcEq]

theorem framing (inv : TxSequenced config history s) {count tlen : Nat}
    (atPc : s.pc = .forwarding count tlen) :
    (TxSeen.sent config
        ⟨s.tbuf.take tlen, (txAccount history).warm, s.gatewayMac⟩ = false ∧
      frameMessage config s.gatewayMac (s.tbuf.take tlen) s.ebuf s.rbuf =
        .ok (none, s.ebuf, s.rbuf)) ∨
    (TxSeen.sent config
        ⟨s.tbuf.take tlen, (txAccount history).warm, s.gatewayMac⟩ = true ∧
      ∃ message ebuf rbuf,
        frameMessage config s.gatewayMac (s.tbuf.take tlen) s.ebuf s.rbuf =
          .ok (some message, ebuf, rbuf) ∧
        TxSeen.FramedAs config
          ⟨s.tbuf.take tlen, (txAccount history).warm, s.gatewayMac⟩ message ∧
        ebuf.length = ethBufSize ∧ rbuf.length = rndisBufSize) := by
  have sequenced := inv.sequenced
  rw [atPc] at sequenced
  obtain ⟨inside, notSuppressed⟩ := sequenced
  have tunSize : tunBufSize = 2304 := rfl
  have bounded : (s.tbuf.take tlen).length ≤ tunBufSize := by
    rw [List.length_take]
    omega
  rcases @frameMessage_sized config s.gatewayMac (s.tbuf.take tlen) s.ebuf
      s.rbuf (txAccount history).warm bounded inv.sized.ebuf inv.sized.rbuf with
    ⟨rejected, framed⟩ | ⟨accepted, framed⟩
  · refine .inl ⟨?_, framed⟩
    rw [TxSeen.sent, rejected]
    exact Bool.and_false _
  · refine .inr ⟨?_, framed⟩
    rw [TxSeen.sent, notSuppressed, accepted]
    rfl

theorem readOne (inv : TxSequenced config history s) {count : Nat}
    {packet : Bytes} (atPc : s.pc = .batch count)
    (fits : packet.length ≤ s.tbuf.length)
    (nextEq : next = { s with
      tbuf := packet ++ s.tbuf.drop packet.length
      pc := .received count packet.length }) :
    TxSequenced config (history ++ [⟨s, .read packet, next⟩]) next := by
  subst nextEq
  have front : (packet ++ s.tbuf.drop packet.length).take packet.length =
      packet := List.take_left
  have size := inv.sized.tbuf
  refine inv.move (by simp [TxAccount.next, atPc]) ?_ inv.on ?_ ?_ ?_
  · exact ⟨by simp; omega, inv.sized.ebuf, inv.sized.rbuf⟩
  · exact fits.trans size.le
  · simp [TxState.underway, atPc, readPackets]
  · simp [TxState.pending, atPc, handedMessages]

/-- With system DNS a packet is not looked at. -/
theorem received (inv : TxSequenced config history s) {count tlen : Nat}
    (atPc : s.pc = .received count tlen)
    (nextEq : next = { s with
      pc := if config.dnsMode = .system then .forwarding count tlen
        else .intercepting count tlen }) :
    TxSequenced config (history ++ [⟨s, .tau, next⟩]) next := by
  have sequenced := inv.sequenced
  rw [atPc] at sequenced
  by_cases system : config.dnsMode = .system
  · have notSuppressed (seen : TxSeen) : seen.suppressed config = false := by
      simp [TxSeen.suppressed, system]
    rw [if_pos system] at nextEq
    subst nextEq
    exact inv.move (by simp [TxAccount.next, atPc])
      ⟨inv.sized.tbuf, inv.sized.ebuf, inv.sized.rbuf⟩ inv.on
      ⟨sequenced, fun _ => notSuppressed _⟩
      (by simp [TxState.underway, atPc, readPackets])
      (by simp [TxState.pending, atPc, handedMessages])
  · rw [if_neg system] at nextEq
    subst nextEq
    exact inv.move (by simp [TxAccount.next, atPc])
      ⟨inv.sized.tbuf, inv.sized.ebuf, inv.sized.rbuf⟩ inv.on
      ⟨sequenced, system⟩
      (by simp [TxState.underway, atPc, readPackets])
      (by simp [TxState.pending, atPc, handedMessages])

theorem intercepting (inv : TxSequenced config history s) {count tlen : Nat}
    (atPc : s.pc = .intercepting count tlen) :
    tlen ≤ tunBufSize ∧ config.dnsMode ≠ .system ∧
      ∃ result, interceptedQuery config s.tbuf tlen = .ok result ∧
        (result.isSome ↔ ∃ dnsLen, isDnsToGateway (s.tbuf.take tlen)
          config.ourIp config.gatewayIp = .ok (some dnsLen)) := by
  have sequenced := inv.sequenced
  rw [atPc] at sequenced
  exact ⟨sequenced.1, sequenced.2,
    interceptedQuery_eq_ok config (inv.sized.tbuf ▸ sequenced.1)⟩

theorem intercepted (inv : TxSequenced config history s) {count tlen : Nat}
    {query : Bytes} (atPc : s.pc = .intercepting count tlen)
    (diverted : interceptedQuery config s.tbuf tlen = .ok (some query))
    (nextEq : next = { s with
      dnsQueue := if s.dnsOpen
        then s.dnsQueue ++ [(s.tbuf.take tlen, query)] else s.dnsQueue
      pc := .testingWarm count tlen }) :
    TxSequenced config
      (history ++
        [⟨s, .diverted (s.tbuf.take tlen) query s.dnsOpen, next⟩]) next := by
  obtain ⟨inside, encrypted, result, resultEq, isDns⟩ := inv.intercepting atPc
  rw [diverted] at resultEq
  cases resultEq
  subst nextEq
  exact inv.move (by simp [TxAccount.next, atPc])
    ⟨inv.sized.tbuf, inv.sized.ebuf, inv.sized.rbuf⟩ inv.on
    ⟨inside, encrypted, isDns.mp rfl⟩
    (by simp [TxState.underway, atPc, readPackets])
    (by simp [TxState.pending, atPc, handedMessages])

theorem passed (inv : TxSequenced config history s) {count tlen : Nat}
    (atPc : s.pc = .intercepting count tlen)
    (pass : interceptedQuery config s.tbuf tlen = .ok none)
    (nextEq : next = { s with pc := .forwarding count tlen }) :
    TxSequenced config (history ++ [⟨s, .tau, next⟩]) next := by
  have inside := (inv.intercepting atPc).1
  have notDns := interceptedQuery_pass (inv.sized.tbuf ▸ inside) pass
  have notSuppressed (warm : Bool) (gatewayMac : MacAddr) :
      TxSeen.suppressed config ⟨s.tbuf.take tlen, warm, gatewayMac⟩ =
        false := by
    rw [TxSeen.suppressed]
    dsimp only
    split
    · rename_i dnsLen isDns
      exact absurd isDns (notDns dnsLen)
    · exact Bool.and_false _
  subst nextEq
  exact inv.move (by simp [TxAccount.next, atPc])
    ⟨inv.sized.tbuf, inv.sized.ebuf, inv.sized.rbuf⟩ inv.on
    ⟨inside, notSuppressed _⟩
    (by simp [TxState.underway, atPc, readPackets])
    (by simp [TxState.pending, atPc, handedMessages])

/-- Encrypted DNS is up: the query is suppressed. -/
theorem warmSkipped (inv : TxSequenced config history s) {count tlen : Nat}
    (atPc : s.pc = .testingWarm count tlen) (warm : s.warm = true)
    (nextEq : next = { s with pc := .batch (count + 1) }) :
    TxSequenced config (history ++ [⟨s, .tau, next⟩]) next := by
  have sequenced := inv.sequenced
  rw [atPc] at sequenced
  obtain ⟨inside, encrypted, dnsLen, isDns⟩ := sequenced
  let seen : TxSeen := ⟨s.tbuf.take tlen, s.warm, s.gatewayMac⟩
  have suppressed : seen.suppressed config = true := by
    simp [seen, TxSeen.suppressed, encrypted, warm, isDns]
  subst nextEq
  exact inv.settle seen (by simp only [seen, TxAccount.next, atPc])
    ⟨inv.sized.tbuf, inv.sized.ebuf, inv.sized.rbuf⟩ inv.on trivial
    ⟨rfl, rfl⟩ (by simp [seen, TxState.underway, TxState.pending, atPc])
    (by simp [TxSeen.sent, suppressed, TxState.pending])

theorem coldForwarded (inv : TxSequenced config history s)
    {count tlen : Nat} (atPc : s.pc = .testingWarm count tlen)
    (cold : s.warm = false)
    (nextEq : next = { s with pc := .forwarding count tlen }) :
    TxSequenced config (history ++ [⟨s, .tau, next⟩]) next := by
  have sequenced := inv.sequenced
  rw [atPc] at sequenced
  subst nextEq
  have account : (txAccount history).next
      ⟨s, .tau, { s with pc := .forwarding count tlen }⟩ =
        { txAccount history with warm := s.warm } := by
    simp only [TxAccount.next, atPc]
  refine inv.move (by rw [account])
    ⟨inv.sized.tbuf, inv.sized.ebuf, inv.sized.rbuf⟩ inv.on
    ⟨sequenced.1, fun gatewayMac => ?_⟩
    (by simp [TxState.underway, atPc, readPackets])
    (by simp [TxState.pending, atPc, handedMessages])
  rw [account]
  simp [TxSeen.suppressed, cold]

theorem forwarded (inv : TxSequenced config history s) {count tlen : Nat}
    {message ebuf rbuf : Bytes} (atPc : s.pc = .forwarding count tlen)
    (framed : frameMessage config s.gatewayMac (s.tbuf.take tlen) s.ebuf
      s.rbuf = .ok (some message, ebuf, rbuf))
    (nextEq : next = { s with
      ebuf := ebuf
      rbuf := rbuf
      pc := .sending count (s.tbuf.take tlen) message }) :
    TxSequenced config (history ++ [⟨s, .tau, next⟩]) next := by
  rcases inv.framing atPc with
    ⟨-, none⟩ | ⟨sent, bytes, ebuf', rbuf', some, isFramed, ebufSize, rbufSize⟩
  · rw [framed] at none
    cases none
  rw [framed] at some
  cases some
  subst nextEq
  let seen : TxSeen :=
    ⟨s.tbuf.take tlen, (txAccount history).warm, s.gatewayMac⟩
  refine inv.settle seen (by simp only [seen, TxAccount.next, atPc])
    ⟨inv.sized.tbuf, ebufSize, rbufSize⟩ inv.on trivial ⟨rfl, rfl⟩
    (by simp [seen, TxState.underway, TxState.pending, atPc]) ?_
  simpa [seen, sent, TxState.pending] using isFramed

theorem rejected (inv : TxSequenced config history s) {count tlen : Nat}
    {ebuf rbuf : Bytes} (atPc : s.pc = .forwarding count tlen)
    (framed : frameMessage config s.gatewayMac (s.tbuf.take tlen) s.ebuf
      s.rbuf = .ok (none, ebuf, rbuf))
    (nextEq : next = { s with
      ebuf := ebuf
      rbuf := rbuf
      pc := .batch (count + 1) }) :
    TxSequenced config (history ++ [⟨s, .tau, next⟩]) next := by
  rcases inv.framing atPc with
    ⟨notSent, none⟩ | ⟨-, bytes, ebuf', rbuf', some, -⟩
  · rw [framed] at none
    cases none
    subst nextEq
    exact inv.settle
      ⟨s.tbuf.take tlen, (txAccount history).warm, s.gatewayMac⟩
      (by simp only [TxAccount.next, atPc])
      ⟨inv.sized.tbuf, inv.sized.ebuf, inv.sized.rbuf⟩ inv.on trivial
      ⟨rfl, rfl⟩ (by simp [TxState.underway, TxState.pending, atPc])
      (by simp [notSent, TxState.pending])
  · rw [framed] at some
    cases some

theorem framing_ne_error (inv : TxSequenced config history s)
    {count tlen : Nat} {panic : Panic} (atPc : s.pc = .forwarding count tlen) :
    frameMessage config s.gatewayMac (s.tbuf.take tlen) s.ebuf s.rbuf ≠
      .error panic := by
  rcases inv.framing atPc with ⟨-, none⟩ | ⟨-, bytes, ebuf, rbuf, some, -⟩
  · rw [none]
    nofun
  · rw [some]
    nofun

theorem step (inv : TxSequenced config history s)
    (taken : ServedStep config s event next) :
    TxSequenced config (history ++ [⟨s, event, next⟩]) next := by
  have sized : { s with pc := next.pc }.Sized :=
    ⟨inv.sized.tbuf, inv.sized.ebuf, inv.sized.rbuf⟩
  have on := taken.on
  cases taken.step with
  | pollTimeout | resolverTakes | resolverAnswers | resolverFails
  | resolverStops | learnGateway | stop =>
      exact inv.environment rfl rfl rfl rfl on ⟨rfl, rfl⟩
  | pollReadable atPc | readableGo atPc | readNothing atPc
  | batchDone atPc =>
      exact inv.move (by simp [TxAccount.next, atPc]) sized on trivial
        (by simp [TxState.underway, atPc, readPackets])
        (by simp [TxState.pending, atPc, handedMessages])
  | pollStopped atPc off | readableStopped atPc off
  | receivedStopped atPc off =>
      exact absurd (inv.on.symm.trans off) (by decide)
  | readPacket packet atPc more nonempty fits =>
      exact inv.readOne atPc fits rfl
  | receivedGo atPc => exact inv.received atPc rfl
  | intercept atPc diverted => exact inv.intercepted atPc diverted rfl
  | pass atPc passes => exact inv.passed atPc passes rfl
  | interceptPanics atPc panics =>
      obtain ⟨-, -, result, resultEq, -⟩ := inv.intercepting atPc
      rw [panics] at resultEq
      cases resultEq
  | warmSkips atPc warm => exact inv.warmSkipped atPc warm rfl
  | coldForwards atPc cold => exact inv.coldForwarded atPc cold rfl
  | forward atPc framed => exact inv.forwarded atPc framed rfl
  | reject atPc framed => exact inv.rejected atPc framed rfl
  | forwardPanics atPc panics => exact absurd panics (inv.framing_ne_error atPc)
  | send atPc =>
      exact inv.move (by simp [TxAccount.next, atPc]) sized on trivial
        (by simp [TxState.underway, atPc, readPackets])
        (by simp [TxState.pending, atPc, handedMessages])
  | @sendFails count packet message atPc =>
      exact absurd rfl (taken.received count packet message atPc)

theorem of_run (run : Run (Recorded (ServedStep config)) .initial history s) :
    TxSequenced config history s := by
  induction run with
  | nil => exact initial
  | snoc run recorded ih =>
      obtain ⟨taken⟩ := recorded
      exact ih.step taken

end TxSequenced

theorem TxSeen.not_rejected (config : TxConfig) {seen : TxSeen}
    (long : 5 ≤ seen.packet.length) (short : seen.packet.length ≤ 1504)
    (family : beWordAt seen.packet 0 4 = 2 ∨ beWordAt seen.packet 0 4 = 30) :
    seen.rejected config = false := by
  have ethSize : (List.replicate ethBufSize (0 : UInt8)).length = 2048 :=
    List.length_replicate
  obtain ⟨known, knownEq, inet, inet6, -⟩ := packetEtherType_eq_ok long
  obtain ⟨ethertype, rfl⟩ : ∃ ethertype, known = some ethertype := by
    rcases family with isInet | isInet6
    · exact ⟨_, inet isInet⟩
    · exact ⟨_, inet6 isInet6⟩
  rw [TxSeen.rejected, ipToEth_eq knownEq long (by omega)]
  simp only [decide_eq_false_iff_not]
  omega

/-- What the TX loop has done with the packets it read. -/
structure TxHanded (config : TxConfig)
    (history : List (Taken TxState TxEvent)) (s : TxState) : Prop where
  /-- The loop neither ends nor panics. -/
  alive : s.pc ≠ .finished
  /-- Every packet is settled once, in order; at most one is underway. -/
  reads : readPackets history =
    (txAccount history).settled.map TxSeen.packet ++ s.underway
  /-- The messages are those of the packets that are neither suppressed nor
  rejected, in the same order; at most one waits to be handed out. -/
  messages : List.Forall₂ (TxSeen.FramedAs config)
    ((txAccount history).settled.filter (·.sent config))
    (handedMessages history ++ s.pending)
  accepts : ∀ seen : TxSeen, 5 ≤ seen.packet.length →
    seen.packet.length ≤ 1504 →
    (beWordAt seen.packet 0 4 = 2 ∨ beWordAt seen.packet 0 4 = 30) →
    seen.rejected config = false

/-- In every run of the TX loop that is served, the messages are exactly
those of the packets that have to be sent. -/
theorem txHanded {config : TxConfig} {history : List (Taken TxState TxEvent)}
    {s : TxState}
    (run : Run (Recorded (ServedStep config)) .initial history s) :
    TxHanded config history s := by
  have inv := TxSequenced.of_run run
  refine ⟨?_, inv.reads, inv.messages, fun _ long short family =>
    TxSeen.not_rejected config long short family⟩
  intro atPc
  have sequenced := inv.sequenced
  rw [atPc] at sequenced
  exact sequenced

/-- System DNS: nothing is intercepted. -/
def plainConfig : TxConfig :=
  { encryptedConfig with dnsMode := .system }

/-- An idle loop that intercepts nothing reads a packet and hands it out. -/
theorem run_served {config : TxConfig} (system : config.dnsMode = .system)
    {s : TxState} (idle : s.pc = .polling) (on : s.running = true)
    (sized : s.Sized) {packet : Bytes} {ethertype : Nat}
    (etherTypeEq : packetEtherType packet = .ok (some ethertype))
    (long : 5 ≤ packet.length) (short : packet.length ≤ 1504) :
    ∃ history final message,
      Run (Recorded (ServedStep config)) s history final ∧
        readPackets history = [packet] ∧ handedMessages history = [message] ∧
        final.underway = [] ∧ final.pending = [] := by
  have tunSize : tunBufSize = 2304 := rfl
  have ethSize : ethBufSize = 2048 := rfl
  have rndisSize : rndisBufSize = 32768 := rfl
  have tbufSize := sized.tbuf
  have ebufSize := sized.ebuf
  have rbufSize := sized.rbuf
  obtain ⟨ebuf, rbuf, framed, -⟩ := @frameMessage_eq config s.gatewayMac
    packet s.ebuf s.rbuf ethertype etherTypeEq long (by omega) (by omega)
  have front : (packet ++ s.tbuf.drop packet.length).take packet.length =
      packet := List.take_left
  rw [← front] at framed
  have record {s next : TxState} {event : TxEvent}
      (step : TxStep config s event next) (on : next.running = true)
      (received : ∀ count packet message,
        s.pc = .sending count packet message → next.pc ≠ .polling) :
      Recorded (ServedStep config) s ⟨s, event, next⟩ next :=
    ⟨⟨step, on, received⟩⟩
  have readable := Run.nil.snoc
    (record (.pollReadable idle on) on (by simp [idle]))
  have batch := readable.snoc (record (.readableGo rfl on) on nofun)
  have nonempty : packet ≠ [] := List.length_pos_iff.mp (by omega)
  have received := batch.snoc (record (.readPacket packet rfl (by decide)
    nonempty (show packet.length ≤ s.tbuf.length by omega)) on nofun)
  have forwarding := received.snoc (record (.receivedGo rfl on) on nofun)
  rw [if_pos system] at forwarding
  have sending := forwarding.snoc (record (.forward rfl framed) on nofun)
  exact ⟨_, _, _, sending.snoc (record (.send rfl) on nofun), rfl, rfl, rfl,
    rfl⟩

theorem shortDatagram_handed :
    ∃ history s message, ∃ seen : TxSeen, TxHanded plainConfig history s ∧
      readPackets history = [shortDatagram] ∧
      handedMessages history = [message] ∧
      seen.packet = shortDatagram ∧ seen.FramedAs plainConfig message := by
  obtain ⟨history, s, message, run, reads, handed, settled, nothingPending⟩ :=
    @run_served plainConfig rfl .initial rfl rfl
      ⟨List.length_replicate, List.length_replicate, List.length_replicate⟩
      shortDatagram 0x0800 (by decide) (by decide) (by decide)
  have sequence := txHanded run
  have packets := sequence.reads
  have messages := sequence.messages
  rw [reads, settled, List.append_nil] at packets
  rw [handed, nothingPending, List.append_nil] at messages
  obtain ⟨seen, only, packetEq⟩ := List.map_eq_singleton_iff.mp packets.symm
  rw [only] at messages
  have sent : [seen].filter (·.sent plainConfig) = [seen] := by
    cases isSent : seen.sent plainConfig with
    | true => simp [isSent]
    | false => simp [isSent] at messages
  rw [sent] at messages
  cases messages with
  | cons isFramed _ =>
      exact ⟨history, s, message, seen, sequence, reads, handed, packetEq,
        isFramed⟩

end AndroidTether
