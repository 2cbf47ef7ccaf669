import AndroidTether.DnsProxy
import AndroidTether.Frame
import AndroidTether.RndisRoundTrip
import AndroidTether.Transition

/-!
# The TX loop and plain DNS

The TX thread of `run_session` as a transition system: it reads packets from
the utun, diverts DNS queries to the resolver thread, and hands everything
else to the USB side as RNDIS messages.  The resolver, the RX side and the
main thread take their steps in between in any order.
-/

namespace AndroidTether

open ByteWords Checked

structure TxConfig where
  dnsMode : DnsMode
  ourIp : Ipv4Addr
  gatewayIp : Ipv4Addr
  hostMac : MacAddr

/-- Size of the buffer that packets are read into. -/
def tunBufSize : Nat := ethBufSize + 256

/-- Position of the TX thread; packets are kept in `tbuf[..tlen]`. -/
inductive TxPc
  | polling
  | readable
  | batch (count : Nat)
  | received (count tlen : Nat)
  | intercepting (count tlen : Nat)
  | testingWarm (count tlen : Nat)
  | forwarding (count tlen : Nat)
  | sending (count : Nat) (packet message : Bytes)
  | finished

structure TxState where
  pc : TxPc
  tbuf : Bytes
  ebuf : Bytes
  rbuf : Bytes
  /-- `running_bridge` -/
  running : Bool
  /-- `doh_warmed_up` -/
  warm : Bool
  gatewayMac : MacAddr
  dnsQueue : List (Bytes × Bytes)
  /-- Whether the resolver still holds its end of the channel. -/
  dnsOpen : Bool
  /-- What the resolver has taken and not yet answered. -/
  resolving : List (Bytes × Bytes)

def TxState.initial : TxState where
  pc := .polling
  tbuf := List.replicate tunBufSize 0
  ebuf := List.replicate ethBufSize 0
  rbuf := List.replicate rndisBufSize 0
  running := true
  warm := false
  gatewayMac := .broadcast
  dnsQueue := []
  dnsOpen := true
  resolving := []

/-- What can be observed of a step. -/
inductive TxEvent
  | tau
  | read (packet : Bytes)
  /-- A query goes to the resolver's channel; it is sent, or lost with a
  warning because the resolver has ended. -/
  | diverted (packet query : Bytes) (sent : Bool)
  | warmed
  | handed (packet message : Bytes)
  deriving DecidableEq

/-- The test of one packet: the query to divert, if there is one. -/
def interceptedQuery (config : TxConfig) (tbuf : Bytes) (tlen : Nat) :
    Checked (Option Bytes) := do
  let packet ← range tbuf 0 tlen
  match ← isDnsToGateway packet config.ourIp config.gatewayIp with
  | none => return none
  | some dnsLen => return some (← dnsQuery tbuf tlen dnsLen)

/-- The message for one packet, if it is not rejected, and the two buffers
afterwards. -/
def frameMessage (config : TxConfig) (gatewayMac : MacAddr)
    (packet ebuf rbuf : Bytes) : Checked (Option Bytes × Bytes × Bytes) := do
  let (elen, ebuf) ← ipToEth packet ebuf config.hostMac gatewayMac
  if elen = 0 then return (none, ebuf, rbuf)
  match ← buildDataPacket rbuf (← range ebuf 0 elen) with
  | (.error _, rbuf) => return (none, ebuf, rbuf)
  | (.ok rlen, rbuf) => return (some (← range rbuf 0 rlen), ebuf, rbuf)

/-- One step of the TX thread or of one of the threads around it. -/
inductive TxStep (config : TxConfig) : TxState → TxEvent → TxState → Prop
  | pollTimeout {s : TxState} (at_ : s.pc = .polling) (on : s.running) :
      TxStep config s .tau s
  | pollReadable {s : TxState} (at_ : s.pc = .polling) (on : s.running) :
      TxStep config s .tau { s with pc := .readable }
  | pollStopped {s : TxState} (at_ : s.pc = .polling)
      (off : s.running = false) :
      TxStep config s .tau { s with pc := .finished }
  | readableGo {s : TxState} (at_ : s.pc = .readable) (on : s.running) :
      TxStep config s .tau { s with pc := .batch 0 }
  | readableStopped {s : TxState} (at_ : s.pc = .readable)
      (off : s.running = false) :
      TxStep config s .tau { s with pc := .finished }
  | readPacket {s : TxState} {count : Nat} (packet : Bytes)
      (at_ : s.pc = .batch count) (more : count < 64)
      (nonempty : packet ≠ []) (fits : packet.length ≤ s.tbuf.length) :
      TxStep config s (.read packet)
        { s with
          tbuf := packet ++ s.tbuf.drop packet.length
          pc := .received count packet.length }
  | readNothing {s : TxState} {count : Nat} (at_ : s.pc = .batch count)
      (more : count < 64) :
      TxStep config s .tau { s with pc := .polling }
  | batchDone {s : TxState} (at_ : s.pc = .batch 64) :
      TxStep config s .tau { s with pc := .polling }
  | receivedStopped {s : TxState} {count tlen : Nat}
      (at_ : s.pc = .received count tlen) (off : s.running = false) :
      TxStep config s .tau { s with pc := .polling }
  | receivedGo {s : TxState} {count tlen : Nat}
      (at_ : s.pc = .received count tlen) (on : s.running) :
      TxStep config s .tau
        { s with
          pc := if config.dnsMode = .system then .forwarding count tlen
            else .intercepting count tlen }
  | intercept {s : TxState} {count tlen : Nat} {query : Bytes}
      (at_ : s.pc = .intercepting count tlen)
      (diverted : interceptedQuery config s.tbuf tlen = .ok (some query)) :
      TxStep config s (.diverted (s.tbuf.take tlen) query s.dnsOpen)
        { s with
          dnsQueue := if s.dnsOpen
            then s.dnsQueue ++ [(s.tbuf.take tlen, query)] else s.dnsQueue
          pc := .testingWarm count tlen }
  | pass {s : TxState} {count tlen : Nat}
      (at_ : s.pc = .intercepting count tlen)
      (passed : interceptedQuery config s.tbuf tlen = .ok none) :
      TxStep config s .tau { s with pc := .forwarding count tlen }
  | interceptPanics {s : TxState} {count tlen : Nat} {panic : Panic}
      (at_ : s.pc = .intercepting count tlen)
      (panics : interceptedQuery config s.tbuf tlen = .error panic) :
      TxStep config s .tau { s with pc := .finished }
  | warmSkips {s : TxState} {count tlen : Nat}
      (at_ : s.pc = .testingWarm count tlen) (warm : s.warm) :
      TxStep config s .tau { s with pc := .batch (count + 1) }
  | coldForwards {s : TxState} {count tlen : Nat}
      (at_ : s.pc = .testingWarm count tlen) (cold : s.warm = false) :
      TxStep config s .tau { s with pc := .forwarding count tlen }
  | forward {s : TxState} {count tlen : Nat} {message ebuf rbuf : Bytes}
      (at_ : s.pc = .forwarding count tlen)
      (framed : frameMessage config s.gatewayMac (s.tbuf.take tlen) s.ebuf
        s.rbuf = .ok (some message, ebuf, rbuf)) :
      TxStep config s .tau
        { s with
          ebuf := ebuf
          rbuf := rbuf
          pc := .sending count (s.tbuf.take tlen) message }
  | reject {s : TxState} {count tlen : Nat} {ebuf rbuf : Bytes}
      (at_ : s.pc = .forwarding count tlen)
      (rejected : frameMessage config s.gatewayMac (s.tbuf.take tlen) s.ebuf
        s.rbuf = .ok (none, ebuf, rbuf)) :
      TxStep config s .tau
        { s with ebuf := ebuf, rbuf := rbuf, pc := .batch (count + 1) }
  | forwardPanics {s : TxState} {count tlen : Nat} {panic : Panic}
      (at_ : s.pc = .forwarding count tlen)
      (panics : frameMessage config s.gatewayMac (s.tbuf.take tlen) s.ebuf
        s.rbuf = .error panic) :
      TxStep config s .tau { s with pc := .finished }
  | send {s : TxState} {count : Nat} {packet message : Bytes}
      (at_ : s.pc = .sending count packet message) :
      TxStep config s (.handed packet message)
        { s with pc := .batch (count + 1) }
  | sendFails {s : TxState} {count : Nat} {packet message : Bytes}
      (at_ : s.pc = .sending count packet message) :
      TxStep config s .tau { s with pc := .polling }
  | resolverTakes {s : TxState} {item : Bytes × Bytes}
      {rest : List (Bytes × Bytes)} (queue : s.dnsQueue = item :: rest) :
      TxStep config s .tau
        { s with dnsQueue := rest, resolving := item :: s.resolving }
  | resolverAnswers {s : TxState} {item : Bytes × Bytes}
      (taken : item ∈ s.resolving) :
      TxStep config s .warmed
        { s with warm := true, resolving := s.resolving.erase item }
  | resolverFails {s : TxState} {item : Bytes × Bytes}
      (taken : item ∈ s.resolving) :
      TxStep config s .tau { s with resolving := s.resolving.erase item }
  | resolverStops {s : TxState} :
      TxStep config s .tau { s with dnsOpen := false }
  | learnGateway {s : TxState} (mac : MacAddr) :
      TxStep config s .tau { s with gatewayMac := mac }
  | stop {s : TxState} : TxStep config s .tau { s with running := false }

end AndroidTether
