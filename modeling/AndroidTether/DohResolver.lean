import AndroidTether.DnsDiverted
import AndroidTether.DotPool

/-!
# DNS over HTTPS

The resolver thread of `run_session` in DoH mode: it takes a batch of queries,
has one thread post each of them, and joins them all.  The body of a response
is read to its end, so that a reply can be asked for that no IPv4 datagram
holds; the length words of the reply are then cut off.
-/

namespace AndroidTether

open ByteWords Checked OnesComplement

/-- What posting a query comes to; a response has a body that reading may
fail on. -/
inductive HttpOutcome
  | responded (body : Except String Bytes)
  | status (code : Nat) (message : String)
  | failed (message : String)

def dohQueryWithAgent : HttpOutcome → Except String Bytes
  | .responded (.ok body) => .ok body
  | .responded (.error e) => .error ("read body: " ++ e)
  | .status code message =>
      if code = 503 then .error "server 503" else .error message
  | .failed message => .error message

def dohResolve (outcome : HttpOutcome) : Option Bytes :=
  (dohQueryWithAgent outcome).toOption

/-- A thread of the batch, with its packet and query. -/
inductive DohWorker
  | resolving (item : Bytes × Bytes)
  | answered (item : Bytes × Bytes) (dnsResp : Bytes)
  /-- The warm flag is set, and the reply is still to be written. -/
  | replying (item : Bytes × Bytes) (dnsResp : Bytes)
  | finished

inductive DohPhase
  | waiting
  | receiving
  | joining
  deriving DecidableEq

structure DohState where
  phase : DohPhase
  workers : List DohWorker
  /-- Whether `create_doh_agent` succeeded. -/
  agent : Bool
  running : Bool
  warm : Bool

def DohState.initial (agent : Bool) : DohState where
  phase := .waiting
  workers := []
  agent := agent
  running := true
  warm := false

inductive DohEvent
  | tau
  | took (batch : List (Bytes × Bytes))
  /-- A reply for the packet of `item` goes to the utun. -/
  | wrote (item : Bytes × Bytes) (dnsResp reply : Bytes)

section

variable (build : Build)

/-- One step of a thread of the batch, with what it changes around it. -/
inductive DohWorkerStep (s : DohState) :
    DohWorker → DohEvent → DohState → DohWorker → Prop
  | resolve {item : Bytes × Bytes} {dnsResp : Bytes} (outcome : HttpOutcome)
      (made : s.agent) (resolved : dohResolve outcome = some dnsResp) :
      DohWorkerStep s (.resolving item) .tau s (.answered item dnsResp)
  | resolveFails {item : Bytes × Bytes} (outcome : HttpOutcome)
      (fails : s.agent = false ∨ dohResolve outcome = none) :
      DohWorkerStep s (.resolving item) .tau s .finished
  | warm {item : Bytes × Bytes} {dnsResp : Bytes} :
      DohWorkerStep s (.answered item dnsResp) .tau { s with warm := true }
        (.replying item dnsResp)
  | reply {item : Bytes × Bytes} {dnsResp packet : Bytes}
      (built : buildReply build item.1 dnsResp = .ok packet) :
      DohWorkerStep s (.replying item dnsResp) (.wrote item dnsResp packet)
        s .finished
  | replyPanics {item : Bytes × Bytes} {dnsResp : Bytes} {panic : Panic}
      (panics : buildReply build item.1 dnsResp = .error panic) :
      DohWorkerStep s (.replying item dnsResp) .tau s .finished

/-- One step of the resolver thread or of a thread of its batch. -/
inductive DohStep : DohState → DohEvent → DohState → Prop
  | loop {s : DohState} (at_ : s.phase = .waiting) (on : s.running) :
      DohStep s .tau { s with phase := .receiving }
  | timeout {s : DohState} (at_ : s.phase = .receiving) :
      DohStep s .tau { s with phase := .waiting }
  | batch {s : DohState} (items : List (Bytes × Bytes))
      (at_ : s.phase = .receiving) (nonempty : items ≠ []) :
      DohStep s (.took items)
        { s with phase := .joining, workers := items.map .resolving }
  | work {s next : DohState} {event : DohEvent} {before after : List DohWorker}
      {worker moved : DohWorker}
      (position : s.workers = before ++ worker :: after)
      (step : DohWorkerStep build s worker event next moved) :
      DohStep s event { next with workers := before ++ moved :: after }
  | join {s : DohState} (at_ : s.phase = .joining)
      (joined : ∀ worker ∈ s.workers, worker = .finished) :
      DohStep s .tau { s with phase := .waiting, workers := [] }
  | stop {s : DohState} : DohStep s .tau { s with running := false }

end

/-- The largest body that an IPv4 datagram holds behind its two headers. -/
def maxDnsResp : Nat := 65535 - 20 - 8

/-- The length words of a reply are right, and the response fits a
datagram. -/
structure LengthsHold (dnsResp reply : Bytes) : Prop where
  total_length : beWordAt reply 6 2 = reply.length - 4
  udp_length : beWordAt reply 28 2 = 8 + dnsResp.length
  fits : 28 + dnsResp.length ≤ 65535

/-- The two length words that `build_reply` writes, whatever packet it was
given. -/
theorem buildReply_lengths {build : Build} {orig dnsResp reply : Bytes}
    (built : buildReply build orig dnsResp = .ok reply) :
    reply.length = 32 + dnsResp.length ∧
      beWordAt reply 6 2 = (28 + dnsResp.length) % 2 ^ 16 ∧
      beWordAt reply 28 2 = (8 + dnsResp.length) % 2 ^ 16 := by
  simp only [buildReply, bind_eq_ok] at built
  obtain ⟨origIp, -, verIhl, -, af, afEq, dst, dstEq, src, srcEq, start,
    startEq, hdr, -, csum, -, high, highEq, low, lowEq, udp, -, dport, dportEq,
    sport, sportEq, replyEq⟩ := built
  have afLength := range_length afEq
  have dstLength := range_length dstEq
  have srcLength := range_length srcEq
  have dportLength := range_length dportEq
  have sportLength := range_length sportEq
  generalize outEq : af ++ [0x45, 0x00,
    UInt8.ofNat ((20 + 8 + dnsResp.length) >>> 8),
    UInt8.ofNat (20 + 8 + dnsResp.length), 0x00, 0x00, 0x00, 0x00, 64, 17] ++
      List.replicate 2 0 ++ dst ++ src = out at startEq highEq
  have outLength : out.length = 24 := by
    rw [← outEq]
    simp only [List.length_append, List.length_cons, List.length_nil,
      List.length_replicate, afLength, dstLength, srcLength]
  rw [outLength] at startEq
  cases startEq
  -- the two stores are behind the length word
  obtain ⟨highFront, highLength⟩ := @store_front _ _ _ _ highEq 8 (by decide)
  obtain ⟨lowFront, lowLength⟩ := @store_front _ _ _ _ lowEq 8 (by decide)
  cases replyEq
  have headersLength : (low ++ dport ++ sport).length = 28 := by
    simp only [List.length_append, lowLength, highLength, outLength,
      dportLength, sportLength]
  refine ⟨?_, ?_, ?_⟩
  · simp only [List.length_append, List.length_cons, List.length_nil] at *
    omega
  · have outWord : beWordAt out 6 2 = (28 + dnsResp.length) % 2 ^ 16 := by
      have cut : (out.drop 6).take 2 = beBytes 2 (28 + dnsResp.length) := by
        have inFront : af.length ≤ 6 := by omega
        rw [← outEq, ← beBytes_two (28 + dnsResp.length)]
        simp only [List.append_assoc]
        rw [List.drop_append, List.drop_of_length_le inFront, afLength]
        rfl
      exact beWordAt_beBytes cut
    rw [← outWord]
    refine beWordAt_congr ?_
    rw [List.append_assoc, List.append_assoc, List.append_assoc,
      List.take_append_of_le_length (by omega), lowFront, highFront]
  · have cut : ((low ++ dport ++ sport ++
        [UInt8.ofNat (((8 + dnsResp.length) % 2 ^ 16) >>> 8),
          UInt8.ofNat ((8 + dnsResp.length) % 2 ^ 16), 0x00, 0x00] ++
        dnsResp).drop 28).take 2 =
          beBytes 2 ((8 + dnsResp.length) % 2 ^ 16) := by
      rw [List.append_assoc, List.drop_left' headersLength, ← beBytes_two]
      rfl
    rw [beWordAt_beBytes cut]
    exact Nat.mod_mod _ _

theorem lengthsHold_iff {build : Build} {orig dnsResp reply : Bytes}
    (built : buildReply build orig dnsResp = .ok reply) :
    LengthsHold dnsResp reply ↔ dnsResp.length ≤ maxDnsResp := by
  obtain ⟨replyLength, totalLength, udpLength⟩ := buildReply_lengths built
  have bound : maxDnsResp = 65507 := rfl
  constructor
  · intro holds
    have fits := holds.fits
    omega
  · intro bounded
    exact ⟨by omega, by omega, by omega⟩

/-- What a thread of the batch writes was built by `build_reply`. -/
theorem DohStep.built {build : Build} {s next : DohState}
    {item : Bytes × Bytes} {dnsResp reply : Bytes}
    (step : DohStep build s (.wrote item dnsResp reply) next) :
    buildReply build item.1 dnsResp = .ok reply := by
  cases step with
  | work position step =>
      cases step with
      | reply built => exact built

/-- `dot_query_inner` rejects longer responses. -/
theorem dotQueryPooled_bounded {server : DotServer} {query resp : Bytes}
    {cuts : DotCuts} {conn after : DotPooledConn}
    (answered : dotQueryPooled server query cuts conn = .ok resp after) :
    resp.length ≤ 4096 := by
  unfold dotQueryPooled at answered
  split at answered
  case h_2 => cases answered
  case h_1 inner =>
    cases answered
    unfold dotQueryInner at inner
    obtain ⟨⟨⟩, lengthSent, -, querying⟩ := bind_eq_ok_iff.mp inner
    obtain ⟨⟨⟩, querySent, -, reading⟩ := bind_eq_ok_iff.mp querying
    obtain ⟨lenBuf, lengthTaken, -, finishing⟩ := bind_eq_ok_iff.mp reading
    split at finishing
    case isTrue => cases finishing
    case isFalse small =>
      obtain ⟨-, respLength, -⟩ := readExact_ok finishing
      omega

/-- The response a worker is about to reply with is within the bound. -/
def DotWorker.Bounded : DotWorker → Prop
  | .answered _ _ _ resp | .replying _ _ _ resp => resp.length ≤ 4096
  | .fetching _ | .attempting .. | .reconnecting .. | .retrying ..
  | .finished => True

theorem WorkerStep.bounded {build : Build} {server : DotServer}
    {s next : DotState} {event : DotEvent} {worker moved : DotWorker}
    (bounded : worker.Bounded)
    (step : WorkerStep build server s worker event next moved) :
    moved.Bounded := by
  cases step with
  | warm => exact bounded
  | attempt cuts current answered | retry cuts current answered =>
      exact dotQueryPooled_bounded answered
  | fetch | leave | attemptFails | reconnect | reconnectFails | retryFails
  | reply | replyPanics => trivial

theorem DotStep.bounded {build : Build} {server : DotServer}
    {s next : DotState} {event : DotEvent}
    (bounded : ∀ worker ∈ s.workers, worker.Bounded)
    (step : DotStep build server s event next) :
    ∀ worker ∈ next.workers, worker.Bounded := by
  cases step with
  | loop | timeout | batch | expand | expandFails | expanded | spawnFails
  | stop => exact bounded
  | spawn | spawnFresh =>
      exact List.forall_mem_append.mpr
        ⟨bounded, List.forall_mem_singleton.mpr trivial⟩
  | work position step =>
      rw [position, List.forall_mem_append, List.forall_mem_cons] at bounded
      obtain ⟨front, here, back⟩ := bounded
      exact List.forall_mem_append.mpr
        ⟨front, List.forall_mem_cons.mpr ⟨step.bounded here, back⟩⟩
  | reclaim => exact fun worker member => absurd member List.not_mem_nil

theorem dot_lengthsHold {build : Build} {server : DotServer}
    {trace : List DotEvent} {s : DotState}
    (run : Run (DotStep build server) .initial trace s)
    {asked : DotPooledConn} {item : Bytes × Bytes} {resp reply : Bytes}
    (wrote : .wrote asked item resp reply ∈ trace) :
    LengthsHold resp reply := by
  have bound : maxDnsResp = 65507 := rfl
  obtain ⟨earlier, later, rfl⟩ := List.append_of_mem wrote
  obtain ⟨before, next, earlierRun, taken, -⟩ := run.split
  have bounded : ∀ worker ∈ before.workers, worker.Bounded :=
    earlierRun.invariant (fun _ member => absurd member List.not_mem_nil)
      fun bounded step => step.bounded bounded
  cases taken with
  | work position step =>
      cases step with
      | @reply conn _ i _ _ _ current built =>
          have small : resp.length ≤ 4096 :=
            bounded (.replying conn i asked resp) (by rw [position]; simp)
          exact (lengthsHold_iff built).mpr (by omega)

/-- The length words of the replies hold exactly as long as the bodies fit,
which those of DNS over TLS always do. -/
theorem replyLengths_iff (build : Build) :
    (∀ agent trace s, Run (DohStep build) (.initial agent) trace s →
      ((∀ item dnsResp reply, .wrote item dnsResp reply ∈ trace →
          LengthsHold dnsResp reply) ↔
        ∀ item dnsResp reply, .wrote item dnsResp reply ∈ trace →
          dnsResp.length ≤ maxDnsResp)) ∧
    ∀ server trace s, Run (DotStep build server) .initial trace s →
      ∀ asked item resp reply, .wrote asked item resp reply ∈ trace →
        LengthsHold resp reply := by
  refine ⟨fun agent trace s run => ?_, fun server trace s run asked item resp
    reply wrote => dot_lengthsHold run wrote⟩
  have lengths {item : Bytes × Bytes} {dnsResp reply : Bytes}
      (wrote : .wrote item dnsResp reply ∈ trace) :
      LengthsHold dnsResp reply ↔ dnsResp.length ≤ maxDnsResp := by
    obtain ⟨earlier, later, rfl⟩ := List.append_of_mem wrote
    obtain ⟨before, next, -, taken, -⟩ := run.split
    exact lengthsHold_iff taken.built
  exact ⟨fun holds item dnsResp reply wrote =>
      (lengths wrote).mp (holds item dnsResp reply wrote),
    fun bounded item dnsResp reply wrote =>
      (lengths wrote).mpr (bounded item dnsResp reply wrote)⟩

/-- A body that is one byte too long for a datagram. -/
def hugeBody : Bytes := List.replicate 65508 0

/-- A server that answers with such a body makes the resolver write a reply
whose length words are wrong. -/
theorem hugeBody_not_lengthsHold :
    Intercepted (coldQuery.bytes, coldQuery.query) ∧
      ∃ trace s reply, Run (DohStep .release) (.initial true) trace s ∧
        .wrote (coldQuery.bytes, coldQuery.query) hugeBody reply ∈ trace ∧
        ¬ LengthsHold hugeBody reply := by
  have bodyLength : hugeBody.length = 65508 := List.length_replicate
  have bound : maxDnsResp = 65507 := rfl
  have built := buildReply_eq .release coldQuery hugeBody
  have receiving := Run.nil.snoc
    (@DohStep.loop .release (.initial true) rfl rfl)
  have joining := receiving.snoc
    (.batch [(coldQuery.bytes, coldQuery.query)] rfl (by simp))
  have answered := joining.snoc (@DohStep.work .release _ _ _ [] [] _ _ rfl
    (.resolve (.responded (.ok hugeBody)) rfl rfl))
  have warmed := answered.snoc (@DohStep.work .release _ _ _ [] [] _ _ rfl
    .warm)
  have written := warmed.snoc (@DohStep.work .release _ _ _ [] [] _ _ rfl
    (.reply built))
  exact ⟨coldQuery.intercepted, _, _, _, written,
    List.mem_append_right _ (List.mem_singleton_self _),
    fun holds => absurd ((lengthsHold_iff built).mp holds) (by omega)⟩

end AndroidTether
