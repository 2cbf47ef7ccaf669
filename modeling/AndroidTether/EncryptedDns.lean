import AndroidTether.Composition
import AndroidTether.DohResolver

/-!
# Encrypted DNS from the utun to the utun

The TX loop and the resolver thread in DoH mode, with the channel between
them.  Every query that is diverted is settled once: it waits in the channel,
belongs to the batch that is being resolved, has failed, or was answered with
one reply.
-/

namespace AndroidTether

open Checked
open List (Perm)

structure DnsSystem where
  tx : TxState
  doh : DohState
  /-- What the resolver has received of its next batch. -/
  collected : List (Bytes × Bytes)

inductive DnsSystemEvent
  | tx (event : TxEvent)
  | received (item : Bytes × Bytes)
  | resolver
  | took (batch : List (Bytes × Bytes))
  | warmed (item : Bytes × Bytes)
  | answered (item : Bytes × Bytes) (dnsResp reply : Bytes)
  | failed (item : Bytes × Bytes)
  | panicked (item : Bytes × Bytes)
  | ended
  | stopped

def DnsSystem.initial (agent : Bool) : DnsSystem where
  tx := .initial
  doh := .initial agent
  collected := []

/-- What belongs to the resolver, the TX thread leaves as it is. -/
structure TxState.SameResolver (s next : TxState) : Prop where
  resolving : next.resolving = s.resolving
  dnsOpen : next.dnsOpen = s.dnsOpen
  running : next.running = s.running

inductive DnsSystemStep (build : Build) (config : TxConfig) :
    DnsSystem → DnsSystemEvent → DnsSystem → Prop
  | tx {s : DnsSystem} {event : TxEvent} {next : TxState}
      (step : TxStep config s.tx event next) (own : s.tx.SameResolver next) :
      DnsSystemStep build config s (.tx event) { s with tx := next }
  | loop {s : DnsSystem} (at_ : s.doh.phase = .waiting) (on : s.doh.running) :
      DnsSystemStep build config s .resolver
        { s with doh := { s.doh with phase := .receiving } }
  | timeout {s : DnsSystem} (at_ : s.doh.phase = .receiving)
      (nothing : s.collected = []) :
      DnsSystemStep build config s .resolver
        { s with doh := { s.doh with phase := .waiting } }
  | receive {s : DnsSystem} {item : Bytes × Bytes}
      {rest : List (Bytes × Bytes)} (at_ : s.doh.phase = .receiving)
      (queue : s.tx.dnsQueue = item :: rest) :
      DnsSystemStep build config s (.received item)
        { s with
          tx := { s.tx with
            dnsQueue := rest
            resolving := item :: s.tx.resolving }
          collected := s.collected ++ [item] }
  | batch {s : DnsSystem} (at_ : s.doh.phase = .receiving)
      (some : s.collected ≠ []) (empty : s.tx.dnsQueue = []) :
      DnsSystemStep build config s (.took s.collected)
        { s with
          doh := { s.doh with
            phase := .joining
            workers := s.collected.map .resolving }
          collected := [] }
  | resolve {s : DnsSystem} {item : Bytes × Bytes} {dnsResp : Bytes}
      {before after : List DohWorker} (outcome : HttpOutcome)
      (position : s.doh.workers = before ++ .resolving item :: after)
      (made : s.doh.agent) (resolved : dohResolve outcome = some dnsResp) :
      DnsSystemStep build config s .resolver
        { s with
          doh := { s.doh with
            workers := before ++ .answered item dnsResp :: after } }
  | fails {s : DnsSystem} {item : Bytes × Bytes}
      {before after : List DohWorker} (outcome : HttpOutcome)
      (position : s.doh.workers = before ++ .resolving item :: after)
      (fails : s.doh.agent = false ∨ dohResolve outcome = none)
      (taken : item ∈ s.tx.resolving) :
      DnsSystemStep build config s (.failed item)
        { s with
          tx := { s.tx with resolving := s.tx.resolving.erase item }
          doh := { s.doh with workers := before ++ .finished :: after } }
  | warm {s : DnsSystem} {item : Bytes × Bytes} {dnsResp : Bytes}
      {before after : List DohWorker}
      (position : s.doh.workers = before ++ .answered item dnsResp :: after)
      (taken : item ∈ s.tx.resolving) :
      DnsSystemStep build config s (.warmed item)
        { s with
          tx := { s.tx with
            warm := true
            resolving := s.tx.resolving.erase item }
          doh := { s.doh with
            warm := true
            workers := before ++ .replying item dnsResp :: after } }
  | reply {s : DnsSystem} {item : Bytes × Bytes} {dnsResp packet : Bytes}
      {before after : List DohWorker}
      (position : s.doh.workers = before ++ .replying item dnsResp :: after)
      (built : buildReply build item.1 dnsResp = .ok packet) :
      DnsSystemStep build config s (.answered item dnsResp packet)
        { s with
          doh := { s.doh with workers := before ++ .finished :: after } }
  | replyPanics {s : DnsSystem} {item : Bytes × Bytes} {dnsResp : Bytes}
      {before after : List DohWorker} {panic : Panic}
      (position : s.doh.workers = before ++ .replying item dnsResp :: after)
      (panics : buildReply build item.1 dnsResp = .error panic) :
      DnsSystemStep build config s (.panicked item)
        { s with
          doh := { s.doh with workers := before ++ .finished :: after } }
  | join {s : DnsSystem} (at_ : s.doh.phase = .joining)
      (joined : ∀ worker ∈ s.doh.workers, worker = .finished) :
      DnsSystemStep build config s .resolver
        { s with doh := { s.doh with phase := .waiting, workers := [] } }
  | ends {s : DnsSystem} (at_ : s.doh.phase = .waiting)
      (off : s.doh.running = false) :
      DnsSystemStep build config s .ended
        { s with tx := { s.tx with dnsOpen := false } }
  | stop {s : DnsSystem} :
      DnsSystemStep build config s .stopped
        { s with
          tx := { s.tx with running := false }
          doh := { s.doh with running := false } }

def DnsSystemEvent.txEvent : DnsSystemEvent → Option TxEvent
  | tx event => some event
  | received _ | failed _ | ended | stopped => some .tau
  | warmed _ => some .warmed
  | resolver | took _ | answered .. | panicked _ => none

def DnsSystemEvent.dohEvent : DnsSystemEvent → Option DohEvent
  | tx _ | received _ | ended => none
  | resolver | warmed _ | failed _ | panicked _ | stopped => some .tau
  | took batch => some (.took batch)
  | answered item dnsResp reply => some (.wrote item dnsResp reply)

section

variable {build : Build} {config : TxConfig}

/-- The TX loop, with the resolver's steps as it sees them. -/
def dnsTxPart : ComponentOf (DnsSystemStep build config) (TxStep config) where
  view := DnsSystem.tx
  label := DnsSystemEvent.txEvent
  moves := by
    intro s event next taken
    cases taken with
    | tx step own => exact .takes step
    | loop | timeout | batch | resolve | reply | replyPanics | join =>
        exact .stays
    | receive _ queue => exact .takes (.resolverTakes queue)
    | fails _ _ _ taken => exact .takes (.resolverFails taken)
    | warm _ taken => exact .takes (.resolverAnswers taken)
    | ends => exact .takes .resolverStops
    | stop => exact .takes .stop

/-- The resolver on its own. -/
def dohPart : ComponentOf (DnsSystemStep build config) (DohStep build) where
  view := DnsSystem.doh
  label := DnsSystemEvent.dohEvent
  moves := by
    intro s event next taken
    cases taken with
    | tx | receive | ends => exact .stays
    | loop atPhase on => exact .takes (.loop atPhase on)
    | timeout atPhase => exact .takes (.timeout atPhase)
    | batch atPhase some => exact .takes (.batch _ atPhase some)
    | resolve outcome position made resolved =>
        exact .takes (.work position (.resolve outcome made resolved))
    | fails outcome position fails =>
        exact .takes (.work position (.resolveFails outcome fails))
    | warm position => exact .takes (.work position .warm)
    | reply position built => exact .takes (.work position (.reply built))
    | replyPanics position panics =>
        exact .takes (.work position (.replyPanics panics))
    | join atPhase joined => exact .takes (.join atPhase joined)
    | stop => exact .takes .stop

end

namespace DnsSystemEvent

/-- A query that the TX loop takes out for the resolver. -/
def diverted : DnsSystemEvent → List (Bytes × Bytes)
  | tx (.diverted packet query _) => [(packet, query)]
  | _ => []

def batch : DnsSystemEvent → List (Bytes × Bytes)
  | took batch => batch
  | _ => []

def replied : DnsSystemEvent → List (Bytes × Bytes)
  | answered item _ _ => [item]
  | _ => []

def lost : DnsSystemEvent → List (Bytes × Bytes)
  | failed item => [item]
  | _ => []

def crashed : DnsSystemEvent → List (Bytes × Bytes)
  | panicked item => [item]
  | _ => []

end DnsSystemEvent

namespace DohWorker

/-- What a thread of the batch still has to settle. -/
def unsettled : DohWorker → Option (Bytes × Bytes)
  | resolving item | answered item _ | replying item _ => some item
  | finished => none

/-- What it has told the TX loop about, and not yet replied to. -/
def toReply : DohWorker → Option (Bytes × Bytes)
  | replying item _ => some item
  | resolving _ | answered .. | finished => none

end DohWorker

namespace DohState

def unsettled (s : DohState) : List (Bytes × Bytes) :=
  s.workers.filterMap DohWorker.unsettled

def toReply (s : DohState) : List (Bytes × Bytes) :=
  s.workers.filterMap DohWorker.toReply

end DohState

/-- The TX thread's own steps lengthen the channel by what they divert. -/
theorem TxStep.dnsQueue_of_own {config : TxConfig} {s next : TxState}
    {event : TxEvent} (step : TxStep config s event next)
    (own : s.SameResolver next) :
    next.warm = s.warm ∧
      next.dnsQueue = s.dnsQueue ++
        if s.dnsOpen then (DnsSystemEvent.tx event).diverted else [] := by
  have same := own.resolving
  have quiet : s.dnsQueue = s.dnsQueue ++ if s.dnsOpen then [] else [] := by
    simp
  cases step with
  | intercept atPc diverted =>
      refine ⟨rfl, ?_⟩
      cases s.dnsOpen <;> simp [DnsSystemEvent.diverted]
  | resolverTakes queue => exact absurd same (List.cons_ne_self _ _)
  | resolverAnswers taken | resolverFails taken =>
      have shorter := List.length_erase_of_mem taken
      have positive := List.length_pos_of_mem taken
      have sameLength := congrArg List.length same
      dsimp only at sameLength
      omega
  | pollTimeout | pollReadable | pollStopped | readableGo | readableStopped
  | readPacket | readNothing | batchDone | receivedStopped | receivedGo
  | pass | interceptPanics | warmSkips | coldForwards | forward | reject
  | forwardPanics | send | sendFails | resolverStops | learnGateway | stop =>
      exact ⟨rfl, quiet⟩

section Accounts

variable {build : Build} {config : TxConfig} {trace : List DnsSystemEvent}
  {s next : DnsSystem} {event : DnsSystemEvent}

/-- Batches are taken in the order in which queries were diverted, and only a
resolver that has ended misses one. -/
def InOrder (trace : List DnsSystemEvent) (s : DnsSystem) : Prop :=
  ∃ missed, trace.flatMap DnsSystemEvent.diverted =
      trace.flatMap DnsSystemEvent.batch ++
        (s.collected ++ (s.tx.dnsQueue ++ missed)) ∧
    (s.tx.dnsOpen → missed = [])

theorem InOrder.step (inOrder : InOrder trace s)
    (taken : DnsSystemStep build config s event next) :
    InOrder (trace ++ [event]) next := by
  obtain ⟨missed, order, allThere⟩ := inOrder
  simp only [InOrder, List.flatMap_append, List.flatMap_singleton, order]
  cases taken with
  | @tx event after step own =>
      obtain ⟨-, queueEq⟩ := step.dnsQueue_of_own own
      rw [queueEq, own.dnsOpen]
      cases isOpen : s.tx.dnsOpen with
      | true =>
          refine ⟨[], ?_, fun _ => rfl⟩
          simp [allThere isOpen, DnsSystemEvent.batch]
      | false =>
          refine ⟨missed ++ (DnsSystemEvent.tx event).diverted, ?_,
            fun absent => absurd absent Bool.false_ne_true⟩
          simp [DnsSystemEvent.batch]
  | receive atPhase queue =>
      refine ⟨missed, ?_, allThere⟩
      simp [queue, DnsSystemEvent.diverted, DnsSystemEvent.batch]
  | batch atPhase some empty =>
      refine ⟨missed, ?_, allThere⟩
      simp [DnsSystemEvent.diverted, DnsSystemEvent.batch]
  | ends =>
      refine ⟨missed, ?_, fun absent => absurd absent Bool.false_ne_true⟩
      simp [DnsSystemEvent.diverted, DnsSystemEvent.batch]
  | loop | timeout | resolve | fails | warm | reply | replyPanics | join
  | stop =>
      refine ⟨missed, ?_, allThere⟩
      simp [DnsSystemEvent.diverted, DnsSystemEvent.batch]

/-- What has become of the queries of all batches, and of the one that is
received. -/
structure BatchesSettle (trace : List DnsSystemEvent) (s : DnsSystem) :
    Prop where
  once : Perm (trace.flatMap DnsSystemEvent.batch)
    (trace.flatMap DnsSystemEvent.replied ++
      (trace.flatMap DnsSystemEvent.lost ++
        (trace.flatMap DnsSystemEvent.crashed ++ s.doh.unsettled)))
  pending : Perm (s.tx.resolving ++ s.doh.toReply)
    (s.doh.unsettled ++ s.collected)
  joined : s.doh.phase ≠ .joining → s.doh.workers = []
  collecting : s.doh.phase ≠ .receiving → s.collected = []
  sameWarm : s.tx.warm = s.doh.warm
  warm : s.doh.warm ↔ trace.flatMap DnsSystemEvent.replied ++
    (trace.flatMap DnsSystemEvent.crashed ++ s.doh.toReply) ≠ []

theorem filterMap_moved {told : DohWorker → Option (Bytes × Bytes)}
    {workers before after : List DohWorker} {worker moved : DohWorker}
    (position : workers = before ++ worker :: after)
    (same : told moved = told worker) :
    (before ++ moved :: after).filterMap told = workers.filterMap told := by
  rw [position, List.filterMap_append, List.filterMap_cons,
    List.filterMap_append, List.filterMap_cons, same]

/-- A thread that has settled what it held. -/
theorem perm_settled {told : DohWorker → Option (Bytes × Bytes)}
    {workers before after : List DohWorker} {worker moved : DohWorker}
    {item : Bytes × Bytes} (position : workers = before ++ worker :: after)
    (held : told worker = some item) (done : told moved = none) :
    Perm (workers.filterMap told)
      (item :: (before ++ moved :: after).filterMap told) := by
  rw [position, List.filterMap_append, List.filterMap_cons, held,
    List.filterMap_append, List.filterMap_cons, done]
  exact List.perm_middle

theorem unsettled_resolving (items : List (Bytes × Bytes)) :
    (items.map DohWorker.resolving).filterMap DohWorker.unsettled = items := by
  rw [List.filterMap_map]
  exact List.filterMap_some

theorem toReply_resolving (items : List (Bytes × Bytes)) :
    (items.map DohWorker.resolving).filterMap DohWorker.toReply = [] := by
  simp [List.filterMap_map, Function.comp_def, DohWorker.toReply]

theorem filterMap_finished {told : DohWorker → Option (Bytes × Bytes)}
    {workers : List DohWorker} (nothing : told .finished = none)
    (joined : ∀ worker ∈ workers, worker = .finished) :
    workers.filterMap told = [] := by
  apply List.filterMap_eq_nil_iff.mpr
  intro worker member
  rw [joined worker member, nothing]

namespace BatchesSettle

theorem initial (agent : Bool) : BatchesSettle [] (.initial agent) where
  once := .nil
  pending := .nil
  joined _ := rfl
  collecting _ := rfl
  sameWarm := rfl
  warm := by
    simp [DnsSystem.initial, DohState.initial, DohState.toReply]

theorem quiet (settling : BatchesSettle trace s)
    (noBatch : event.batch = []) (noReply : event.replied = [])
    (noLoss : event.lost = []) (noCrash : event.crashed = [])
    (pending : Perm (next.tx.resolving ++ s.doh.toReply)
      (s.doh.unsettled ++ next.collected))
    (unsettled : next.doh.unsettled = s.doh.unsettled)
    (toReply : next.doh.toReply = s.doh.toReply)
    (joined : next.doh.phase ≠ .joining → next.doh.workers = [])
    (collecting : next.doh.phase ≠ .receiving → next.collected = [])
    (txWarm : next.tx.warm = s.tx.warm) (dohWarm : next.doh.warm = s.doh.warm) :
    BatchesSettle (trace ++ [event]) next where
  once := by
    simp only [List.flatMap_append, List.flatMap_singleton, noBatch, noReply,
      noLoss, noCrash, List.append_nil, unsettled]
    exact settling.once
  pending := by
    rw [toReply, unsettled]
    exact pending
  joined := joined
  collecting := collecting
  sameWarm := by rw [txWarm, dohWarm, settling.sameWarm]
  warm := by
    simp only [List.flatMap_append, List.flatMap_singleton, noReply, noCrash,
      List.append_nil, dohWarm, toReply]
    exact settling.warm

/-- Workers exist while they are joined. -/
theorem joining (settling : BatchesSettle trace s) {before after : List DohWorker}
    {worker : DohWorker}
    (position : s.doh.workers = before ++ worker :: after) :
    s.doh.phase = .joining := by
  by_contra elsewhere
  have none := settling.joined elsewhere
  rw [position] at none
  simp at none

/-- What was received is unsettled once it is a batch. -/
theorem batched (settling : BatchesSettle trace s)
    (atPhase : s.doh.phase = .receiving) :
    BatchesSettle (trace ++ [.took s.collected])
      { s with
        doh := { s.doh with
          phase := .joining
          workers := s.collected.map .resolving }
        collected := [] } := by
  obtain ⟨once, pending, joined, -, sameWarm, warm⟩ := settling
  have none : s.doh.workers = [] := joined (by rw [atPhase]; decide)
  simp only [DohState.unsettled, DohState.toReply, none, List.filterMap_nil,
    List.append_nil, List.nil_append] at once pending warm
  refine ⟨?_, ?_, fun elsewhere => absurd rfl elsewhere, fun _ => rfl,
    sameWarm, ?_⟩
  · simp only [List.flatMap_append, List.flatMap_singleton,
      DnsSystemEvent.batch, DnsSystemEvent.replied, DnsSystemEvent.lost,
      DnsSystemEvent.crashed, List.append_nil, DohState.unsettled,
      unsettled_resolving]
    have added := once.append_right s.collected
    simp only [List.append_assoc] at added
    exact added
  · simp only [DohState.unsettled, DohState.toReply, unsettled_resolving,
      toReply_resolving, List.append_nil]
    exact pending
  · simp only [List.flatMap_append, List.flatMap_singleton,
      DnsSystemEvent.replied, DnsSystemEvent.crashed, List.append_nil,
      DohState.toReply, toReply_resolving]
    exact warm

/-- The flag is set before the reply is made. -/
theorem warmed (settling : BatchesSettle trace s) {item : Bytes × Bytes}
    {dnsResp : Bytes} {before after : List DohWorker}
    (position : s.doh.workers = before ++ .answered item dnsResp :: after)
    (taken : item ∈ s.tx.resolving) :
    BatchesSettle (trace ++ [.warmed item])
      { s with
        tx := { s.tx with
          warm := true
          resolving := s.tx.resolving.erase item }
        doh := { s.doh with
          warm := true
          workers := before ++ .replying item dnsResp :: after } } := by
  have phase := settling.joining position
  obtain ⟨once, pending, -, collecting, -, -⟩ := settling
  have unsettled : (before ++ .replying item dnsResp :: after).filterMap
      DohWorker.unsettled = s.doh.unsettled := filterMap_moved position rfl
  have told : Perm ((before ++ .replying item dnsResp :: after).filterMap
      DohWorker.toReply) (item :: s.doh.toReply) := by
    rw [DohState.toReply, position]
    exact perm_settled rfl rfl rfl
  refine ⟨?_, ?_, fun elsewhere => absurd phase elsewhere, collecting,
    rfl, ?_⟩
  · simp only [List.flatMap_append, List.flatMap_singleton,
      DnsSystemEvent.batch, DnsSystemEvent.replied, DnsSystemEvent.lost,
      DnsSystemEvent.crashed, List.append_nil, DohState.unsettled, unsettled]
    exact once
  · have front : Perm (s.tx.resolving ++ s.doh.toReply)
        (item :: (s.tx.resolving.erase item ++ s.doh.toReply)) :=
      (List.perm_cons_erase taken).append_right s.doh.toReply
    have moved := ((told.append_left _).trans List.perm_middle).trans
      (front.symm.trans pending)
    simp only [DohState.unsettled, unsettled]
    exact moved
  · refine iff_of_true rfl fun nothing => ?_
    simp only [List.append_eq_nil_iff, DohState.toReply] at nothing
    rw [nothing.2.2] at told
    exact absurd told.length_eq (by simp)

theorem once_settled (settling : BatchesSettle trace s) {item : Bytes × Bytes}
    {unsettled : List (Bytes × Bytes)} (noBatch : event.batch = [])
    (one : event.replied ++ (event.lost ++ event.crashed) = [item])
    (closed : Perm s.doh.unsettled (item :: unsettled)) :
    Perm ((trace ++ [event]).flatMap DnsSystemEvent.batch)
      ((trace ++ [event]).flatMap DnsSystemEvent.replied ++
        ((trace ++ [event]).flatMap DnsSystemEvent.lost ++
          ((trace ++ [event]).flatMap DnsSystemEvent.crashed ++
            unsettled))) := by
  apply List.perm_iff_count.mpr
  intro other
  have once := List.perm_iff_count.mp settling.once other
  have added := congrArg (List.count other) one
  have closed := List.perm_iff_count.mp closed other
  simp only [List.flatMap_append, List.flatMap_singleton, noBatch,
    List.append_nil, List.count_append, List.count_cons, List.count_nil]
    at once added closed ⊢
  omega

theorem failed (settling : BatchesSettle trace s) {item : Bytes × Bytes}
    {before after : List DohWorker}
    (position : s.doh.workers = before ++ .resolving item :: after)
    (taken : item ∈ s.tx.resolving) :
    BatchesSettle (trace ++ [.failed item])
      { s with
        tx := { s.tx with resolving := s.tx.resolving.erase item }
        doh := { s.doh with workers := before ++ .finished :: after } } := by
  have phase := settling.joining position
  have closed : Perm s.doh.unsettled (item ::
      (before ++ .finished :: after).filterMap DohWorker.unsettled) :=
    perm_settled position rfl rfl
  have toReply : (before ++ .finished :: after).filterMap
      DohWorker.toReply = s.doh.toReply := filterMap_moved position rfl
  refine ⟨settling.once_settled rfl rfl closed, ?_,
    fun elsewhere => absurd phase elsewhere, settling.collecting,
    settling.sameWarm, ?_⟩
  · have front : Perm (s.tx.resolving ++ s.doh.toReply)
        (item :: (s.tx.resolving.erase item ++ s.doh.toReply)) :=
      (List.perm_cons_erase taken).append_right s.doh.toReply
    rw [DohState.toReply, toReply]
    exact (front.symm.trans
      (settling.pending.trans (closed.append_right _))).cons_inv
  · simp only [List.flatMap_append, List.flatMap_singleton,
      DnsSystemEvent.replied, DnsSystemEvent.crashed, List.append_nil,
      DohState.toReply, toReply]
    exact settling.warm

theorem replied (settling : BatchesSettle trace s) {item : Bytes × Bytes}
    {dnsResp : Bytes} {before after : List DohWorker}
    (position : s.doh.workers = before ++ .replying item dnsResp :: after)
    (noBatch : event.batch = []) (noLoss : event.lost = [])
    (one : event.replied ++ event.crashed = [item]) :
    BatchesSettle (trace ++ [event])
      { s with
        doh := { s.doh with workers := before ++ .finished :: after } } := by
  have phase := settling.joining position
  have closed : Perm s.doh.unsettled (item ::
      (before ++ .finished :: after).filterMap DohWorker.unsettled) :=
    perm_settled position rfl rfl
  have toReply : Perm s.doh.toReply (item ::
      (before ++ .finished :: after).filterMap DohWorker.toReply) :=
    perm_settled position rfl rfl
  refine ⟨settling.once_settled noBatch (by rwa [noLoss]) closed, ?_,
    fun elsewhere => absurd phase elsewhere, settling.collecting,
    settling.sameWarm, ?_⟩
  · have front := (toReply.append_left s.tx.resolving).trans
      List.perm_middle
    exact (front.symm.trans
      (settling.pending.trans (closed.append_right _))).cons_inv
  · refine iff_of_true (settling.warm.mpr fun nothing => ?_) fun nothing => ?_
    · simp only [List.append_eq_nil_iff] at nothing
      rw [nothing.2.2] at toReply
      exact absurd toReply.length_eq (by simp)
    · simp only [List.flatMap_append, List.flatMap_singleton,
        List.append_eq_nil_iff] at nothing
      rw [nothing.1.2, nothing.2.1.2] at one
      cases one

theorem step (settling : BatchesSettle trace s)
    (taken : DnsSystemStep build config s event next) :
    BatchesSettle (trace ++ [event]) next := by
  have ⟨once, pending, joined, collecting, sameWarm, warm⟩ := settling
  cases taken with
  | @tx event after step own =>
      obtain ⟨stillWarm, -⟩ := step.dnsQueue_of_own own
      refine settling.quiet rfl rfl rfl rfl ?_ rfl rfl joined collecting
        stillWarm rfl
      rw [own.resolving]
      exact pending
  | loop atPhase on =>
      have empty : s.collected = [] := collecting (by rw [atPhase]; decide)
      have none : s.doh.workers = [] := joined (by rw [atPhase]; decide)
      exact settling.quiet rfl rfl rfl rfl pending rfl rfl
        (fun _ => none) (fun _ => empty) rfl rfl
  | timeout atPhase nothing =>
      have none : s.doh.workers = [] := joined (by rw [atPhase]; decide)
      exact settling.quiet rfl rfl rfl rfl pending rfl rfl
        (fun _ => none) (fun _ => nothing) rfl rfl
  | @receive item rest atPhase queue =>
      refine settling.quiet rfl rfl rfl rfl ?_ rfl rfl joined
        (fun elsewhere => absurd atPhase elsewhere) rfl rfl
      have behind : Perm (item :: (s.doh.unsettled ++ s.collected))
          ((s.doh.unsettled ++ s.collected) ++ [item]) :=
        (List.perm_append_singleton item _).symm
      rw [← List.append_assoc]
      exact (pending.cons item).trans behind
  | batch atPhase some empty => exact settling.batched atPhase
  | @resolve item dnsResp before after outcome position made resolved =>
      have phase := settling.joining position
      exact settling.quiet rfl rfl rfl rfl pending
        (filterMap_moved position rfl) (filterMap_moved position rfl)
        (fun elsewhere => absurd phase elsewhere) collecting rfl rfl
  | fails outcome position fails taken => exact settling.failed position taken
  | warm position taken => exact settling.warmed position taken
  | reply position built => exact settling.replied position rfl rfl rfl
  | replyPanics position panics => exact settling.replied position rfl rfl rfl
  | join atPhase allFinished =>
      refine settling.quiet rfl rfl rfl rfl pending
        (filterMap_finished rfl allFinished).symm
        (filterMap_finished rfl allFinished).symm (fun _ => rfl) ?_ rfl rfl
      intro _
      exact collecting (by rw [atPhase]; decide)
  | ends atPhase off =>
      exact settling.quiet rfl rfl rfl rfl pending rfl rfl joined
        collecting rfl rfl
  | stop =>
      exact settling.quiet rfl rfl rfl rfl pending rfl rfl joined
        collecting rfl rfl

end BatchesSettle

/-- What the resolver has not settled yet was diverted before. -/
theorem diverted_of_unsettled (inOrder : InOrder trace s)
    (settling : BatchesSettle trace s) {item : Bytes × Bytes}
    (member : item ∈ s.doh.unsettled) :
    item ∈ trace.flatMap DnsSystemEvent.diverted := by
  obtain ⟨missed, order, -⟩ := inOrder
  have inBatch : item ∈ trace.flatMap DnsSystemEvent.batch :=
    settling.once.mem_iff.mpr (by simp [member])
  rw [order]
  exact List.mem_append_left _ inBatch

end Accounts

/-- Where each query is that was diverted so far. -/
structure DnsAccounted (build : Build) (trace : List DnsSystemEvent)
    (s : DnsSystem) : Prop where
  inOrder : InOrder trace s
  once : Perm (trace.flatMap DnsSystemEvent.batch)
    (trace.flatMap DnsSystemEvent.replied ++
      (trace.flatMap DnsSystemEvent.lost ++ s.doh.unsettled))
  atMostOnce : ∀ item, (trace.flatMap DnsSystemEvent.replied).count item ≤
    (trace.flatMap DnsSystemEvent.diverted).count item
  replies : ∀ item dnsResp reply, .answered item dnsResp reply ∈ trace →
    Intercepted item ∧ buildReply build item.1 dnsResp = .ok reply
  noPanic : ∀ item, .panicked item ∉ trace
  pending : Perm (s.tx.resolving ++ s.doh.toReply)
    (s.doh.unsettled ++ s.collected)
  joined : s.doh.phase ≠ .joining → s.doh.unsettled = []
  /-- The flag is set as soon as there is a first reply to make. -/
  warm : s.tx.warm ↔
    trace.flatMap DnsSystemEvent.replied ++ s.doh.toReply ≠ []

section Runs

variable {build : Build} {config : TxConfig} {agent : Bool}
  {trace : List DnsSystemEvent} {s : DnsSystem}

theorem InOrder.of_run
    (run : Run (DnsSystemStep build config) (.initial agent) trace s) :
    InOrder trace s :=
  run.history ⟨[], rfl, fun _ => rfl⟩ InOrder.step

theorem BatchesSettle.of_run
    (run : Run (DnsSystemStep build config) (.initial agent) trace s) :
    BatchesSettle trace s :=
  run.history (BatchesSettle.initial agent) BatchesSettle.step

theorem mem_diverted {item : Bytes × Bytes}
    (member : item ∈ trace.flatMap DnsSystemEvent.diverted) :
    ∃ sent, .tx (.diverted item.1 item.2 sent) ∈ trace := by
  obtain ⟨event, eventMem, diverted⟩ := List.mem_flatMap.mp member
  cases event with
  | tx event =>
      cases event with
      | diverted packet query sent =>
          cases List.mem_singleton.mp diverted
          exact ⟨sent, eventMem⟩
      | tau | read | warmed | handed => cases diverted
  | received | resolver | took | warmed | answered | failed | panicked | ended
  | stopped => cases diverted

/-- A worker only ever holds what the TX loop has intercepted. -/
theorem intercepted_of_unsettled (encrypted : config.dnsMode ≠ .system)
    (run : Run (DnsSystemStep build config) (.initial agent) trace s)
    {item : Bytes × Bytes} (member : item ∈ s.doh.unsettled) :
    Intercepted item := by
  obtain ⟨sent, diverted⟩ := mem_diverted
    (diverted_of_unsettled (.of_run run) (.of_run run) member)
  have txDiverted : .diverted item.1 item.2 sent ∈
      (@dnsTxPart build config).trace trace :=
    List.mem_filterMap.mpr ⟨_, diverted, rfl⟩
  exact intercepted_of_diverted encrypted (dnsTxPart.run run) txDiverted

theorem unsettled_of_position {before after : List DohWorker}
    {worker : DohWorker} {item : Bytes × Bytes}
    (position : s.doh.workers = before ++ worker :: after)
    (holds : worker.unsettled = some item) : item ∈ s.doh.unsettled :=
  List.mem_filterMap.mpr ⟨worker, by rw [position]; simp, holds⟩

/-- With DNS over HTTPS every query that is diverted is settled once, whatever
the servers do and however the threads take turns. -/
theorem dnsAccounted (encrypted : config.dnsMode = .doH)
    (run : Run (DnsSystemStep build config) (.initial agent) trace s) :
    DnsAccounted build trace s := by
  have notSystem : config.dnsMode ≠ .system := by rw [encrypted]; decide
  have inOrder := InOrder.of_run run
  have settling := BatchesSettle.of_run run
  have noPanic : ∀ item, .panicked item ∉ trace := by
    intro item member
    obtain ⟨earlier, later, rfl⟩ := List.append_of_mem member
    obtain ⟨before, next, earlierRun, taken, -⟩ := run.split
    cases taken with
    | @replyPanics item dnsResp _ _ panic position panics =>
        have intercepted := intercepted_of_unsettled notSystem earlierRun
          (unsettled_of_position position rfl)
        obtain ⟨reply, built⟩ := intercepted.buildReply_eq_ok build dnsResp
        rw [built] at panics
        cases panics
  have noCrash : trace.flatMap DnsSystemEvent.crashed = [] := by
    apply List.flatMap_eq_nil_iff.mpr
    intro event member
    cases event with
    | panicked item => exact absurd member (noPanic item)
    | tx | received | resolver | took | warmed | answered | failed | ended
    | stopped => rfl
  have once := settling.once
  have warm := settling.warm
  simp only [noCrash, List.nil_append] at once warm
  refine ⟨inOrder, once, ?_, ?_, noPanic, settling.pending, ?_, ?_⟩
  · intro item
    obtain ⟨missed, order, -⟩ := inOrder
    have counts := List.perm_iff_count.mp once item
    rw [order]
    simp only [List.count_append] at counts ⊢
    omega
  · intro item dnsResp reply member
    obtain ⟨earlier, later, rfl⟩ := List.append_of_mem member
    obtain ⟨before, next, earlierRun, taken, -⟩ := run.split
    have built := (dohPart.moves taken).isStep.built
    cases taken with
    | reply position =>
        exact ⟨intercepted_of_unsettled notSystem earlierRun
          (unsettled_of_position position rfl), built⟩
  · intro elsewhere
    rw [DohState.unsettled, settling.joined elsewhere]
    rfl
  · rw [settling.sameWarm]
    exact warm

end Runs

theorem run_answeredQuery (body : Bytes) :
    ∃ trace s, Run (DnsSystemStep .release encryptedConfig) (.initial true)
        trace s ∧
      trace.flatMap DnsSystemEvent.replied =
        [(coldQuery.bytes, coldQuery.query)] := by
  have length : coldQuery.bytes.length = 51 := rfl
  have tunSize : tunBufSize = 2304 := rfl
  have tbuf : (TxState.afterRead coldQuery.bytes).tbuf.take
      coldQuery.bytes.length = coldQuery.bytes := List.take_left
  have isQuery : interceptedQuery encryptedConfig
      (TxState.afterRead coldQuery.bytes).tbuf coldQuery.bytes.length =
        .ok (some coldQuery.query) := by
    rw [TxState.afterRead, interceptedQuery_append,
      coldQuery.isDnsToGateway_eq, ok_bind]
    dsimp only
    rw [coldQuery.dnsQuery_eq]
    rfl
  have own (s next : TxState) (resolving : next.resolving = s.resolving)
      (dnsOpen : next.dnsOpen = s.dnsOpen) (running : next.running = s.running) :
      s.SameResolver next := ⟨resolving, dnsOpen, running⟩
  have readable := (Run.nil : Run (DnsSystemStep .release encryptedConfig)
    (.initial true) [] (.initial true)).snoc
      (.tx (.pollReadable rfl rfl) (own _ _ rfl rfl rfl))
  have batch := readable.snoc
    (.tx (.readableGo rfl rfl) (own _ _ rfl rfl rfl))
  have read := batch.snoc
    (.tx (.readPacket coldQuery.bytes rfl (by decide) (by decide)
      (by simp [DnsSystem.initial, TxState.initial]; omega)) (own _ _ rfl rfl rfl))
  have looked := read.snoc
    (.tx (.receivedGo rfl rfl) (own _ _ rfl rfl rfl))
  have diverted := looked.snoc
    (.tx (.intercept rfl isQuery) (own _ _ rfl rfl rfl))
  have receiving := diverted.snoc (.loop rfl rfl)
  have received := receiving.snoc (.receive rfl rfl)
  have taken := received.snoc (.batch rfl (by simp) rfl)
  have intercepted : Intercepted ((TxState.afterRead coldQuery.bytes).tbuf.take
      coldQuery.bytes.length, coldQuery.query) :=
    ⟨encryptedConfig, _, _, by simp [TxState.afterRead], rfl, isQuery⟩
  obtain ⟨reply, built⟩ := intercepted.buildReply_eq_ok .release body
  have resolved := taken.snoc (@DnsSystemStep.resolve _ _ _ _ body [] []
    (.responded (.ok body)) rfl rfl rfl)
  have warmed := resolved.snoc (@DnsSystemStep.warm _ _ _ _ body [] [] rfl
    List.mem_cons_self)
  have answered := warmed.snoc (@DnsSystemStep.reply _ _ _ _ body reply [] []
    rfl built)
  refine ⟨_, _, answered, ?_⟩
  rw [← tbuf]
  rfl

theorem answeredQuery_accounted :
    ∃ trace s, DnsAccounted .release trace s ∧
      trace.flatMap DnsSystemEvent.replied =
        [(coldQuery.bytes, coldQuery.query)] := by
  obtain ⟨trace, s, run, replied⟩ := run_answeredQuery []
  exact ⟨trace, s, dnsAccounted rfl run, replied⟩

end AndroidTether
