import AndroidTether.EncryptedDns

/-!
# DNS over TLS from the utun to the utun

The TX loop and the resolver thread in DoT mode, with the channel between them
and the workers of each batch.  A query that is diverted gets at most one
reply, and the reply is made from its own packet.
-/

namespace AndroidTether

open Checked

structure DotSystem where
  tx : TxState
  dot : DotState
  /-- What the resolver has received of its next batch. -/
  collected : List (Bytes × Bytes)

inductive DotSystemEvent
  | tx (event : TxEvent)
  | received (item : Bytes × Bytes)
  | took (batch : List (Bytes × Bytes))
  | resolver (event : DotEvent)
  | warmed (item : Bytes × Bytes)
  | answered (asked : DotPooledConn) (item : Bytes × Bytes)
      (resp reply : Bytes)
  | panicked (item : Bytes × Bytes)
  | ended
  | stopped

def DotSystem.initial : DotSystem where
  tx := .initial
  dot := .initial
  collected := []

namespace DotWorker

def hasAnswer : DotWorker → Bool
  | answered .. => true
  | fetching _ | attempting .. | reconnecting .. | retrying .. | replying ..
  | finished => false

def hasReply : DotWorker → Bool
  | replying .. => true
  | fetching _ | attempting .. | reconnecting .. | retrying .. | answered ..
  | finished => false

end DotWorker

/-- A step of the resolver thread or of its workers that stays inside: it
takes no batch, sets no flag and makes no reply. -/
structure DotState.Own (s next : DotState) : Prop where
  noBatch : s.phase = .receiving → next.phase = .waiting
  running : next.running = s.running
  answers : s.workers.countP DotWorker.hasAnswer ≤
    next.workers.countP DotWorker.hasAnswer
  replies : s.workers.countP DotWorker.hasReply ≤
    next.workers.countP DotWorker.hasReply

inductive DotSystemStep (build : Build) (server : DotServer)
    (config : TxConfig) : DotSystem → DotSystemEvent → DotSystem → Prop
  | tx {s : DotSystem} {event : TxEvent} {next : TxState}
      (step : TxStep config s.tx event next) (own : s.tx.SameResolver next) :
      DotSystemStep build server config s (.tx event) { s with tx := next }
  | receive {s : DotSystem} {item : Bytes × Bytes}
      {rest : List (Bytes × Bytes)} (at_ : s.dot.phase = .receiving)
      (queue : s.tx.dnsQueue = item :: rest) :
      DotSystemStep build server config s (.received item)
        { s with
          tx := { s.tx with
            dnsQueue := rest
            resolving := item :: s.tx.resolving }
          collected := s.collected ++ [item] }
  | batch {s : DotSystem} (at_ : s.dot.phase = .receiving)
      (some : s.collected ≠ []) (empty : s.tx.dnsQueue = []) :
      DotSystemStep build server config s (.took s.collected)
        { s with
          dot := { s.dot with
            queries := s.collected
            counter := 0
            phase := .expanding }
          collected := [] }
  | resolver {s : DotSystem} {event : DotEvent} {next : DotState}
      (step : DotStep build server s.dot event next)
      (own : s.dot.Own next)
      (nothing : s.dot.phase = .receiving → s.collected = []) :
      DotSystemStep build server config s (.resolver event)
        { s with dot := next }
  | warm {s : DotSystem} {conn asked : DotPooledConn} {i : Nat}
      {item : Bytes × Bytes} {resp : Bytes} {before after : List DotWorker}
      (position : s.dot.workers =
        before ++ .answered conn i asked resp :: after)
      (current : s.dot.queries[i]? = some item)
      (taken : item ∈ s.tx.resolving) :
      DotSystemStep build server config s (.warmed item)
        { s with
          tx := { s.tx with
            warm := true
            resolving := s.tx.resolving.erase item }
          dot := { s.dot with
            warm := true
            workers := before ++ .replying conn i asked resp :: after } }
  | reply {s : DotSystem} {conn asked : DotPooledConn} {i : Nat}
      {item : Bytes × Bytes} {resp packet : Bytes}
      {before after : List DotWorker}
      (position : s.dot.workers =
        before ++ .replying conn i asked resp :: after)
      (current : s.dot.queries[i]? = some item)
      (built : buildReply build item.1 resp = .ok packet) :
      DotSystemStep build server config s (.answered asked item resp packet)
        { s with
          dot := { s.dot with
            workers := before ++ .fetching conn :: after } }
  | replyPanics {s : DotSystem} {conn asked : DotPooledConn} {i : Nat}
      {item : Bytes × Bytes} {resp : Bytes} {panic : Panic}
      {before after : List DotWorker}
      (position : s.dot.workers =
        before ++ .replying conn i asked resp :: after)
      (current : s.dot.queries[i]? = some item)
      (panics : buildReply build item.1 resp = .error panic) :
      DotSystemStep build server config s (.panicked item)
        { s with
          dot := { s.dot with workers := before ++ .finished :: after } }
  | ends {s : DotSystem} (at_ : s.dot.phase = .waiting)
      (off : s.dot.running = false) :
      DotSystemStep build server config s .ended
        { s with tx := { s.tx with dnsOpen := false } }
  | stop {s : DotSystem} :
      DotSystemStep build server config s .stopped
        { s with
          tx := { s.tx with running := false }
          dot := { s.dot with running := false } }

namespace DotSystemEvent

def txEvent : DotSystemEvent → Option TxEvent
  | tx event => some event
  | received _ | ended | stopped => some .tau
  | warmed _ => some .warmed
  | took _ | resolver _ | answered .. | panicked _ => none

def dotEvent : DotSystemEvent → Option DotEvent
  | tx _ | received _ | ended => none
  | took _ | warmed _ | panicked _ | stopped => some .tau
  | resolver event => some event
  | answered asked item resp reply => some (.wrote asked item resp reply)

/-- A query that the TX loop takes out for the resolver. -/
def diverted : DotSystemEvent → List (Bytes × Bytes)
  | tx (.diverted packet query _) => [(packet, query)]
  | _ => []

def batch : DotSystemEvent → List (Bytes × Bytes)
  | took batch => batch
  | _ => []

def replied : DotSystemEvent → List (Bytes × Bytes)
  | answered _ item _ _ => [item]
  | _ => []

def crashed : DotSystemEvent → List (Bytes × Bytes)
  | panicked item => [item]
  | _ => []

end DotSystemEvent

namespace DotWorker

/-- The query that a worker works on. -/
def query (queries : List (Bytes × Bytes)) :
    DotWorker → Option (Bytes × Bytes)
  | attempting _ i | reconnecting _ i | retrying _ i | answered _ i _ _
  | replying _ i _ _ => queries[i]?
  | fetching _ | finished => none

/-- What it has told the TX loop about, and not yet replied to. -/
def toReply (queries : List (Bytes × Bytes)) :
    DotWorker → Option (Bytes × Bytes)
  | replying _ i _ _ => queries[i]?
  | fetching _ | attempting .. | reconnecting .. | retrying .. | answered ..
  | finished => none

end DotWorker

namespace DotState

def held (s : DotState) : List (Bytes × Bytes) :=
  s.workers.filterMap (DotWorker.query s.queries)

def toReply (s : DotState) : List (Bytes × Bytes) :=
  s.workers.filterMap (DotWorker.toReply s.queries)

/-- The queries of the batch that no worker has fetched. -/
def unfetched (s : DotState) : List (Bytes × Bytes) :=
  match s.phase with
  | .expanding | .spawning _ => s.queries.drop s.counter
  | .waiting | .receiving => []

end DotState

section Parts

variable {build : Build} {server : DotServer} {config : TxConfig}
  {trace : List DotSystemEvent} {s next : DotSystem} {event : DotSystemEvent}

/-- The TX loop, with the resolver's steps as it sees them. -/
def dotTxPart : ComponentOf (DotSystemStep build server config)
    (TxStep config) where
  view := DotSystem.tx
  label := DotSystemEvent.txEvent
  moves := by
    intro s event next taken
    cases taken with
    | tx step own => exact .takes step
    | batch | resolver | reply | replyPanics => exact .stays
    | receive _ queue => exact .takes (.resolverTakes queue)
    | warm _ _ taken => exact .takes (.resolverAnswers taken)
    | ends => exact .takes .resolverStops
    | stop => exact .takes .stop

/-- Batches are taken in the order in which queries were diverted, and only a
resolver that has ended misses one. -/
def DotInOrder (trace : List DotSystemEvent) (s : DotSystem) : Prop :=
  ∃ missed, trace.flatMap DotSystemEvent.diverted =
      trace.flatMap DotSystemEvent.batch ++
        (s.collected ++ (s.tx.dnsQueue ++ missed)) ∧
    (s.tx.dnsOpen → missed = [])

theorem DotInOrder.step (inOrder : DotInOrder trace s)
    (taken : DotSystemStep build server config s event next) :
    DotInOrder (trace ++ [event]) next := by
  obtain ⟨missed, order, allThere⟩ := inOrder
  simp only [DotInOrder, List.flatMap_append, List.flatMap_singleton, order]
  cases taken with
  | @tx event after step own =>
      obtain ⟨-, queueEq⟩ := step.dnsQueue_of_own own
      have same : (DnsSystemEvent.tx event).diverted =
          (DotSystemEvent.tx event).diverted := by
        cases event <;> rfl
      rw [queueEq, own.dnsOpen, same]
      cases isOpen : s.tx.dnsOpen with
      | true =>
          refine ⟨[], ?_, fun _ => rfl⟩
          simp [allThere isOpen, DotSystemEvent.batch]
      | false =>
          refine ⟨missed ++ (DotSystemEvent.tx event).diverted, ?_,
            fun absent => absurd absent Bool.false_ne_true⟩
          simp [DotSystemEvent.batch]
  | receive atPhase queue =>
      refine ⟨missed, ?_, allThere⟩
      simp [queue, DotSystemEvent.diverted, DotSystemEvent.batch]
  | batch atPhase some empty =>
      refine ⟨missed, ?_, allThere⟩
      simp [DotSystemEvent.diverted, DotSystemEvent.batch]
  | ends =>
      refine ⟨missed, ?_, fun absent => absurd absent Bool.false_ne_true⟩
      simp [DotSystemEvent.diverted, DotSystemEvent.batch]
  | resolver | warm | reply | replyPanics | stop =>
      refine ⟨missed, ?_, allThere⟩
      simp [DotSystemEvent.diverted, DotSystemEvent.batch]

theorem DotInOrder.of_run
    (run : Run (DotSystemStep build server config) .initial trace s) :
    DotInOrder trace s :=
  run.history ⟨[], rfl, fun _ => rfl⟩ DotInOrder.step

end Parts

section Workers

variable {build : Build} {server : DotServer} {s next : DotState}
  {event : DotEvent} {before after : List DotWorker}
  {worker moved : DotWorker}

/-- What is to be replied to, as far as a query is concerned. -/
def DotState.open (s : DotState) (item : Bytes × Bytes) : Nat :=
  s.held.count item + s.unfetched.count item

theorem DotState.unfetched_of_spawning {left : Nat}
    (atPhase : s.phase = .spawning left) :
    s.unfetched = s.queries.drop s.counter := by
  rw [unfetched, atPhase]

theorem count_workers (told : DotWorker → Option (Bytes × Bytes))
    (before after : List DotWorker) (worker : DotWorker)
    (item : Bytes × Bytes) :
    ((before ++ worker :: after).filterMap told).count item =
      (told worker).toList.count item +
        ((before ++ after).filterMap told).count item := by
  rw [List.filterMap_append, List.filterMap_cons, List.filterMap_append]
  cases told worker with
  | none => simp
  | some held =>
      rw [Option.toList_some, ← List.count_append]
      exact List.perm_middle.count_eq item

theorem count_held {queries : List (Bytes × Bytes)}
    (position : s.workers = before ++ worker :: after)
    (same : s.queries = queries) (item : Bytes × Bytes) :
    s.held.count item = (worker.query queries).toList.count item +
      ((before ++ after).filterMap (DotWorker.query queries)).count item := by
  rw [DotState.held, position, same, count_workers]

theorem count_toReply {queries : List (Bytes × Bytes)}
    (position : s.workers = before ++ worker :: after)
    (same : s.queries = queries) (item : Bytes × Bytes) :
    s.toReply.count item = (worker.toReply queries).toList.count item +
      ((before ++ after).filterMap (DotWorker.toReply queries)).count item := by
  rw [DotState.toReply, position, same, count_workers]

/-- A worker works on nothing that was not there. -/
theorem WorkerStep.open_le {left : Nat} {after : DotState}
    (atPhase : s.phase = .spawning left)
    (step : WorkerStep build server s worker event after moved)
    (silent : ∀ asked item resp reply, event ≠ .wrote asked item resp reply)
    (item : Bytes × Bytes) :
    (moved.query s.queries).toList.count item + after.unfetched.count item ≤
      (worker.query s.queries).toList.count item +
        s.unfetched.count item := by
  have unfetched := DotState.unfetched_of_spawning atPhase
  cases step with
  | fetch more =>
      have here : s.queries[s.counter]? = some s.queries[s.counter] :=
        List.getElem?_eq_getElem more
      have rest := List.drop_eq_getElem_cons more
      have later : ({ s with counter := s.counter + 1 } : DotState).unfetched =
          s.queries.drop (s.counter + 1) :=
        DotState.unfetched_of_spawning atPhase
      rw [unfetched, later, rest]
      simp only [DotWorker.query, here, Option.toList_some,
        Option.toList_none, List.count_cons, List.count_nil]
      omega
  | @leave conn =>
      have later : ({ s with
          counter := s.counter + 1
          returned := s.returned ++ [conn] } : DotState).unfetched =
            s.queries.drop (s.counter + 1) :=
        DotState.unfetched_of_spawning atPhase
      have shorter : (s.queries.drop (s.counter + 1)).count item ≤
          (s.queries.drop s.counter).count item :=
        (List.drop_sublist_drop_left s.queries (Nat.le_succ _)).count_le item
      rw [unfetched, later]
      exact Nat.add_le_add_left shorter _
  | attempt | attemptFails | retry | warm => exact le_rfl
  | reconnect => exact le_rfl
  | reconnectFails | retryFails | replyPanics =>
      exact Nat.add_le_add_right (Nat.zero_le _) _
  | reply => exact absurd rfl (silent _ _ _ _)

/-- Workers live between the spawning and the join. -/
def DotState.Joined (s : DotState) : Prop :=
  (∀ left, s.phase ≠ .spawning left) → s.workers = []

theorem DotState.held_of_no_workers (none : s.workers = []) : s.held = [] := by
  rw [held, none]
  rfl

theorem DotState.spawning_of_worker (joined : s.Joined)
    (position : s.workers = before ++ worker :: after) :
    ∃ left, s.phase = .spawning left := by
  by_contra elsewhere
  have none := joined fun left atPhase => elsewhere ⟨left, atPhase⟩
  rw [position] at none
  simp at none

theorem DotState.toReply_of_no_workers (none : s.workers = []) :
    s.toReply = [] := by
  rw [toReply, none]
  rfl

/-- The resolver's own steps write nothing, and set no flag. -/
theorem DotStep.silent_of_own (step : DotStep build server s event next)
    (own : s.Own next) :
    (∀ asked item resp reply, event ≠ .wrote asked item resp reply) ∧
      next.warm = s.warm := by
  have answers := own.answers
  have replies := own.replies
  cases step with
  | work position step =>
      rw [position] at answers replies
      simp only [List.countP_append, List.countP_cons] at answers replies
      cases step with
      | warm =>
          simp only [DotWorker.hasAnswer] at answers
          simp at answers
      | reply | replyPanics =>
          simp only [DotWorker.hasReply] at replies
          simp at replies
      | fetch | leave | attempt | attemptFails | reconnect | reconnectFails
      | retry | retryFails => exact ⟨fun _ _ _ _ => nofun, rfl⟩
  | loop | timeout | batch | expand | expandFails | expanded | spawn
  | spawnFresh | spawnFails | reclaim | stop =>
      exact ⟨fun _ _ _ _ => nofun, rfl⟩

theorem DotStep.toReply_of_own (step : DotStep build server s event next)
    (own : s.Own next) : next.toReply = s.toReply := by
  have answers := own.answers
  have replies := own.replies
  cases step with
  | work position step =>
      obtain ⟨-, queriesEq, -, -⟩ := DotInvariant.workerStep_frame step
      rw [position] at answers replies
      simp only [List.countP_append, List.countP_cons] at answers replies
      simp only [DotState.toReply, position, queriesEq,
        List.filterMap_append, List.filterMap_cons]
      cases step with
      | warm =>
          simp only [DotWorker.hasAnswer] at answers
          simp at answers
      | reply | replyPanics =>
          simp only [DotWorker.hasReply] at replies
          simp at replies
      | fetch | leave | attempt | attemptFails | reconnect | reconnectFails
      | retry | retryFails => rfl
  | batch items atPhase => cases own.noBatch atPhase
  | spawn | spawnFresh =>
      simp [DotState.toReply, DotWorker.toReply]
  | reclaim atPhase allFinished =>
      refine (List.filterMap_eq_nil_iff.mpr fun worker member => ?_).symm
      rw [allFinished worker member]
      rfl
  | loop | timeout | expand | expandFails | expanded | spawnFails | stop => rfl

/-- They open nothing either. -/
theorem DotStep.open_le (joined : s.Joined)
    (step : DotStep build server s event next) (own : s.Own next) :
    next.Joined ∧ ∀ item, next.open item ≤ s.open item := by
  obtain ⟨silent, -⟩ := step.silent_of_own own
  cases step with
  | loop atPhase =>
      have none : s.workers = [] := joined (by simp [atPhase])
      refine ⟨fun _ => none, fun item => ?_⟩
      simp [DotState.open, DotState.held, none, DotState.unfetched]
  | timeout atPhase =>
      have none : s.workers = [] := joined (by simp [atPhase])
      refine ⟨fun _ => none, fun item => ?_⟩
      simp [DotState.open, DotState.held, none, DotState.unfetched]
  | batch items atPhase => cases own.noBatch atPhase
  | expand atPhase =>
      refine ⟨joined, fun item => le_of_eq ?_⟩
      simp only [DotState.open, DotState.held, DotState.unfetched]
  | expandFails atPhase | expanded atPhase =>
      refine ⟨fun elsewhere => absurd rfl (elsewhere _), fun item =>
        le_of_eq ?_⟩
      simp only [DotState.open, DotState.held, DotState.unfetched, atPhase]
  | spawn atPhase | spawnFresh atPhase =>
      refine ⟨fun elsewhere => absurd rfl (elsewhere _), fun item =>
        le_of_eq ?_⟩
      simp only [DotState.open, DotState.held, DotState.unfetched, atPhase,
        List.filterMap_append, List.count_append]
      rfl
  | spawnFails atPhase =>
      refine ⟨fun elsewhere => absurd rfl (elsewhere _), fun item =>
        le_of_eq ?_⟩
      simp only [DotState.open, DotState.held, DotState.unfetched, atPhase]
  | @work after _ front back worker moved position step =>
      obtain ⟨left, atPhase⟩ := DotState.spawning_of_worker joined position
      obtain ⟨phaseEq, queriesEq, -, -⟩ := DotInvariant.workerStep_frame step
      constructor
      · intro elsewhere
        exact absurd (phaseEq.trans atPhase) (elsewhere left)
      · intro item
        have worked := step.open_le atPhase silent item
        have heldEq := count_held position rfl item
        have movedEq := @count_held
          { after with workers := front ++ moved :: back } front back moved
          s.queries rfl queriesEq item
        have unfetchedEq : ({ after with
            workers := front ++ moved :: back } : DotState).unfetched =
              after.unfetched := rfl
        rw [DotState.open, DotState.open, heldEq, movedEq, unfetchedEq]
        omega
  | reclaim =>
      refine ⟨fun _ => rfl, fun item => ?_⟩
      simp [DotState.open, DotState.held, DotState.unfetched]
  | stop => exact ⟨joined, fun item => le_rfl⟩

theorem DotState.open_answered {conn asked : DotPooledConn} {i : Nat}
    {item : Bytes × Bytes} {resp : Bytes}
    (position : s.workers = before ++ .answered conn i asked resp :: after)
    (current : s.queries[i]? = some item)
    (workers : next.workers = before ++ .replying conn i asked resp :: after)
    (queries : next.queries = s.queries)
    (unfetched : next.unfetched = s.unfetched) (other : Bytes × Bytes) :
    next.open other = s.open other ∧ next.toReply.count other =
      [item].count other + s.toReply.count other := by
  have heldEq := count_held position rfl other
  have nextEq := count_held workers queries other
  have replyEq := count_toReply position rfl other
  have toldEq := count_toReply workers queries other
  have isReply : (DotWorker.replying conn i asked resp).toReply s.queries =
      some item := current
  rw [isReply] at toldEq
  refine ⟨?_, ?_⟩
  · rw [DotState.open, DotState.open, unfetched, nextEq, heldEq]
    rfl
  · rw [toldEq, replyEq]
    exact congrArg _ (Nat.zero_add _).symm

theorem DotState.open_replying {conn asked : DotPooledConn} {i : Nat}
    {item : Bytes × Bytes} {resp : Bytes}
    (position : s.workers = before ++ .replying conn i asked resp :: after)
    (current : s.queries[i]? = some item)
    (workers : next.workers = before ++ moved :: after)
    (done : moved.query s.queries = none)
    (told : moved.toReply s.queries = none)
    (queries : next.queries = s.queries)
    (unfetched : next.unfetched = s.unfetched) (other : Bytes × Bytes) :
    s.open other = [item].count other + next.open other ∧
      s.toReply.count other =
        [item].count other + next.toReply.count other := by
  have heldEq := count_held position rfl other
  have nextEq := count_held workers queries other
  have replyEq := count_toReply position rfl other
  have toldEq := count_toReply workers queries other
  have isItem : (DotWorker.replying conn i asked resp).query s.queries =
      some item := current
  have isReply : (DotWorker.replying conn i asked resp).toReply s.queries =
      some item := current
  rw [isItem] at heldEq
  rw [isReply] at replyEq
  rw [done] at nextEq
  rw [told] at toldEq
  rw [DotState.open, DotState.open, unfetched, heldEq, nextEq, replyEq, toldEq]
  simp only [Option.toList_some, Option.toList_none, List.count_nil]
  omega

end Workers

section Settling

variable {build : Build} {server : DotServer} {config : TxConfig}
  {trace : List DotSystemEvent} {s next : DotSystem} {event : DotSystemEvent}

/-- What has become of the queries of all batches. -/
structure DotSettling (trace : List DotSystemEvent) (s : DotSystem) :
    Prop where
  joined : s.dot.Joined
  once : ∀ item, (trace.flatMap DotSystemEvent.replied).count item +
    ((trace.flatMap DotSystemEvent.crashed).count item + s.dot.open item) ≤
      (trace.flatMap DotSystemEvent.batch).count item
  pending : ∀ item, s.dot.open item + s.collected.count item ≤
    s.tx.resolving.count item + s.dot.toReply.count item
  sameWarm : s.tx.warm = s.dot.warm
  warm : s.dot.warm ↔ trace.flatMap DotSystemEvent.replied ++
    (trace.flatMap DotSystemEvent.crashed ++ s.dot.toReply) ≠ []

namespace DotSettling

theorem initial : DotSettling [] .initial where
  joined _ := rfl
  once _ := le_rfl
  pending _ := Nat.zero_le _
  sameWarm := rfl
  warm := by simp [DotSystem.initial, DotState.initial, DotState.toReply]

theorem quiet (settling : DotSettling trace s) (noBatch : event.batch = [])
    (noReply : event.replied = []) (noCrash : event.crashed = [])
    (joined : next.dot.Joined)
    (fewer : ∀ item, next.dot.open item ≤ s.dot.open item)
    (pending : ∀ item, s.dot.open item + next.collected.count item ≤
      next.tx.resolving.count item + s.dot.toReply.count item)
    (toReply : next.dot.toReply = s.dot.toReply)
    (txWarm : next.tx.warm = s.tx.warm) (dotWarm : next.dot.warm = s.dot.warm) :
    DotSettling (trace ++ [event]) next where
  joined := joined
  once := by
    intro item
    have once := settling.once item
    have fewer := fewer item
    simp only [List.flatMap_append, List.flatMap_singleton, noBatch, noReply,
      noCrash, List.append_nil]
    omega
  pending item := by
    rw [toReply]
    exact (Nat.add_le_add_right (fewer item) _).trans (pending item)
  sameWarm := by rw [txWarm, dotWarm, settling.sameWarm]
  warm := by
    simp only [List.flatMap_append, List.flatMap_singleton, noReply, noCrash,
      List.append_nil, dotWarm, toReply]
    exact settling.warm

theorem taken (settling : DotSettling trace s)
    (atPhase : s.dot.phase = .receiving) (batch : event.batch = s.collected)
    (noReply : event.replied = []) (noCrash : event.crashed = [])
    (workers : next.dot.workers = s.dot.workers)
    (phase : next.dot.phase = .expanding) (counter : next.dot.counter = 0)
    (queries : next.dot.queries = s.collected)
    (resolving : next.tx.resolving = s.tx.resolving)
    (collected : next.collected = [])
    (txWarm : next.tx.warm = s.tx.warm) (dotWarm : next.dot.warm = s.dot.warm) :
    DotSettling (trace ++ [event]) next := by
  have none : s.dot.workers = [] := settling.joined (by simp [atPhase])
  have closed (item : Bytes × Bytes) : s.dot.open item = 0 := by
    rw [DotState.open, DotState.held_of_no_workers none, DotState.unfetched,
      atPhase]
    rfl
  have opened (item : Bytes × Bytes) :
      next.dot.open item = s.collected.count item := by
    rw [DotState.open, DotState.held_of_no_workers (workers.trans none),
      DotState.unfetched, phase, counter, queries]
    exact Nat.zero_add _
  have toReply : s.dot.toReply = [] := DotState.toReply_of_no_workers none
  have stillNone : next.dot.toReply = [] :=
    DotState.toReply_of_no_workers (workers.trans none)
  refine ⟨fun _ => workers.trans none, ?_, ?_, ?_, ?_⟩
  · intro item
    have once := settling.once item
    rw [closed] at once
    simp only [List.flatMap_append, List.flatMap_singleton, batch, noReply,
      noCrash, List.append_nil, List.count_append, opened]
    omega
  · intro item
    have pending := settling.pending item
    rw [closed, toReply, List.count_nil] at pending
    rw [opened, collected, resolving, stillNone, List.count_nil]
    omega
  · rw [txWarm, dotWarm, settling.sameWarm]
  · have warm := settling.warm
    rw [toReply, List.append_nil] at warm
    simp only [List.flatMap_append, List.flatMap_singleton, noReply, noCrash,
      List.append_nil, dotWarm, stillNone]
    exact warm

/-- The flag is set before the reply is made. -/
theorem warmed (settling : DotSettling trace s) {item : Bytes × Bytes}
    (noBatch : event.batch = []) (noReply : event.replied = [])
    (noCrash : event.crashed = [])
    (told : ∀ other, next.dot.open other = s.dot.open other ∧
      next.dot.toReply.count other =
        [item].count other + s.dot.toReply.count other)
    (joined : next.dot.Joined) (collected : next.collected = s.collected)
    (resolving : next.tx.resolving = s.tx.resolving.erase item)
    (txWarm : next.tx.warm) (dotWarm : next.dot.warm) :
    DotSettling (trace ++ [event]) next := by
  refine ⟨joined, ?_, ?_, txWarm.trans dotWarm.symm,
    iff_of_true dotWarm fun nothing => ?_⟩
  · intro other
    simp only [List.flatMap_append, List.flatMap_singleton, noBatch, noReply,
      noCrash, List.append_nil, (told other).1]
    exact settling.once other
  · intro other
    have pending := settling.pending other
    have added := (told other).2
    rw [List.count_singleton] at added
    rw [(told other).1, collected, resolving, List.count_erase]
    omega
  · have some := (told item).2
    simp only [List.append_eq_nil_iff] at nothing
    rw [nothing.2.2, List.count_singleton_self, List.count_nil] at some
    omega

/-- A reply is made, or making it fails. -/
theorem replied (settling : DotSettling trace s) {item : Bytes × Bytes}
    (noBatch : event.batch = []) (one : event.replied ++ event.crashed = [item])
    (closed : ∀ other, s.dot.open other =
        [item].count other + next.dot.open other ∧
      s.dot.toReply.count other =
        [item].count other + next.dot.toReply.count other)
    (joined : next.dot.Joined) (collected : next.collected = s.collected)
    (sameTx : next.tx = s.tx) (dotWarm : next.dot.warm = s.dot.warm) :
    DotSettling (trace ++ [event]) next := by
  refine ⟨joined, ?_, ?_, by rw [sameTx, dotWarm, settling.sameWarm],
    iff_of_true ?_ fun nothing => ?_⟩
  · intro other
    have once := settling.once other
    have added := congrArg (List.count other) one
    rw [(closed other).1] at once
    rw [List.count_append] at added
    simp only [List.flatMap_append, List.flatMap_singleton, noBatch,
      List.append_nil, List.count_append]
    omega
  · intro other
    have pending := settling.pending other
    rw [(closed other).1, (closed other).2] at pending
    rw [collected, sameTx]
    omega
  · refine dotWarm.trans (settling.warm.mpr fun nothing => ?_)
    have some := (closed item).2
    simp only [List.append_eq_nil_iff] at nothing
    rw [nothing.2.2, List.count_singleton_self, List.count_nil] at some
    omega
  · simp only [List.flatMap_append, List.flatMap_singleton,
      List.append_eq_nil_iff] at nothing
    rw [nothing.1.2, nothing.2.1.2] at one
    cases one

theorem step (settling : DotSettling trace s)
    (taken : DotSystemStep build server config s event next) :
    DotSettling (trace ++ [event]) next := by
  have ⟨joined, once, pending, sameWarm, warm⟩ := settling
  cases taken with
  | @tx event after step own =>
      obtain ⟨stillWarm, -⟩ := step.dnsQueue_of_own own
      refine settling.quiet rfl rfl rfl joined (fun _ => le_rfl) ?_ rfl
        stillWarm rfl
      intro item
      rw [own.resolving]
      exact pending item
  | @receive item rest atPhase queue =>
      refine settling.quiet rfl rfl rfl joined (fun _ => le_rfl) ?_ rfl rfl rfl
      intro other
      have pending := pending other
      rw [List.count_append, List.count_cons, List.count_cons, List.count_nil]
      omega
  | batch atPhase some empty =>
      exact settling.taken atPhase rfl rfl rfl rfl rfl rfl rfl rfl rfl rfl rfl
  | resolver step own nothing =>
      obtain ⟨stillJoined, fewer⟩ := step.open_le joined own
      exact settling.quiet rfl rfl rfl stillJoined fewer pending
        (step.toReply_of_own own) rfl (step.silent_of_own own).2
  | warm position current taken =>
      obtain ⟨left, atPhase⟩ := DotState.spawning_of_worker joined position
      exact settling.warmed rfl rfl rfl
        (DotState.open_answered position current rfl rfl rfl)
        (fun elsewhere => absurd atPhase (elsewhere left)) rfl rfl rfl rfl
  | reply position current built | replyPanics position current panics =>
      obtain ⟨left, atPhase⟩ := DotState.spawning_of_worker joined position
      exact settling.replied rfl rfl
        (DotState.open_replying position current rfl rfl rfl rfl rfl)
        (fun elsewhere => absurd atPhase (elsewhere left)) rfl rfl rfl
  | ends | stop =>
      exact settling.quiet rfl rfl rfl joined (fun _ => le_rfl) pending rfl rfl
        rfl

theorem of_run
    (run : Run (DotSystemStep build server config) .initial trace s) :
    DotSettling trace s :=
  run.history initial step

end DotSettling

end Settling

/-- What becomes of the queries that were diverted so far. -/
structure DotDnsAccounted (build : Build) (server : DotServer)
    (trace : List DotSystemEvent) (s : DotSystem) : Prop where
  inOrder : DotInOrder trace s
  once : ∀ item, (trace.flatMap DotSystemEvent.replied).count item +
    s.dot.open item ≤ (trace.flatMap DotSystemEvent.batch).count item
  atMostOnce : ∀ item, (trace.flatMap DotSystemEvent.replied).count item ≤
    (trace.flatMap DotSystemEvent.diverted).count item
  replies : ∀ asked item resp reply, .answered asked item resp reply ∈ trace →
    Intercepted item ∧ buildReply build item.1 resp = .ok reply
  own : (∀ event ∈ trace.filterMap DotSystemEvent.dotEvent,
      event.Careful server) →
    ∀ asked item resp reply, .answered asked item resp reply ∈ trace →
      OwnAnswer server asked item.2 resp
  noPanic : ∀ item, .panicked item ∉ trace
  pending : ∀ item, s.dot.open item + s.collected.count item ≤
    s.tx.resolving.count item + s.dot.toReply.count item
  /-- The flag is set as soon as there is a first reply to make. -/
  warm : s.tx.warm ↔
    trace.flatMap DotSystemEvent.replied ++ s.dot.toReply ≠ []

theorem diverted_short {config : TxConfig}
    (encrypted : config.dnsMode ≠ .system) {trace : List TxEvent}
    {s : TxState} (run : Run (TxStep config) .initial trace s)
    {packet query : Bytes} {sent : Bool}
    (diverted : .diverted packet query sent ∈ trace) :
    query.length ≤ tunBufSize := by
  obtain ⟨earlier, later, rfl⟩ := List.append_of_mem diverted
  obtain ⟨before, next, earlierRun, taken, -⟩ := run.split
  have inv := TxInvariant.of_run encrypted earlierRun
  cases taken with
  | @intercept count tlen query atPc isQuery =>
      have accounted := inv.accounted
      rw [atPc] at accounted
      have isDns := interceptedQuery_some accounted.1 isQuery
      obtain ⟨-, lengthEq⟩ := isDnsToGateway_eq_some_iff.mp isDns
      have packetLength : (before.tbuf.take tlen).length ≤
          before.tbuf.length := by
        rw [List.length_take]
        exact Nat.min_le_right _ _
      have size := inv.size
      omega

section Runs

variable {build : Build} {server : DotServer} {config : TxConfig}
  {trace : List DotSystemEvent} {s : DotSystem}

/-- Whatever is diverted was intercepted and is short. -/
theorem dotDiverted_intercepted (encrypted : config.dnsMode ≠ .system)
    (run : Run (DotSystemStep build server config) .initial trace s)
    {item : Bytes × Bytes}
    (member : item ∈ trace.flatMap DotSystemEvent.diverted) :
    Intercepted item ∧ item.2.length ≤ tunBufSize := by
  obtain ⟨event, eventMem, diverted⟩ := List.mem_flatMap.mp member
  have isDiverted : ∃ sent, .diverted item.1 item.2 sent ∈
      (@dotTxPart build server config).trace trace := by
    cases event with
    | tx event =>
        cases event with
        | diverted packet query sent =>
            cases List.mem_singleton.mp diverted
            exact ⟨sent, List.mem_filterMap.mpr ⟨_, eventMem, rfl⟩⟩
        | tau | read | warmed | handed => cases diverted
    | received | took | resolver | warmed | answered | panicked | ended
    | stopped => cases diverted
  obtain ⟨sent, txDiverted⟩ := isDiverted
  have txRun := (@dotTxPart build server config).run run
  exact ⟨intercepted_of_diverted encrypted txRun txDiverted,
    diverted_short encrypted txRun txDiverted⟩

theorem intercepted_of_current (encrypted : config.dnsMode ≠ .system)
    (run : Run (DotSystemStep build server config) .initial trace s)
    {conn asked : DotPooledConn} {i : Nat} {item : Bytes × Bytes}
    {resp : Bytes} {before after : List DotWorker}
    (position : s.dot.workers =
      before ++ .replying conn i asked resp :: after)
    (current : s.dot.queries[i]? = some item) : Intercepted item := by
  obtain ⟨missed, order, -⟩ := DotInOrder.of_run run
  have once := (DotSettling.of_run run).once item
  have held : item ∈ s.dot.held := by
    have isWorker : .replying conn i asked resp ∈ s.dot.workers := by
      rw [position]
      simp
    exact List.mem_filterMap.mpr ⟨_, isWorker, current⟩
  have opened : 0 < s.dot.open item :=
    Nat.add_pos_left (List.count_pos_iff.mpr held) _
  have inBatch : item ∈ trace.flatMap DotSystemEvent.batch :=
    List.count_pos_iff.mp (by omega)
  have diverted : item ∈ trace.flatMap DotSystemEvent.diverted := by
    rw [order]
    exact List.mem_append_left _ inBatch
  exact (dotDiverted_intercepted encrypted run diverted).1

theorem dotPart (encrypted : config.dnsMode ≠ .system)
    (run : Run (DotSystemStep build server config) .initial trace s) :
    Run (DotStep build server) .initial
      (trace.filterMap DotSystemEvent.dotEvent) s.dot := by
  refine Run.part DotSystem.dot DotSystemEvent.dotEvent ?_ run
  intro earlier state event next earlierRun taken
  cases taken with
  | tx | receive | ends => exact .stays
  | batch atPhase some empty =>
      refine .takes (.batch _ atPhase some ?_)
      intro item member
      obtain ⟨missed, order, -⟩ := DotInOrder.of_run earlierRun
      have diverted : item ∈ earlier.flatMap DotSystemEvent.diverted := by
        rw [order]
        simp [member]
      exact (dotDiverted_intercepted encrypted earlierRun diverted).2
  | resolver step own nothing => exact .takes step
  | warm position => exact .takes (.work position .warm)
  | reply position current built =>
      exact .takes (.work position (.reply current built))
  | replyPanics position current panics =>
      exact .takes (.work position (.replyPanics current panics))
  | stop => exact .takes .stop

/-- With DNS over TLS every query gets one reply at most, whatever the server
does and however the threads take turns; where connections are used with care,
it is the answer to that query. -/
theorem dotDnsAccounted (encrypted : config.dnsMode = .doT)
    (run : Run (DotSystemStep build server config) .initial trace s) :
    DotDnsAccounted build server trace s := by
  have notSystem : config.dnsMode ≠ .system := by rw [encrypted]; decide
  have settling := DotSettling.of_run run
  have noPanic : ∀ item, .panicked item ∉ trace := by
    intro item member
    obtain ⟨earlier, later, rfl⟩ := List.append_of_mem member
    obtain ⟨before, next, earlierRun, taken, -⟩ := run.split
    cases taken with
    | @replyPanics conn asked i item resp panic _ _ position current panics =>
        have intercepted :=
          intercepted_of_current notSystem earlierRun position current
        obtain ⟨reply, built⟩ := intercepted.buildReply_eq_ok build resp
        rw [built] at panics
        cases panics
  have noCrash : trace.flatMap DotSystemEvent.crashed = [] := by
    apply List.flatMap_eq_nil_iff.mpr
    intro event member
    cases event with
    | panicked item => exact absurd member (noPanic item)
    | tx | received | took | resolver | warmed | answered | ended
    | stopped => rfl
  have once := settling.once
  have warm := settling.warm
  simp only [noCrash, List.count_nil, Nat.zero_add, List.nil_append]
    at once warm
  have inOrder := DotInOrder.of_run run
  refine ⟨inOrder, once, ?_, ?_, ?_, noPanic, settling.pending, ?_⟩
  · intro item
    obtain ⟨missed, order, -⟩ := inOrder
    have once := once item
    rw [order, List.count_append]
    omega
  · intro asked item resp reply member
    obtain ⟨earlier, later, rfl⟩ := List.append_of_mem member
    obtain ⟨before, next, earlierRun, taken, -⟩ := run.split
    cases taken with
    | reply position current built =>
        exact ⟨intercepted_of_current notSystem earlierRun position current,
          built⟩
  · intro careful asked item resp reply member
    obtain ⟨earlier, later, rfl⟩ := List.append_of_mem member
    obtain ⟨before, next, earlierRun, taken, -⟩ := run.split
    have inv := DotInvariant.of_run (dotPart notSystem earlierRun)
      fun event isMember => careful event (by simp [isMember])
    cases taken with
    | @reply conn asked i item resp packet front back position current =>
        have isWorker : .replying conn i asked resp ∈ before.dot.workers := by
          rw [position]
          simp
        exact (inv.working _ isWorker).2 item current
  · rw [settling.sameWarm]
    exact warm

end Runs

def dotConfig : TxConfig :=
  { encryptedConfig with dnsMode := .doT }

theorem run_divertedLookup (build : Build) (server : DotServer) :
    ∃ trace tx, Run (DotSystemStep build server dotConfig) .initial trace
        { DotSystem.initial with tx := tx } ∧
      tx.dnsQueue = [lookupItem 1] ∧
      trace.filterMap DotSystemEvent.dotEvent = [] ∧
      trace.flatMap DotSystemEvent.replied = [] := by
  have tunSize : tunBufSize = 2304 := rfl
  have length : (lookup 1).bytes.length = 51 := rfl
  have tbuf : (TxState.afterRead (lookup 1).bytes).tbuf.take
      (lookup 1).bytes.length = (lookup 1).bytes := List.take_left
  have isDns : isDnsToGateway (lookup 1).bytes dotConfig.ourIp
      dotConfig.gatewayIp = .ok (some (lookup 1).query.length) :=
    (lookup 1).isDnsToGateway_eq _
  have isQuery : interceptedQuery dotConfig
      (TxState.afterRead (lookup 1).bytes).tbuf (lookup 1).bytes.length =
        .ok (some (lookup 1).query) := by
    rw [TxState.afterRead, interceptedQuery_append, isDns, ok_bind]
    dsimp only
    rw [(lookup 1).dnsQuery_eq]
    rfl
  have own (s next : TxState) (resolving : next.resolving = s.resolving)
      (dnsOpen : next.dnsOpen = s.dnsOpen) (running : next.running = s.running) :
      s.SameResolver next := ⟨resolving, dnsOpen, running⟩
  have readable := (Run.nil : Run (DotSystemStep build server dotConfig)
    .initial [] .initial).snoc
      (.tx (.pollReadable rfl rfl) (own _ _ rfl rfl rfl))
  have batch := readable.snoc
    (.tx (.readableGo rfl rfl) (own _ _ rfl rfl rfl))
  have read := batch.snoc
    (.tx (.readPacket (lookup 1).bytes rfl (by decide) (by decide)
      (by simp [DotSystem.initial, TxState.initial]; omega))
      (own _ _ rfl rfl rfl))
  have looked := read.snoc
    (.tx (.receivedGo rfl rfl) (own _ _ rfl rfl rfl))
  have diverted := looked.snoc
    (.tx (.intercept rfl isQuery) (own _ _ rfl rfl rfl))
  refine ⟨_, _, diverted, ?_, rfl, rfl⟩
  rw [lookupItem, ← tbuf]
  rfl

theorem run_answeredLookup :
    ∃ trace s, Run (DotSystemStep .release echoServer dotConfig) .initial
        trace s ∧
      (∀ event ∈ trace.filterMap DotSystemEvent.dotEvent,
        event.Careful echoServer) ∧
      trace.flatMap DotSystemEvent.replied = [lookupItem 1] := by
  have stream : (echoServer.stream 0 (dnsFrame (lookupItem 1).2)).drop 0 =
      dnsFrame (lookupItem 1).2 ++ [] := by
    decide +kernel
  have answer := @dotQueryPooled_next echoServer (lookupItem 1).2
    (lookupItem 1).2 [] (.fresh 0) (show 19 ≤ 4096 by decide) stream
  have built := buildReply_eq .release (lookup 1) (lookupItem 1).2
  obtain ⟨trace, tx, diverted, queue, silent, unanswered⟩ :=
    run_divertedLookup .release echoServer
  have receiving := diverted.snoc
    (.resolver (.loop rfl rfl) ⟨nofun, rfl, le_rfl, le_rfl⟩ nofun)
  have received := receiving.snoc (.receive rfl queue)
  have batch := received.snoc (.batch rfl (List.cons_ne_nil _ _) rfl)
  have expanding := batch.snoc (.resolver
    (.expand rfl (show 0 < min 4 1 by decide)) ⟨nofun, rfl, le_rfl, le_rfl⟩ nofun)
  have expanded := expanding.snoc (.resolver
    (.expanded rfl (show min 4 1 ≤ 1 by decide)) ⟨nofun, rfl, le_rfl, le_rfl⟩ nofun)
  have spawned := expanded.snoc (.resolver
    (@DotStep.spawn .release echoServer _ 0 [] (.fresh 0) rfl rfl)
    ⟨nofun, rfl, le_rfl, le_rfl⟩ nofun)
  have fetched := spawned.snoc (.resolver
    (@DotStep.work .release echoServer _ _ _ [] [] _ _ rfl
      (.fetch (show 0 < 1 by decide) rfl)) ⟨nofun, rfl, le_rfl, le_rfl⟩ nofun)
  have asked := fetched.snoc (.resolver
    (@DotStep.work .release echoServer _ _ _ [] [] _ _ rfl
      (.attempt _ rfl answer)) ⟨nofun, rfl, Nat.zero_le _, le_rfl⟩ nofun)
  have warmed := asked.snoc (@DotSystemStep.warm _ _ _ _ _ _ _ _ _ [] []
    rfl rfl List.mem_cons_self)
  have answered := warmed.snoc (@DotSystemStep.reply _ _ _ _ _ _ _ _ _ _ [] []
    rfl rfl built)
  refine ⟨_, _, answered, ?_, ?_⟩
  · intro event isMember
    simp only [List.filterMap_append, silent, List.nil_append, List.mem_append,
      List.filterMap_cons, List.filterMap_nil, DotSystemEvent.dotEvent,
      List.mem_singleton, List.not_mem_nil] at isMember
    rcases isMember with ((quiet | rfl) | rfl) | rfl
    · have isTau : event = .tau := by simpa using quiet
      rw [isTau]
      trivial
    · intro failed
      exact absurd failed (by decide)
    · trivial
    · trivial
  · simp only [List.flatMap_append, unanswered, List.flatMap_singleton]
    rfl

theorem answeredLookup_accounted :
    ∃ trace s, DotDnsAccounted .release echoServer trace s ∧
      trace.flatMap DotSystemEvent.replied = [lookupItem 1] ∧
      ∀ asked item resp reply, .answered asked item resp reply ∈ trace →
        OwnAnswer echoServer asked item.2 resp := by
  obtain ⟨trace, s, run, careful, replied⟩ := run_answeredLookup
  have accounted := dotDnsAccounted rfl run
  exact ⟨trace, s, accounted, replied, accounted.own careful⟩

end AndroidTether
