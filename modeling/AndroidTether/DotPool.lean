import AndroidTether.DnsLeak
import AndroidTether.DotConnection

/-!
# The pool of DNS-over-TLS connections

`process_dot_serial` of `main.rs`: the resolver thread takes a batch of
queries, hands its pooled connections to workers that share a counter, and
takes back what they return.  A worker replaces a connection when an exchange
on it fails; it keeps the connection when it cannot be replaced, and when the
second attempt fails too.
-/

namespace AndroidTether

open ByteWords Checked

/-- `MAX_POOL` -/
def maxPool : Nat := 4

/-- What `create_dot_conn` returns. -/
def DotPooledConn.fresh (id : Nat) : DotPooledConn :=
  ⟨id, [], 0, false⟩

/-- A worker thread at the points where it meets the world outside. -/
inductive DotWorker
  | fetching (conn : DotPooledConn)
  | attempting (conn : DotPooledConn) (i : Nat)
  | reconnecting (conn : DotPooledConn) (i : Nat)
  | retrying (conn : DotPooledConn) (i : Nat)
  /-- `asked` is the connection before the exchange. -/
  | answered (conn : DotPooledConn) (i : Nat) (asked : DotPooledConn)
      (resp : Bytes)
  /-- The warm flag is set, and the reply is still to be written. -/
  | replying (conn : DotPooledConn) (i : Nat) (asked : DotPooledConn)
      (resp : Bytes)
  | finished

inductive DotPhase
  | waiting
  | receiving
  | expanding
  | spawning (left : Nat)
  deriving DecidableEq

structure DotState where
  phase : DotPhase
  dotConns : List DotPooledConn
  queries : List (Bytes × Bytes)
  counter : Nat
  workers : List DotWorker
  /-- What `return_tx` has sent. -/
  returned : List DotPooledConn
  /-- Connections made so far. -/
  created : Nat
  running : Bool
  warm : Bool

def DotState.initial : DotState where
  phase := .waiting
  dotConns := []
  queries := []
  counter := 0
  workers := []
  returned := []
  created := 0
  running := true
  warm := false

inductive DotEvent
  | tau
  | exchange (conn : DotPooledConn) (query : Bytes)
  /-- A reply for the packet of `item` goes to the utun. -/
  | wrote (asked : DotPooledConn) (item : Bytes × Bytes) (resp reply : Bytes)

section

variable (build : Build) (server : DotServer)

/-- One step of a worker, with what it changes around it. -/
inductive WorkerStep (s : DotState) :
    DotWorker → DotEvent → DotState → DotWorker → Prop
  | fetch {conn : DotPooledConn} (more : s.counter < s.queries.length)
      (on : s.running) :
      WorkerStep s (.fetching conn) .tau { s with counter := s.counter + 1 }
        (.attempting conn s.counter)
  | leave {conn : DotPooledConn}
      (done : s.queries.length ≤ s.counter ∨ s.running = false) :
      WorkerStep s (.fetching conn) .tau
        { s with
          counter := s.counter + 1
          returned := s.returned ++ [conn] } .finished
  | attempt {conn after : DotPooledConn} {i : Nat} {item : Bytes × Bytes}
      {resp : Bytes} (cuts : DotCuts) (current : s.queries[i]? = some item)
      (answered : dotQueryPooled server item.2 cuts conn = .ok resp after) :
      WorkerStep s (.attempting conn i) (.exchange conn item.2) s
        (.answered after i conn resp)
  | attemptFails {conn after : DotPooledConn} {i : Nat} {item : Bytes × Bytes}
      {error : DotError} (cuts : DotCuts) (current : s.queries[i]? = some item)
      (fails : dotQueryPooled server item.2 cuts conn = .error error after) :
      WorkerStep s (.attempting conn i) (.exchange conn item.2) s
        (.reconnecting after i)
  | reconnect {conn : DotPooledConn} {i : Nat} :
      WorkerStep s (.reconnecting conn i) .tau
        { s with created := s.created + 1 } (.retrying (.fresh s.created) i)
  | reconnectFails {conn : DotPooledConn} {i : Nat} :
      WorkerStep s (.reconnecting conn i) .tau s (.fetching conn)
  | retry {conn after : DotPooledConn} {i : Nat} {item : Bytes × Bytes}
      {resp : Bytes} (cuts : DotCuts) (current : s.queries[i]? = some item)
      (answered : dotQueryPooled server item.2 cuts conn = .ok resp after) :
      WorkerStep s (.retrying conn i) (.exchange conn item.2) s
        (.answered after i conn resp)
  | retryFails {conn after : DotPooledConn} {i : Nat} {item : Bytes × Bytes}
      {error : DotError} (cuts : DotCuts) (current : s.queries[i]? = some item)
      (fails : dotQueryPooled server item.2 cuts conn = .error error after) :
      -- `.ok()` drops the error, and the connection is used again
      WorkerStep s (.retrying conn i) (.exchange conn item.2) s
        (.fetching after)
  | warm {conn asked : DotPooledConn} {i : Nat} {resp : Bytes} :
      WorkerStep s (.answered conn i asked resp) .tau { s with warm := true }
        (.replying conn i asked resp)
  | reply {conn asked : DotPooledConn} {i : Nat} {item : Bytes × Bytes}
      {resp packet : Bytes} (current : s.queries[i]? = some item)
      (built : buildReply build item.1 resp = .ok packet) :
      WorkerStep s (.replying conn i asked resp)
        (.wrote asked item resp packet) s (.fetching conn)
  | replyPanics {conn asked : DotPooledConn} {i : Nat} {item : Bytes × Bytes}
      {resp : Bytes} {panic : Panic} (current : s.queries[i]? = some item)
      (panics : buildReply build item.1 resp = .error panic) :
      WorkerStep s (.replying conn i asked resp) .tau s .finished

/-- One step of the resolver thread or of one of its workers. -/
inductive DotStep : DotState → DotEvent → DotState → Prop
  | loop {s : DotState} (at_ : s.phase = .waiting) (on : s.running) :
      DotStep s .tau { s with phase := .receiving }
  | timeout {s : DotState} (at_ : s.phase = .receiving) :
      DotStep s .tau { s with phase := .waiting }
  | batch {s : DotState} (items : List (Bytes × Bytes))
      (at_ : s.phase = .receiving) (nonempty : items ≠ [])
      -- queries are cut out of the packet buffer of the TX loop
      (cut : ∀ item ∈ items, item.2.length ≤ tunBufSize) :
      DotStep s .tau
        { s with queries := items, counter := 0, phase := .expanding }
  | expand {s : DotState} (at_ : s.phase = .expanding)
      (room : s.dotConns.length < min maxPool s.queries.length) :
      DotStep s .tau
        { s with
          dotConns := s.dotConns ++ [.fresh s.created]
          created := s.created + 1 }
  | expandFails {s : DotState} (at_ : s.phase = .expanding)
      (room : s.dotConns.length < min maxPool s.queries.length) :
      DotStep s .tau { s with phase := .spawning (max s.dotConns.length 1) }
  | expanded {s : DotState} (at_ : s.phase = .expanding)
      (full : min maxPool s.queries.length ≤ s.dotConns.length) :
      DotStep s .tau { s with phase := .spawning (max s.dotConns.length 1) }
  | spawn {s : DotState} {left : Nat} {front : List DotPooledConn}
      {conn : DotPooledConn} (at_ : s.phase = .spawning (left + 1))
      (pooled : s.dotConns = front ++ [conn]) :
      DotStep s .tau
        { s with
          phase := .spawning left
          dotConns := front
          workers := s.workers ++ [.fetching conn] }
  | spawnFresh {s : DotState} {left : Nat}
      (at_ : s.phase = .spawning (left + 1)) (empty : s.dotConns = []) :
      DotStep s .tau
        { s with
          phase := .spawning left
          workers := s.workers ++ [.fetching (.fresh s.created)]
          created := s.created + 1 }
  | spawnFails {s : DotState} {left : Nat}
      (at_ : s.phase = .spawning (left + 1)) (empty : s.dotConns = []) :
      DotStep s .tau { s with phase := .spawning left }
  | work {s next : DotState} {event : DotEvent} {before after : List DotWorker}
      {worker moved : DotWorker} (position : s.workers = before ++ worker :: after)
      (step : WorkerStep build server s worker event next moved) :
      DotStep s event { next with workers := before ++ moved :: after }
  | reclaim {s : DotState} (at_ : s.phase = .spawning 0)
      (joined : ∀ worker ∈ s.workers, worker = .finished) :
      DotStep s .tau
        { s with
          phase := .waiting
          dotConns := (s.dotConns ++ s.returned).take maxPool
          workers := []
          returned := [] }
  | stop {s : DotState} : DotStep s .tau { s with running := false }

end

/-- The condition on a step: a connection that an exchange failed on is used
again only if nothing is outstanding on it. -/
def DotEvent.Careful (server : DotServer) : DotEvent → Prop
  | .exchange conn _ => conn.failed = true → Settled server conn
  | .tau | .wrote .. => True

/-- Every failure so far is on record, or did no harm. -/
def Sound (server : DotServer) (conn : DotPooledConn) : Prop :=
  conn.failed = false → Settled server conn

theorem sound_fresh (server : DotServer) (id : Nat) :
    Sound server (.fresh id) :=
  fun _ => settled_fresh server id

/-- What holds of a worker, given the batch it works on. -/
def DotWorker.Sound (server : DotServer) (queries : List (Bytes × Bytes)) :
    DotWorker → Prop
  | .fetching conn | .attempting conn _ | .reconnecting conn _
  | .retrying conn _ => AndroidTether.Sound server conn
  | .answered conn i asked resp | .replying conn i asked resp =>
      AndroidTether.Sound server conn ∧ ∀ item, queries[i]? = some item →
        OwnAnswer server asked item.2 resp
  | .finished => True

structure DotInvariant (server : DotServer) (s : DotState) : Prop where
  /-- Workers live between the spawning and the join. -/
  idle : (∀ left, s.phase ≠ .spawning left) → s.workers = []
  short : ∀ item ∈ s.queries, item.2.length ≤ tunBufSize
  pooled : ∀ conn ∈ s.dotConns, Sound server conn
  working : ∀ worker ∈ s.workers, worker.Sound server s.queries
  returned : ∀ conn ∈ s.returned, Sound server conn

/-- A careful exchange on a sound connection leaves it sound, and its answer
is the right one. -/
theorem exchange_sound {server : DotServer} {conn : DotPooledConn}
    {query : Bytes} (cuts : DotCuts) (short : query.length ≤ tunBufSize)
    (sound : Sound server conn)
    (careful : (DotEvent.exchange conn query).Careful server) :
    (∀ resp after, dotQueryPooled server query cuts conn = .ok resp after →
      Sound server after ∧ OwnAnswer server conn query resp) ∧
    ∀ error after, dotQueryPooled server query cuts conn =
      .error error after → Sound server after := by
  have size : tunBufSize = 2304 := rfl
  have settled : Settled server conn := by
    cases failed : conn.failed with
    | true => exact careful failed
    | false => exact sound failed
  rcases dotQueryPooled_cases server query cuts conn (by omega) with
    ⟨error, after, failsEq, failed⟩ | ⟨resp, after, answeredEq, right⟩
  · rw [failsEq]
    refine ⟨fun _ _ equal => absurd equal (by simp), ?_⟩
    rintro _ _ ⟨⟩ notFailed
    exact absurd (failed.symm.trans notFailed) (by decide)
  · rw [answeredEq]
    refine ⟨?_, fun _ _ equal => absurd equal (by simp)⟩
    rintro _ _ ⟨⟩
    obtain ⟨own, settledAfter, -⟩ := right settled
    exact ⟨fun _ => settledAfter, own⟩

namespace DotInvariant

variable {build : Build} {server : DotServer} {s next : DotState}
  {event : DotEvent}

theorem initial : DotInvariant server .initial where
  idle _ := rfl
  short _ member := absurd member List.not_mem_nil
  pooled _ member := absurd member List.not_mem_nil
  working _ member := absurd member List.not_mem_nil
  returned _ member := absurd member List.not_mem_nil

theorem workerStep_frame {worker moved : DotWorker}
    (step : WorkerStep build server s worker event next moved) :
    next.phase = s.phase ∧ next.queries = s.queries ∧
      next.dotConns = s.dotConns ∧ next.workers = s.workers := by
  cases step <;> exact ⟨rfl, rfl, rfl, rfl⟩

/-- A worker keeps its connection sound. -/
theorem workerStep_sound {worker moved : DotWorker}
    (inv : DotInvariant server s) (sound : worker.Sound server s.queries)
    (careful : event.Careful server)
    (step : WorkerStep build server s worker event next moved) :
    moved.Sound server s.queries ∧
      ∀ conn ∈ next.returned, AndroidTether.Sound server conn := by
  cases step with
  | fetch | reconnectFails | warm => exact ⟨sound, inv.returned⟩
  | @leave conn =>
      exact ⟨trivial, List.forall_mem_append.mpr
        ⟨inv.returned, List.forall_mem_singleton.mpr sound⟩⟩
  | @attempt conn after i item resp cuts current answered
  | @retry conn after i item resp cuts current answered =>
      have short := inv.short item (List.mem_of_getElem? current)
      obtain ⟨soundAfter, own⟩ :=
        (exchange_sound cuts short sound careful).1 resp after answered
      refine ⟨⟨soundAfter, ?_⟩, inv.returned⟩
      intro other otherCurrent
      rw [current] at otherCurrent
      cases otherCurrent
      exact own
  | @attemptFails conn after i item error cuts current fails
  | @retryFails conn after i item error cuts current fails =>
      have short := inv.short item (List.mem_of_getElem? current)
      exact ⟨(exchange_sound cuts short sound careful).2 error after fails,
        inv.returned⟩
  | reconnect => exact ⟨sound_fresh server _, inv.returned⟩
  | reply => exact ⟨sound.1, inv.returned⟩
  | replyPanics => exact ⟨trivial, inv.returned⟩

theorem step (inv : DotInvariant server s) (careful : event.Careful server)
    (taken : DotStep build server s event next) :
    DotInvariant server next := by
  cases taken with
  | loop atPhase | timeout atPhase =>
      exact ⟨fun _ => inv.idle (by simp [atPhase]), inv.short, inv.pooled,
        inv.working, inv.returned⟩
  | expandFails atPhase | expanded atPhase =>
      refine ⟨fun notSpawning => absurd rfl (notSpawning _), inv.short,
        inv.pooled, inv.working, inv.returned⟩
  | stop => exact ⟨inv.idle, inv.short, inv.pooled, inv.working, inv.returned⟩
  | batch items atPhase nonempty cut =>
      have idle : s.workers = [] := inv.idle (by simp [atPhase])
      refine ⟨fun _ => idle, cut, inv.pooled, ?_, inv.returned⟩
      intro worker isMember
      exact absurd (idle ▸ isMember) List.not_mem_nil
  | expand atPhase =>
      have pooled : ∀ conn ∈ s.dotConns ++ [.fresh s.created],
          Sound server conn :=
        List.forall_mem_append.mpr ⟨inv.pooled,
          List.forall_mem_singleton.mpr (sound_fresh server _)⟩
      exact ⟨inv.idle, inv.short, pooled, inv.working, inv.returned⟩
  | @spawn left front conn atPhase pooled =>
      have sound : ∀ member ∈ front ++ [conn], Sound server member :=
        pooled ▸ inv.pooled
      obtain ⟨frontSound, lastSound⟩ := List.forall_mem_append.mp sound
      have working : ∀ worker ∈ s.workers ++ [.fetching conn],
          worker.Sound server s.queries :=
        List.forall_mem_append.mpr ⟨inv.working,
          List.forall_mem_singleton.mpr (lastSound conn (by simp))⟩
      exact ⟨fun notSpawning => absurd rfl (notSpawning _), inv.short,
        frontSound, working, inv.returned⟩
  | spawnFresh =>
      have working : ∀ worker ∈ s.workers ++ [.fetching (.fresh s.created)],
          worker.Sound server s.queries :=
        List.forall_mem_append.mpr ⟨inv.working,
          List.forall_mem_singleton.mpr (sound_fresh server _)⟩
      exact ⟨fun notSpawning => absurd rfl (notSpawning _), inv.short,
        inv.pooled, working, inv.returned⟩
  | spawnFails =>
      exact ⟨fun notSpawning => absurd rfl (notSpawning _), inv.short,
        inv.pooled, inv.working, inv.returned⟩
  | @work next _ front back worker moved position step =>
      obtain ⟨phaseEq, queriesEq, dotConnsEq, workersEq⟩ :=
        workerStep_frame step
      have isWorker : worker ∈ s.workers := by simp [position]
      obtain ⟨movedSound, returned⟩ :=
        inv.workerStep_sound (inv.working worker isWorker) careful step
      refine ⟨?_, queriesEq ▸ inv.short, dotConnsEq ▸ inv.pooled, ?_, returned⟩
      · intro notSpawning
        have idle := inv.idle (phaseEq ▸ notSpawning)
        exact absurd (idle ▸ isWorker) List.not_mem_nil
      · intro member isMember
        rw [queriesEq]
        rcases List.mem_append.mp isMember with earlier | later
        · exact inv.working member
            (position ▸ List.mem_append_left _ earlier)
        · rcases List.mem_cons.mp later with rfl | later
          · exact movedSound
          · exact inv.working member (position ▸ List.mem_append_right _
              (List.mem_cons_of_mem _ later))
  | reclaim atPhase joined =>
      refine ⟨fun _ => rfl, inv.short, ?_,
        fun worker member => absurd member List.not_mem_nil,
        fun conn member => absurd member List.not_mem_nil⟩
      intro conn isMember
      rcases List.mem_append.mp (List.mem_of_mem_take isMember) with
        pooled | returned
      · exact inv.pooled conn pooled
      · exact inv.returned conn returned

theorem of_run {trace : List DotEvent} {state : DotState}
    (run : Run (DotStep build server) .initial trace state)
    (careful : ∀ event ∈ trace, event.Careful server) :
    DotInvariant server state := by
  induction run with
  | nil => exact initial
  | @snoc trace state next event run taken ih =>
      have inv := ih fun member isMember =>
        careful member (List.mem_append_left _ isMember)
      exact inv.step (careful event (by simp)) taken

end DotInvariant

section Runs

variable (build : Build) (server : DotServer)

/-- A new resolver is about to ask the only query of its first batch. -/
def DotState.asking (item : Bytes × Bytes) : DotState :=
  { DotState.initial with
    phase := .spawning 0
    queries := [item]
    counter := 1
    workers := [.attempting (.fresh 0) 0]
    created := 1 }

theorem run_asking {item : Bytes × Bytes}
    (short : item.2.length ≤ tunBufSize) :
    Run (DotStep build server) .initial
      [.tau, .tau, .tau, .tau, .tau, .tau] (.asking item) := by
  have receiving := Run.nil.snoc
    (@DotStep.loop build server .initial rfl rfl)
  have batch := receiving.snoc (.batch [item] rfl (by simp) (by simpa))
  have expanded := (batch.snoc
    (.expand rfl (show 0 < min 4 1 by decide))).snoc
    (.expanded rfl (show min 4 1 ≤ 1 by decide))
  have spawned := expanded.snoc
    (@DotStep.spawn build server _ 0 [] (.fresh 0) rfl rfl)
  exact spawned.snoc (@DotStep.work build server _ _ _ [] [] _ _ rfl
    (.fetch (show 0 < 1 by decide) rfl))

/-- The state after that, when the first exchange fails, the connection is
replaced, the second exchange fails as well and the next batch has come. -/
def DotState.askingStale (first second : Bytes × Bytes) : DotState :=
  { DotState.initial with
    phase := .spawning 0
    queries := [second]
    counter := 1
    workers := [.attempting ⟨1, dnsFrame first.2, 0, true⟩ 0]
    created := 2 }

theorem run_askingStale {first second : Bytes × Bytes}
    (firstShort : first.2.length ≤ tunBufSize)
    (secondShort : second.2.length ≤ tunBufSize) :
    Run (DotStep build server) .initial
      ([.tau, .tau, .tau, .tau, .tau, .tau] ++
        [.exchange (.fresh 0) first.2, .tau, .exchange (.fresh 1) first.2] ++
        [.tau, .tau, .tau, .tau, .tau, .tau, .tau])
      (.askingStale first second) := by
  have timeout (conn : DotPooledConn) :=
    dotQueryPooled_timeout server first.2 conn
  have work {trace : List DotEvent} {s next : DotState} {event : DotEvent}
      {worker moved : DotWorker}
      (run : Run (DotStep build server) .initial trace s)
      (only : s.workers = [worker])
      (step : WorkerStep build server s worker event next moved) :
      Run (DotStep build server) .initial (trace ++ [event])
        { next with workers := [moved] } :=
    run.snoc (@DotStep.work build server _ _ _ [] [] _ _ only step)
  have reconnecting := work (run_asking build server firstShort) rfl
    (.attemptFails _ rfl (timeout _))
  have retrying := work reconnecting rfl .reconnect
  have kept := work retrying rfl (.retryFails _ rfl (timeout _))
  have left := work kept rfl (.leave (.inl (show 1 ≤ 1 by decide)))
  have reclaimed := left.snoc (.reclaim rfl (by simp))
  have batch := (reclaimed.snoc (.loop rfl rfl)).snoc
    (.batch [second] rfl (by simp) (by simpa))
  have expanded := batch.snoc (.expanded rfl (show min 4 1 ≤ 1 by decide))
  have spawned := expanded.snoc
    (@DotStep.spawn build server _ 0 [] _ rfl rfl)
  exact work spawned rfl (.fetch (show 0 < 1 by decide) rfl)

end Runs

/-- In a run whose exchanges are all careful, every reply that is written is
made from the answer to the query of its own packet. -/
theorem wrote_ownAnswer {build : Build} {server : DotServer}
    {trace : List DotEvent} {state : DotState}
    (run : Run (DotStep build server) .initial trace state)
    (careful : ∀ event ∈ trace, event.Careful server)
    {asked : DotPooledConn} {item : Bytes × Bytes} {resp reply : Bytes}
    (wrote : .wrote asked item resp reply ∈ trace) :
    OwnAnswer server asked item.2 resp ∧
      buildReply build item.1 resp = .ok reply := by
  obtain ⟨earlier, later, rfl⟩ := List.append_of_mem wrote
  obtain ⟨before, next, earlierRun, taken, -⟩ := run.split
  have inv := DotInvariant.of_run earlierRun fun event isMember =>
    careful event (List.mem_append_left _ isMember)
  cases taken with
  | @work next _ front back worker moved position step =>
      have isWorker : worker ∈ before.workers := by simp [position]
      have sound := inv.working worker isWorker
      cases step with
      | reply current built => exact ⟨sound.2 item current, built⟩

/-- A server that answers every query with the query. -/
def echoServer : DotServer where
  answer _ _ query := query.take 4096
  bounded _ _ query := by
    rw [List.length_take]
    omega

/-- A lookup with its own transaction id. -/
def lookup (transaction : UInt8) : QueryPacket encryptedConfig.ourIp :=
  { coldQuery with
    query :=
      [0, transaction, 1, 0, 0, 1, 0, 0, 0, 0, 0, 0, 1, 0x61, 0, 0, 1, 0, 1]
    query_length := show 12 ≤ 19 by decide }

def lookupItem (transaction : UInt8) : Bytes × Bytes :=
  ((lookup transaction).bytes, (lookup transaction).query)

theorem lookupItem_short (transaction : UInt8) :
    (lookupItem transaction).2.length ≤ tunBufSize :=
  show 19 ≤ 2304 by decide

theorem lookup_answered :
    OwnAnswer echoServer (.fresh 0) (lookupItem 1).2 (lookupItem 1).2 ∧
      ∃ reply, buildReply .debug (lookupItem 1).1 (lookupItem 1).2 =
        .ok reply := by
  have stream : (echoServer.stream 0 (dnsFrame (lookupItem 1).2)).drop 0 =
      dnsFrame (lookupItem 1).2 ++ [] := by
    decide +kernel
  have answered := @dotQueryPooled_next echoServer (lookupItem 1).2
    (lookupItem 1).2 [] (.fresh 0) (show 19 ≤ 4096 by decide) stream
  have replied := buildReply_eq .debug (lookup 1) (lookupItem 1).2
  have run := (((run_asking .debug echoServer (lookupItem_short 1)).snoc
    (@DotStep.work .debug echoServer _ _ _ [] [] _ _ rfl
      (.attempt _ rfl answered))).snoc
    (@DotStep.work .debug echoServer _ _ _ [] [] _ _ rfl .warm)).snoc
    (@DotStep.work .debug echoServer _ _ _ [] [] _ _ rfl (.reply rfl replied))
  have wrote := wrote_ownAnswer run (by
    intro event isMember
    simp only [List.mem_append, List.mem_cons, List.not_mem_nil, or_false]
      at isMember
    rcases isMember with ((quiet | rfl) | rfl) | rfl
    · rcases quiet with rfl | rfl | rfl | rfl | rfl | rfl <;> trivial
    · intro failed
      exact absurd failed (by decide)
    · trivial
    · trivial)
    (List.mem_append_right _ (List.mem_singleton_self _))
  exact ⟨wrote.1, _, wrote.2⟩

/-- Every reply is made from the answer to its own query, in every run. -/
def NeverCrossed (build : Build) (server : DotServer) : Prop :=
  ∀ trace state, Run (DotStep build server) .initial trace state →
    ∀ asked item resp reply, .wrote asked item resp reply ∈ trace →
      OwnAnswer server asked item.2 resp

/-- The answer to a query that timed out twice goes to the next query. -/
theorem not_neverCrossed : ¬ NeverCrossed .debug echoServer := by
  intro never
  have stream : (echoServer.stream 1
      (dnsFrame (lookupItem 1).2 ++ dnsFrame (lookupItem 2).2)).drop 0 =
        dnsFrame (lookupItem 1).2 ++ dnsFrame (lookupItem 2).2 := by
    decide +kernel
  have answered := @dotQueryPooled_next echoServer (lookupItem 2).2
    (lookupItem 1).2 (dnsFrame (lookupItem 2).2)
    ⟨1, dnsFrame (lookupItem 1).2, 0, true⟩ (show 19 ≤ 4096 by decide) stream
  have replied := buildReply_eq .debug (lookup 2) (lookupItem 1).2
  have run := (((run_askingStale .debug echoServer (lookupItem_short 1)
    (lookupItem_short 2)).snoc
    (@DotStep.work .debug echoServer _ _ _ [] [] _ _ rfl
      (.attempt _ rfl answered))).snoc
    (@DotStep.work .debug echoServer _ _ _ [] [] _ _ rfl .warm)).snoc
    (@DotStep.work .debug echoServer _ _ _ [] [] _ _ rfl (.reply rfl replied))
  have own := never _ _ run _ _ _ _
    (List.mem_append_right _ (List.mem_singleton_self _))
  exact absurd own.2 (by decide)

end AndroidTether
