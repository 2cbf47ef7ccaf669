import AndroidTether.DnsDiverted
import AndroidTether.DotPool

/-!
# One batch of encrypted queries

What a call of `process_dot_serial` does with its batch and with the pool,
for any interleaving of its workers and any outcome of their exchanges.  The
steps of the resolver are logged with the position of the worker that moved,
so that the queries a worker takes and the connection it ends with can be
followed.
-/

namespace AndroidTether

open ByteWords Checked OnesComplement

/-- Who took a step: the resolver thread, or the worker at a position. -/
inductive DotAction
  | resolver (event : DotEvent)
  | worker (position : Nat) (before : DotWorker) (event : DotEvent)
      (after : DotWorker)

section Calls

variable (build : Build) (server : DotServer)

/-- A step of the resolver thread or of one of its workers, with its author.
The resolver's own steps leave the workers alone, start one, or join all. -/
inductive LoggedStep : DotState → DotAction → DotState → Prop
  | resolver {s next : DotState} {event : DotEvent}
      (step : DotStep build server s event next)
      (own : next.workers = s.workers ∨
        (∃ worker, next.workers = s.workers ++ [worker]) ∨
        next.workers = [])
      (fromTx : s.phase = .receiving → next.phase = .expanding →
        ∀ item ∈ next.queries, Intercepted item) :
      LoggedStep s (.resolver event) next
  | worker {s next : DotState} {event : DotEvent}
      {before after : List DotWorker} {worker moved : DotWorker}
      (position : s.workers = before ++ worker :: after)
      (step : WorkerStep build server s worker event next moved) :
      LoggedStep s (.worker before.length worker event moved)
        { next with workers := before ++ moved :: after }

/-- Every logged step is a step of the resolver model. -/
theorem LoggedStep.dotStep {s next : DotState} {action : DotAction}
    (logged : LoggedStep build server s action next) :
    ∃ event, DotStep build server s event next := by
  cases logged with
  | resolver step => exact ⟨_, step⟩
  | worker position step => exact ⟨_, .work position step⟩

/-- Every step of the resolver model can be logged, if its batches come from
the TX loop. -/
theorem DotStep.logged {s next : DotState} {event : DotEvent}
    (step : DotStep build server s event next)
    (fromTx : s.phase = .receiving → next.phase = .expanding →
      ∀ item ∈ next.queries, Intercepted item) :
    ∃ action, LoggedStep build server s action next := by
  cases step with
  | work position step => exact ⟨_, .worker position step⟩
  | loop atPhase on => exact ⟨_, .resolver (.loop atPhase on) (.inl rfl) fromTx⟩
  | timeout atPhase =>
      exact ⟨_, .resolver (.timeout atPhase) (.inl rfl) fromTx⟩
  | batch items atPhase nonempty cut =>
      exact ⟨_, .resolver (.batch items atPhase nonempty cut) (.inl rfl)
        fromTx⟩
  | expand atPhase room =>
      exact ⟨_, .resolver (.expand atPhase room) (.inl rfl) fromTx⟩
  | expandFails atPhase room =>
      exact ⟨_, .resolver (.expandFails atPhase room) (.inl rfl) fromTx⟩
  | expanded atPhase full =>
      exact ⟨_, .resolver (.expanded atPhase full) (.inl rfl) fromTx⟩
  | spawn atPhase pooled =>
      exact ⟨_, .resolver (.spawn atPhase pooled) (.inr (.inl ⟨_, rfl⟩))
        fromTx⟩
  | spawnFresh atPhase empty =>
      exact ⟨_, .resolver (.spawnFresh atPhase empty) (.inr (.inl ⟨_, rfl⟩))
        fromTx⟩
  | spawnFails atPhase empty =>
      exact ⟨_, .resolver (.spawnFails atPhase empty) (.inl rfl) fromTx⟩
  | reclaim atPhase joined =>
      exact ⟨_, .resolver (.reclaim atPhase joined) (.inr (.inr rfl)) fromTx⟩
  | stop => exact ⟨_, .resolver .stop (.inl rfl) fromTx⟩

/-- A step of a call: it does not go back to waiting for a query. -/
structure CallStep (s : DotState) (action : DotAction) (next : DotState) :
    Prop where
  step : LoggedStep build server s action next
  inside : next.phase ≠ .waiting

end Calls

/-- The queries that were taken, as pairs of a worker and an index. -/
def takenQueries (actions : List DotAction) : List (Nat × Nat) :=
  actions.filterMap fun
    | .worker position (.fetching _) _ (.attempting _ i) => some (position, i)
    | _ => none

/-- The indices of the queries that a reply was written for. -/
def repliedQueries (actions : List DotAction) : List Nat :=
  actions.filterMap fun
    | .worker _ (.replying _ i _ _) (.wrote ..) _ => some i
    | _ => none

/-- The connections that workers ended with, as pairs of a worker and its
connection. -/
def endedWith (actions : List DotAction) : List (Nat × DotPooledConn) :=
  actions.filterMap fun
    | .worker position (.fetching conn) _ .finished => some (position, conn)
    | _ => none

namespace DotWorker

/-- The worker works on the query with that index. -/
def holds (i : Nat) : DotWorker → Bool
  | .attempting _ j | .reconnecting _ j | .retrying _ j
  | .answered _ j _ _ | .replying _ j _ _ => j = i
  | .fetching _ | .finished => false

def isFinished : DotWorker → Bool
  | .finished => true
  | .fetching _ | .attempting .. | .reconnecting .. | .retrying ..
  | .answered .. | .replying .. => false

theorem isFinished_iff {worker : DotWorker} :
    worker.isFinished = true ↔ worker = .finished := by
  cases worker <;> simp [isFinished]

end DotWorker

/-- The worker at a position has left. -/
def finishedAt (workers : List DotWorker) (position : Nat) : Bool :=
  (workers[position]?).any (·.isFinished)

/-- What holds of the pool in each phase. -/
def DotPhase.Pooled (s : DotState) : DotPhase → Prop
  | .waiting | .receiving =>
      s.workers = [] ∧ s.returned = [] ∧ s.dotConns.length ≤ maxPool
  | .expanding =>
      s.workers = [] ∧ s.returned = [] ∧ s.dotConns.length ≤ maxPool ∧
        s.counter = 0 ∧ ∀ item ∈ s.queries, Intercepted item
  | .spawning left =>
      s.dotConns.length ≤ left ∧ left + s.workers.length ≤ maxPool ∧
        ∀ item ∈ s.queries, Intercepted item

/-- The invariant over any sequence of calls. -/
def PoolInvariant (s : DotState) : Prop :=
  s.phase.Pooled s

section Pool

variable {build : Build} {server : DotServer} {s next : DotState}
  {action : DotAction}

theorem WorkerStep.moved_ne {event : DotEvent} {worker moved : DotWorker}
    (step : WorkerStep build server s worker event next moved) :
    moved ≠ worker := by
  cases step <;> simp

theorem not_own_of_work {before after : List DotWorker}
    {worker moved : DotWorker} {event : DotEvent}
    (position : s.workers = before ++ worker :: after)
    (step : WorkerStep build server s worker event next moved) :
    ¬ (before ++ moved :: after = s.workers ∨
      (∃ extra, before ++ moved :: after = s.workers ++ [extra]) ∨
      before ++ moved :: after = []) := by
  rw [position]
  rintro (same | ⟨extra, longer⟩ | none)
  · have tails := List.append_cancel_left same
    exact step.moved_ne (List.cons.inj tails).1
  · have lengths := congrArg List.length longer
    simp at lengths
  · simp at none

/-- Workers exist only while they are spawned and joined. -/
theorem PoolInvariant.spawning (inv : PoolInvariant s)
    (working : s.workers ≠ []) : ∃ left, s.phase = .spawning left := by
  unfold PoolInvariant at inv
  cases atPhase : s.phase with
  | waiting | receiving | expanding =>
      rw [atPhase] at inv
      exact absurd inv.1 working
  | spawning left => exact ⟨left, rfl⟩

theorem PoolInvariant.step (inv : PoolInvariant s)
    (logged : LoggedStep build server s action next) :
    PoolInvariant next := by
  have pooled := inv
  unfold PoolInvariant at pooled
  cases logged with
  | @resolver _ event step own fromTx =>
      cases step with
      | loop atPhase | timeout atPhase =>
          rw [atPhase] at pooled
          exact pooled
      | batch items atPhase =>
          rw [atPhase] at pooled
          exact ⟨pooled.1, pooled.2.1, pooled.2.2, rfl, fromTx atPhase rfl⟩
      | expand atPhase room =>
          rw [atPhase] at pooled
          obtain ⟨noWorkers, noneReturned, -, counter, items⟩ := pooled
          unfold PoolInvariant
          simp only [atPhase]
          refine ⟨noWorkers, noneReturned, ?_, counter, items⟩
          rw [List.length_append]
          exact room.trans_le (min_le_left _ _)
      | expandFails atPhase | expanded atPhase =>
          rw [atPhase] at pooled
          obtain ⟨noWorkers, -, bounded, -, items⟩ := pooled
          refine ⟨le_max_left _ _, ?_, items⟩
          rw [noWorkers]
          exact max_le bounded (by decide)
      | @spawn left front conn atPhase last =>
          rw [atPhase] at pooled
          obtain ⟨enough, bounded, items⟩ := pooled
          rw [last, List.length_append, List.length_singleton] at enough
          refine ⟨by simp only; omega, ?_, items⟩
          simp only [List.length_append, List.length_singleton]
          omega
      | @spawnFresh left atPhase empty =>
          rw [atPhase] at pooled
          obtain ⟨-, bounded, items⟩ := pooled
          refine ⟨by simp [empty], ?_, items⟩
          simp only [List.length_append, List.length_singleton]
          omega
      | @spawnFails left atPhase empty =>
          rw [atPhase] at pooled
          obtain ⟨-, bounded, items⟩ := pooled
          exact ⟨by simp [empty], by simp only; omega, items⟩
      | work position step => exact absurd own (not_own_of_work position step)
      | reclaim => exact ⟨rfl, rfl, by simp⟩
      | stop =>
          unfold PoolInvariant
          cases atPhase : s.phase <;> rw [atPhase] at pooled <;> exact pooled
  | @worker mid event before after worker moved position step =>
      obtain ⟨left, atPhase⟩ := inv.spawning (by simp [position])
      obtain ⟨phaseEq, queriesEq, dotConnsEq, -⟩ :=
        DotInvariant.workerStep_frame step
      rw [atPhase] at pooled phaseEq
      obtain ⟨enough, bounded, items⟩ := pooled
      have lengths := congrArg List.length position
      unfold PoolInvariant
      simp only [phaseEq]
      refine ⟨dotConnsEq ▸ enough, ?_, queriesEq ▸ items⟩
      simp only [List.length_append, List.length_cons] at lengths ⊢
      omega

end Pool

/-- What a call has done so far with its batch. -/
structure CallInvariant (batch : List (Bytes × Bytes))
    (actions : List DotAction) (s : DotState) : Prop where
  pool : PoolInvariant s
  queries : s.queries = batch
  calling : s.phase ≠ .waiting ∧ s.phase ≠ .receiving
  taken : s.running = true → (takenQueries actions).map Prod.snd =
    List.range (min s.counter s.queries.length)
  /-- A worker leaves only when there is nothing left to take. -/
  exhausted : s.running = true → 0 < s.workers.countP (·.isFinished) →
    s.queries.length ≤ s.counter
  /-- A query is with one worker, or answered, or neither. -/
  claimed : ∀ i, s.workers.countP (·.holds i) +
    (repliedQueries actions).count i ≤ 1
  untouched : ∀ i, s.counter ≤ i →
    s.workers.countP (·.holds i) + (repliedQueries actions).count i = 0
  returned : s.returned = (endedWith actions).map Prod.snd
  total : s.returned.length = s.workers.countP (·.isFinished)
  ended : ∀ position, (endedWith actions).countP (·.1 = position) =
    (finishedAt s.workers position).toNat

section Call

variable {build : Build} {server : DotServer}
  {batch : List (Bytes × Bytes)} {actions : List DotAction}
  {s next : DotState} {action : DotAction}

theorem takenQueries_concat (actions : List DotAction) (action : DotAction) :
    takenQueries (actions ++ [action]) =
      takenQueries actions ++ takenQueries [action] :=
  List.filterMap_append

theorem repliedQueries_concat (actions : List DotAction)
    (action : DotAction) :
    repliedQueries (actions ++ [action]) =
      repliedQueries actions ++ repliedQueries [action] :=
  List.filterMap_append

theorem endedWith_concat (actions : List DotAction) (action : DotAction) :
    endedWith (actions ++ [action]) =
      endedWith actions ++ endedWith [action] :=
  List.filterMap_append

/-- Counting over the workers when one of them has moved. -/
theorem countP_moved (test : DotWorker → Bool)
    (before after : List DotWorker) (worker moved : DotWorker) :
    (before ++ moved :: after).countP test + (test worker).toNat =
      (before ++ worker :: after).countP test + (test moved).toNat := by
  simp only [List.countP_append, List.countP_cons]
  cases test worker <;> cases test moved <;> simp <;> omega

theorem finishedAt_moved (before after : List DotWorker)
    (worker moved : DotWorker) (position : Nat) :
    finishedAt (before ++ moved :: after) position =
      if position = before.length then moved.isFinished
      else finishedAt (before ++ worker :: after) position := by
  unfold finishedAt
  split
  · rename_i atPosition
    simp [atPosition]
  · rename_i elsewhere
    rcases Nat.lt_or_gt_of_ne elsewhere with less | greater
    · rw [List.getElem?_append_left less, List.getElem?_append_left less]
    · rw [List.getElem?_append_right greater.le,
        List.getElem?_append_right greater.le]
      obtain ⟨rest, restEq⟩ : ∃ rest, position - before.length = rest + 1 :=
        ⟨position - before.length - 1, by omega⟩
      rw [restEq, List.getElem?_cons_succ, List.getElem?_cons_succ]

/-- A worker that moves without leaving changes nothing there. -/
theorem finishedAt_stays (before after : List DotWorker)
    {worker moved : DotWorker}
    (same : moved.isFinished = worker.isFinished) (position : Nat) :
    finishedAt (before ++ moved :: after) position =
      finishedAt (before ++ worker :: after) position := by
  rw [finishedAt_moved before after worker moved position]
  split
  · rename_i atPosition
    rw [atPosition, same]
    simp [finishedAt]
  · rfl

theorem finishedAt_self (before after : List DotWorker) (worker : DotWorker) :
    finishedAt (before ++ worker :: after) before.length =
      worker.isFinished := by
  simp [finishedAt]

theorem finishedAt_started (workers : List DotWorker) (conn : DotPooledConn)
    (position : Nat) :
    finishedAt (workers ++ [.fetching conn]) position =
      finishedAt workers position := by
  unfold finishedAt
  rw [List.getElem?_append]
  split
  · rfl
  · rename_i beyond
    rw [List.getElem?_eq_none (Nat.not_lt.mp beyond)]
    cases position - workers.length <;> rfl

namespace CallInvariant

theorem initial (inv : PoolInvariant s) (expanding : s.phase = .expanding) :
    CallInvariant s.queries [] s := by
  have pooled := inv
  unfold PoolInvariant at pooled
  rw [expanding] at pooled
  obtain ⟨noWorkers, noneReturned, -, counter, -⟩ := pooled
  refine
    { pool := inv
      queries := rfl
      calling := by simp [expanding]
      taken := fun _ => by simp [takenQueries, counter]
      exhausted := fun _ finished => by simp [noWorkers] at finished
      claimed := fun i => by simp [noWorkers, repliedQueries]
      untouched := fun i _ => by simp [noWorkers, repliedQueries]
      returned := by rw [noneReturned]; rfl
      total := by rw [noneReturned, noWorkers]; rfl
      ended := fun position => by simp [noWorkers, endedWith, finishedAt] }

/-- A step of the resolver that leaves the workers alone or starts one. -/
theorem resolver (inv : CallInvariant batch actions s) {event : DotEvent}
    (pool : PoolInvariant next)
    (calling : next.phase ≠ .waiting ∧ next.phase ≠ .receiving)
    (counterEq : next.counter = s.counter)
    (queriesEq : next.queries = s.queries)
    (returnedEq : next.returned = s.returned)
    (stopped : next.running = true → s.running = true)
    (workersEq : next.workers = s.workers ∨
      ∃ conn, next.workers = s.workers ++ [.fetching conn]) :
    CallInvariant batch (actions ++ [.resolver event]) next := by
  have counts (test : DotWorker → Bool)
      (idle : ∀ conn, test (.fetching conn) = false) :
      next.workers.countP test = s.workers.countP test := by
    rcases workersEq with same | ⟨conn, longer⟩
    · rw [same]
    · simp [longer, idle]
  have positions (position : Nat) : finishedAt next.workers position =
      finishedAt s.workers position := by
    rcases workersEq with same | ⟨conn, longer⟩
    · rw [same]
    · rw [longer, finishedAt_started]
  constructor
  · exact pool
  · exact queriesEq.trans inv.queries
  · exact calling
  · intro on
    rw [takenQueries_concat, counterEq, queriesEq, List.map_append,
      inv.taken (stopped on)]
    exact List.append_nil _
  · intro on finished
    rw [counts _ fun _ => rfl] at finished
    rw [counterEq, queriesEq]
    exact inv.exhausted (stopped on) finished
  · intro i
    rw [repliedQueries_concat, counts _ fun _ => rfl]
    simpa [repliedQueries] using inv.claimed i
  · intro i above
    rw [repliedQueries_concat, counts _ fun _ => rfl]
    simpa [repliedQueries] using inv.untouched i (counterEq ▸ above)
  · rw [returnedEq, endedWith_concat, List.map_append, inv.returned]
    exact (List.append_nil _).symm
  · rw [returnedEq, counts _ fun _ => rfl]
    exact inv.total
  · intro position
    rw [endedWith_concat, positions]
    simpa [endedWith] using inv.ended position

theorem moves (inv : CallInvariant batch actions s) {event : DotEvent}
    {before after : List DotWorker} {worker moved : DotWorker}
    (position : s.workers = before ++ worker :: after)
    (workersEq : next.workers = before ++ moved :: after)
    (pool : PoolInvariant next) (phaseEq : next.phase = s.phase)
    (counterEq : next.counter = s.counter)
    (queriesEq : next.queries = s.queries)
    (returnedEq : next.returned = s.returned)
    (runningEq : next.running = s.running)
    (working : worker.isFinished = false ∧ moved.isFinished = false)
    (quiet : takenQueries [.worker before.length worker event moved] = [] ∧
      endedWith [.worker before.length worker event moved] = [])
    (claims : ∀ i, (moved.holds i).toNat + (repliedQueries
      [.worker before.length worker event moved]).count i ≤
        (worker.holds i).toNat) :
    CallInvariant batch (actions ++ [.worker before.length worker event moved])
      next := by
  have counts (test : DotWorker → Bool) :
      next.workers.countP test + (test worker).toNat =
        s.workers.countP test + (test moved).toNat := by
    rw [workersEq, position]
    exact countP_moved test before after worker moved
  have finished := counts (·.isFinished)
  rw [working.1, working.2] at finished
  simp only [Bool.toNat_false, Nat.add_zero] at finished
  constructor
  · exact pool
  · exact queriesEq.trans inv.queries
  · exact phaseEq ▸ inv.calling
  · intro on
    rw [takenQueries_concat, quiet.1, List.append_nil, counterEq, queriesEq]
    exact inv.taken (runningEq ▸ on)
  · intro on some
    rw [counterEq, queriesEq]
    exact inv.exhausted (runningEq ▸ on) (finished ▸ some)
  · intro i
    have held := counts (·.holds i)
    have before := inv.claimed i
    have claim := claims i
    rw [repliedQueries_concat, List.count_append]
    omega
  · intro i above
    have held := counts (·.holds i)
    have before := inv.untouched i (counterEq ▸ above)
    have claim := claims i
    rw [repliedQueries_concat, List.count_append]
    omega
  · rw [endedWith_concat, quiet.2, List.append_nil, returnedEq]
    exact inv.returned
  · rw [returnedEq, finished]
    exact inv.total
  · intro place
    rw [endedWith_concat, quiet.2, List.append_nil, inv.ended place,
      workersEq, position,
      finishedAt_stays before after (working.2.trans working.1.symm)]

theorem fetches (inv : CallInvariant batch actions s)
    {before after : List DotWorker} {conn : DotPooledConn}
    (position : s.workers = before ++ .fetching conn :: after)
    (more : s.counter < s.queries.length)
    (pool : PoolInvariant { s with
      counter := s.counter + 1
      workers := before ++ .attempting conn s.counter :: after }) :
    CallInvariant batch
      (actions ++ [.worker before.length (.fetching conn) .tau
        (.attempting conn s.counter)])
      { s with
        counter := s.counter + 1
        workers := before ++ .attempting conn s.counter :: after } := by
  have counts (test : DotWorker → Bool) :=
    countP_moved test before after (.fetching conn)
      (.attempting conn s.counter)
  rw [← position] at counts
  have finished : (before ++ .attempting conn s.counter :: after).countP
      (·.isFinished) = s.workers.countP (·.isFinished) :=
    counts (·.isFinished)
  have held (i : Nat) : (before ++ .attempting conn s.counter :: after).countP
      (·.holds i) = s.workers.countP (·.holds i) +
        (decide (s.counter = i)).toNat :=
    counts (·.holds i)
  have sameReplied : repliedQueries (actions ++ [.worker before.length
      (.fetching conn) .tau (.attempting conn s.counter)]) =
        repliedQueries actions :=
    (repliedQueries_concat _ _).trans (List.append_nil _)
  have sameEnded : endedWith (actions ++ [.worker before.length
      (.fetching conn) .tau (.attempting conn s.counter)]) =
        endedWith actions :=
    (endedWith_concat _ _).trans (List.append_nil _)
  constructor
  · exact pool
  · exact inv.queries
  · exact inv.calling
  · intro on
    have earlier := inv.taken on
    rw [min_eq_left more.le] at earlier
    simp only [takenQueries_concat, List.map_append, earlier]
    rw [min_eq_left more, List.range_succ]
    rfl
  · intro on some
    have noMore := inv.exhausted on (finished ▸ some)
    omega
  · intro i
    have earlier := inv.claimed i
    have none := inv.untouched i
    rw [sameReplied, held]
    by_cases isNext : s.counter = i
    · have untouched := none isNext.le
      rw [decide_eq_true isNext, Bool.toNat_true]
      omega
    · rw [decide_eq_false isNext, Bool.toNat_false]
      exact earlier
  · intro i above
    have none := inv.untouched i (Nat.le_of_succ_le above)
    have notNext : s.counter ≠ i := (Nat.lt_of_succ_le above).ne
    rw [sameReplied, held,
      decide_eq_false notNext, Bool.toNat_false]
    exact none
  · rw [sameEnded]
    exact inv.returned
  · rw [finished]
    exact inv.total
  · intro place
    have stays := @finishedAt_stays before after (.fetching conn)
      (.attempting conn s.counter) rfl place
    rw [sameEnded, inv.ended place, stays, position]

theorem leaves (inv : CallInvariant batch actions s)
    {before after : List DotWorker} {conn : DotPooledConn}
    (position : s.workers = before ++ .fetching conn :: after)
    (done : s.queries.length ≤ s.counter ∨ s.running = false)
    (pool : PoolInvariant { s with
      counter := s.counter + 1
      returned := s.returned ++ [conn]
      workers := before ++ .finished :: after }) :
    CallInvariant batch
      (actions ++ [.worker before.length (.fetching conn) .tau .finished])
      { s with
        counter := s.counter + 1
        returned := s.returned ++ [conn]
        workers := before ++ .finished :: after } := by
  have counts (test : DotWorker → Bool) :=
    countP_moved test before after (.fetching conn) .finished
  rw [← position] at counts
  have finished : (before ++ .finished :: after).countP (·.isFinished) =
      s.workers.countP (·.isFinished) + 1 :=
    counts (·.isFinished)
  have held (i : Nat) : (before ++ .finished :: after).countP (·.holds i) =
      s.workers.countP (·.holds i) :=
    counts (·.holds i)
  constructor
  · exact pool
  · exact inv.queries
  · exact inv.calling
  · intro on
    have none := done.resolve_right (by simpa using on)
    rw [takenQueries_concat, List.map_append, inv.taken on,
      min_eq_right none, min_eq_right (Nat.le_succ_of_le none)]
    exact List.append_nil _
  · intro on _
    exact Nat.le_succ_of_le (done.resolve_right (by simpa using on))
  · intro i
    rw [repliedQueries_concat, List.count_append, held]
    exact inv.claimed i
  · intro i above
    rw [repliedQueries_concat, List.count_append, held]
    exact inv.untouched i (Nat.le_of_succ_le above)
  · rw [endedWith_concat, List.map_append, inv.returned]
    rfl
  · rw [finished, List.length_append, inv.total]
    rfl
  · intro place
    have place_moved := finishedAt_moved before after (.fetching conn)
      .finished place
    rw [endedWith_concat, List.countP_append, inv.ended place, place_moved,
      position]
    by_cases atPlace : place = before.length
    · rw [if_pos atPlace, atPlace, finishedAt_self]
      simp [endedWith, DotWorker.isFinished]
    · rw [if_neg atPlace]
      simp [endedWith, Ne.symm atPlace]

theorem step (inv : CallInvariant batch actions s)
    (taken : CallStep build server s action next) :
    CallInvariant batch (actions ++ [action]) next := by
  have pool := inv.pool.step taken.step
  have inside := taken.inside
  obtain ⟨notWaiting, notReceiving⟩ := inv.calling
  cases taken.step with
  | @resolver _ event step own fromTx =>
      cases step with
      | loop atPhase => exact absurd atPhase notWaiting
      | timeout | reclaim => exact absurd rfl inside
      | batch items atPhase => exact absurd atPhase notReceiving
      | expand atPhase =>
          exact inv.resolver pool ⟨notWaiting, notReceiving⟩ rfl rfl rfl id
            (.inl rfl)
      | expandFails | expanded | spawnFails =>
          exact inv.resolver pool ⟨by simp, by simp⟩ rfl rfl rfl id
            (.inl rfl)
      | spawn | spawnFresh =>
          exact inv.resolver pool ⟨by simp, by simp⟩ rfl rfl rfl id
            (.inr ⟨_, rfl⟩)
      | work position step => exact absurd own (not_own_of_work position step)
      | stop =>
          exact inv.resolver pool ⟨notWaiting, notReceiving⟩ rfl rfl rfl
            (by simp) (.inl rfl)
  | @worker mid event before after worker moved position step =>
      cases step with
      | fetch more on => exact inv.fetches position more pool
      | leave done => exact inv.leaves position done pool
      | attempt | attemptFails | reconnect | retry | warm =>
          exact inv.moves position rfl pool rfl rfl rfl rfl rfl ⟨rfl, rfl⟩
            ⟨rfl, rfl⟩ fun i => le_rfl
      | reconnectFails | retryFails =>
          exact inv.moves position rfl pool rfl rfl rfl rfl rfl ⟨rfl, rfl⟩
            ⟨rfl, rfl⟩ fun i => Nat.zero_le _
      | @reply conn asked i item resp packet current built =>
          refine inv.moves position rfl pool rfl rfl rfl rfl rfl ⟨rfl, rfl⟩
            ⟨rfl, rfl⟩ fun j => ?_
          simp only [repliedQueries, DotWorker.holds]
          by_cases same : i = j <;> simp [same]
      | @replyPanics conn asked i item resp panic current panics =>
          -- the TX loop diverts no packet that is too short for a reply
          obtain ⟨left, atPhase⟩ := inv.pool.spawning (by simp [position])
          have pooled := inv.pool
          unfold PoolInvariant at pooled
          rw [atPhase] at pooled
          obtain ⟨reply, replyEq⟩ := (pooled.2.2 item
            (List.mem_of_getElem? current)).buildReply_eq_ok build resp
          rw [panics] at replyEq
          cases replyEq

theorem of_run {opened : DotState} (inv : PoolInvariant opened)
    (expanding : opened.phase = .expanding)
    (run : Run (CallStep build server) opened actions s) :
    CallInvariant opened.queries actions s :=
  run.history (initial inv expanding) fun inv taken => inv.step taken

end CallInvariant

/-- Between two calls, with a pool that is not too large. -/
structure DotState.Idle (s : DotState) : Prop where
  phase : s.phase = .waiting
  workers : s.workers = []
  returned : s.returned = []
  pool : s.dotConns.length ≤ maxPool

theorem DotState.Idle.poolInvariant (idle : s.Idle) : PoolInvariant s := by
  unfold PoolInvariant
  rw [idle.phase]
  exact ⟨idle.workers, idle.returned, idle.pool⟩

/-- What a call has done when it is over: `joined` is the state in which all
its workers have left, with one entry for every worker that was started. -/
structure CallAccounted (batch : List (Bytes × Bytes))
    (actions : List DotAction) (joined next : DotState) : Prop where
  /-- Every query is taken once, in order. -/
  taken : joined.running = true → joined.workers ≠ [] →
    (takenQueries actions).map Prod.snd = List.range batch.length
  replied : ∀ i, (repliedQueries actions).count i ≤ 1
  /-- Every worker ends with one connection. -/
  ended : ∀ position, (endedWith actions).countP (·.1 = position) =
    if position < joined.workers.length then 1 else 0
  pool : next.dotConns = (endedWith actions).map Prod.snd
  size : next.dotConns.length = joined.workers.length
  bounded : next.dotConns.length ≤ maxPool

/-- In any sequence of calls that starts with a pool of at most `MAX_POOL`
connections, every call takes each query of its batch once, answers none
twice, and gets back one connection from every worker. -/
theorem dotCall_accounted {start opened joined : DotState}
    {earlier : List DotAction} (idle : start.Idle)
    (before : Run (LoggedStep build server) start earlier opened)
    (expanding : opened.phase = .expanding)
    (call : Run (CallStep build server) opened actions joined)
    (closed : LoggedStep build server joined action next)
    (reclaimed : next.phase = .waiting) :
    CallAccounted opened.queries actions joined next := by
  have opens : PoolInvariant opened :=
    before.invariant idle.poolInvariant fun inv logged => inv.step logged
  have inv := CallInvariant.of_run opens expanding call
  obtain ⟨notWaiting, notReceiving⟩ := inv.calling
  cases closed with
  | @resolver _ event step own fromTx =>
      cases step with
      | loop | batch | expandFails | expanded | spawn | spawnFresh
      | spawnFails => simp at reclaimed
      | timeout atPhase => exact absurd atPhase notReceiving
      | expand | stop => exact absurd reclaimed notWaiting
      | work position step => exact absurd own (not_own_of_work position step)
      | reclaim atPhase allFinished =>
          have pooled := inv.pool
          unfold PoolInvariant at pooled
          rw [atPhase] at pooled
          obtain ⟨noneLeft, bounded, -⟩ := pooled
          have drained : joined.dotConns = [] :=
            List.length_eq_zero_iff.mp (Nat.le_zero.mp noneLeft)
          have finished : joined.workers.countP (·.isFinished) =
              joined.workers.length := by
            rw [List.countP_eq_length]
            exact fun worker member =>
              DotWorker.isFinished_iff.mpr (allFinished worker member)
          have size : joined.returned.length = joined.workers.length :=
            inv.total.trans finished
          have whole : (joined.dotConns ++ joined.returned).take maxPool =
              joined.returned := by
            rw [drained, List.nil_append]
            exact List.take_of_length_le (by omega)
          refine
            { taken := ?_
              replied := fun i => (Nat.le_add_left _ _).trans (inv.claimed i)
              ended := ?_
              pool := whole.trans inv.returned
              size := (congrArg List.length whole).trans size
              bounded := by simp only [whole]; omega }
          · intro on started
            have some := List.length_pos_iff.mpr started
            have noMore := inv.exhausted on (finished ▸ some)
            rw [inv.taken on, min_eq_right noMore, inv.queries]
          · intro position
            rw [inv.ended, finishedAt]
            split
            · rename_i inside
              rw [List.getElem?_eq_getElem inside, Option.any_some,
                DotWorker.isFinished_iff.mpr
                  (allFinished _ (List.getElem_mem inside))]
              rfl
            · rename_i outside
              rw [List.getElem?_eq_none (Nat.not_lt.mp outside)]
              rfl
  | worker position step =>
      obtain ⟨phaseEq, -⟩ := DotInvariant.workerStep_frame step
      exact absurd (phaseEq.symm.trans reclaimed) notWaiting

end Call

/-- A single query whose exchange times out: its worker gives back the
connection, and the pool holds it. -/
theorem lookup_accounted :
    ∃ actions joined next,
      CallAccounted [lookupItem 1] actions joined next ∧
      (takenQueries actions).map Prod.snd = [0] ∧
      next.dotConns.length = 1 := by
  have loop := Run.nil.snoc (LoggedStep.resolver
    (@DotStep.loop .debug echoServer .initial rfl rfl) (.inl rfl)
    (fun _ expanding => by simp at expanding))
  have opened := loop.snoc (LoggedStep.resolver
    (.batch [lookupItem 1] rfl (by simp) (by simpa using lookupItem_short 1))
    (.inl rfl) (fun _ _ item member =>
      List.mem_singleton.mp member ▸ (lookup 1).intercepted))
  have expanded := ((Run.nil.snoc (CallStep.mk (LoggedStep.resolver
    (@DotStep.expand .debug echoServer
      { DotState.initial with
        phase := .expanding, queries := [lookupItem 1] } rfl
      (show 0 < min 4 1 by decide)) (.inl rfl)
    (fun atPhase => by simp at atPhase)) (by simp))).snoc
    (CallStep.mk (LoggedStep.resolver
      (.expanded rfl (show min 4 1 ≤ 1 by decide)) (.inl rfl)
      (fun atPhase => by simp at atPhase)) (by simp)))
  have spawned := expanded.snoc (CallStep.mk (LoggedStep.resolver
    (@DotStep.spawn .debug echoServer _ 0 [] (.fresh 0) rfl rfl)
    (.inr (.inl ⟨_, rfl⟩)) (fun atPhase => by simp at atPhase)) (by simp))
  have work {actions : List DotAction} {s mid : DotState} {event : DotEvent}
      {worker moved : DotWorker} {opened : DotState}
      (run : Run (CallStep .debug echoServer) opened actions s)
      (only : s.workers = [worker])
      (step : WorkerStep .debug echoServer s worker event mid moved)
      (inside : mid.phase ≠ .waiting) :
      Run (CallStep .debug echoServer) opened
        (actions ++ [.worker 0 worker event moved])
        { mid with workers := [moved] } :=
    run.snoc ⟨@LoggedStep.worker .debug echoServer _ _ _ [] [] _ _ only step,
      inside⟩
  have taken := work spawned rfl (.fetch (show 0 < 1 by decide) rfl) (by simp)
  have failed := work taken rfl
    (.attemptFails _ rfl (dotQueryPooled_timeout echoServer _ _)) (by simp)
  have kept := work failed rfl .reconnectFails (by simp)
  have left := work kept rfl (.leave (.inl (show 1 ≤ 1 by decide))) (by simp)
  have account := dotCall_accounted ⟨rfl, rfl, rfl, by decide⟩ opened rfl left
    (LoggedStep.resolver (.reclaim rfl (by simp)) (.inr (.inr rfl))
      (fun atPhase => by simp at atPhase)) rfl
  exact ⟨_, _, _, account, account.taken rfl (by simp), account.size⟩

end AndroidTether
