import AndroidTether.IpcServer
import AndroidTether.Transition

/-!
# The clients of the IPC server

Which accepted clients stay in `clients`.  `poll` drops a client for every
result of `read_line` but a line, so also when nothing has arrived yet, and
when a line has not arrived whole.
-/

namespace AndroidTether

namespace IpcServer

/-- `poll` has accepted the connection. -/
def Accepted (s : IpcServer) (id : Nat) : Prop :=
  id < s.connections ∧ id ∉ s.backlog

/-- The condition on the state that a poll finds: either it only returns a
command, or each client that it reads from has a complete line for it or has
ended its stream. -/
def FindsInput (s : IpcServer) : Prop :=
  (∃ command, s.flag command = true) ∨
    ∀ id ∈ s.accept.clients,
      newline ∈ (s.sockets id).inbox ∨ (s.sockets id).ending ≠ none

end IpcServer

/-- An operation on the client fails, other than for want of data. -/
def IpcEvent.Fails (id : Nat) : IpcEvent → Prop
  | .polled _ reads => reads id = some .failed
  | .sent _ writes => writes id = some .notCloned
  | .connected _ | .received .. | .ended .. => False

/-- What is asked of the registry at some point of a run. -/
structure Registered (serde : SerdeJson) (trace : List IpcEvent)
    (s : IpcServer) : Prop where
  kept : ∀ id, s.Accepted id → id ∈ s.clients ∨
    .ended id .closed ∈ trace ∨ ∃ event ∈ trace, event.Fails id
  /-- The next broadcast is offered to every client in the list. -/
  offered : ∀ data writes next, IpcStep serde s (.sent data writes) next →
    ∀ id ∈ s.clients, (writes id).isSome

section

variable {serde : SerdeJson} {s next : IpcServer} {event : IpcEvent}
  {id : Nat}

theorem dropped_of_fails (ordered : s.Ordered)
    (taken : IpcStep serde s event next) (fails : event.Fails id) :
    s.Connected id ∧ ¬ next.Connected id := by
  cases event with
  | connected | received | ended => cases fails
  | polled command reads =>
      have failed : reads id = some .failed := fails
      rcases taken.poll_cases with ⟨-, rfl, -⟩ | ⟨-, -, rfl, rfl⟩
      · cases failed
      · by_cases served : id ∈ s.accept.clients
        · rw [IpcServer.reads, if_pos served, Option.some.injEq] at failed
          refine ⟨IpcServer.accept_connected.mp (.inr served), ?_⟩
          rintro (waiting | kept)
          · exact ordered.accept.not_waiting served waiting
          · rw [IpcServer.mem_readClients, failed] at kept
            exact absurd kept.2 (by decide)
        · rw [IpcServer.reads, if_neg served] at failed
          cases failed
  | sent data writes =>
      have written : writes id = some .notCloned := fails
      cases taken with
      | send message offered fits =>
          have served : id ∈ s.clients := (offered id).mp (by simp [written])
          refine ⟨.inr served, ?_⟩
          rintro (waiting | kept)
          · exact ordered.not_waiting served waiting
          · have stays := List.of_mem_filter kept
            simp [written] at stays

/-- A reading poll keeps a client, or there is a reason in its socket. -/
theorem read_cases (served : id ∈ s.accept.clients) :
    id ∈ (s.accept.readClients serde).clients ∨
      (s.sockets id).ending = some .closed ∨
      s.accept.reads id = some .failed ∨
      (newline ∉ (s.sockets id).inbox ∧ (s.sockets id).ending = none) := by
  have socketEq : s.accept.sockets id = s.sockets id := by
    rw [IpcServer.accept_sockets]
  rcases (s.sockets id).readLine_cases with
    ⟨line, isLine⟩ | ⟨-, closed⟩ | ⟨-, absent, opened⟩ | ⟨failed, -⟩
  · refine .inl ((IpcServer.mem_readClients serde).mpr ⟨served, ?_⟩)
    rw [socketEq, isLine]
    rfl
  · exact .inr (.inl closed)
  · exact .inr (.inr (.inr ⟨absent, opened⟩))
  · refine .inr (.inr (.inl ?_))
    rw [IpcServer.reads, if_pos served, socketEq, failed]

/-- The record of the endings and failures in a run. -/
structure IpcHistory (trace : List IpcEvent) (s : IpcServer) : Prop where
  ordered : s.Ordered
  ended : ∀ id ending, .ended id ending ∈ trace →
    id < s.connections ∧ (s.sockets id).ending = some ending
  recorded : ∀ id ending, (s.sockets id).ending = some ending →
    .ended id ending ∈ trace
  failed : ∀ id, (∃ event ∈ trace, event.Fails id) →
    id < s.connections ∧ ¬ s.Connected id

namespace IpcHistory

variable {trace : List IpcEvent}

theorem new : IpcHistory [] .new where
  ordered := .new
  ended _ _ member := absurd member List.not_mem_nil
  recorded _ _ isEnded := by simp [IpcServer.new] at isEnded
  failed _ failing := by simp at failing

theorem step (known : IpcHistory trace s)
    (taken : IpcStep serde s event next) :
    IpcHistory (trace ++ [event]) next where
  ordered := known.ordered.step taken
  ended id ending member := by
    rcases List.mem_append.mp member with before | isLast
    · obtain ⟨made, isEnded⟩ := known.ended id ending before
      exact ⟨made.trans_le taken.connections_le,
        taken.ending_stays made isEnded⟩
    · cases List.mem_singleton.mp isLast
      cases taken with
      | finish ending connected =>
          exact ⟨known.ordered.made id connected,
            by simp [IpcServer.setSocket]⟩
  recorded id ending isEnded := by
    rcases taken.ended_of_ending isEnded with before | rfl
    · exact List.mem_append_left _ (known.recorded id ending before)
    · exact List.mem_append_right _ (List.mem_singleton_self _)
  failed id failing := by
    obtain ⟨failure, member, fails⟩ := failing
    rcases List.mem_append.mp member with before | isLast
    · obtain ⟨made, absent⟩ := known.failed id ⟨failure, before, fails⟩
      refine ⟨made.trans_le taken.connections_le, fun connected => ?_⟩
      rcases taken.connected connected with earlier | isNew
      · exact absent earlier
      · exact made.ne isNew
    · cases List.mem_singleton.mp isLast
      obtain ⟨connected, dropped⟩ := dropped_of_fails known.ordered taken fails
      exact ⟨(known.ordered.made id connected).trans_le taken.connections_le,
        dropped⟩

theorem of_run (run : Run (IpcStep serde) .new trace s) :
    IpcHistory trace s :=
  run.history new fun known taken => known.step taken

end IpcHistory

/-- A client has left for a reason that is not the server's. -/
def ClientExcused (trace : List IpcEvent) (id : Nat) : Prop :=
  .ended id .closed ∈ trace ∨ ∃ event ∈ trace, event.Fails id

theorem ClientExcused.concat {trace : List IpcEvent} (excused : ClientExcused trace id) :
    ClientExcused (trace ++ [event]) id := by
  rcases excused with closed | ⟨failure, member, fails⟩
  · exact .inl (List.mem_append_left _ closed)
  · exact .inr ⟨failure, List.mem_append_left _ member, fails⟩

theorem clientExcused_concat {trace : List IpcEvent}
    (excused : ClientExcused (trace ++ [event]) id) :
    ClientExcused trace id ∨ event = .ended id .closed ∨ event.Fails id := by
  rcases excused with closed | ⟨failure, member, fails⟩
  · rcases List.mem_append.mp closed with before | isLast
    · exact .inl (.inl before)
    · exact .inr (.inl (List.mem_singleton.mp isLast).symm)
  · rcases List.mem_append.mp member with before | isLast
    · exact .inl (.inr ⟨failure, before, fails⟩)
    · exact .inr (.inr (List.mem_singleton.mp isLast ▸ fails))

theorem registered_of_kept {trace : List IpcEvent}
    (kept : ∀ id, s.Accepted id → id ∈ s.clients ∨ ClientExcused trace id) :
    Registered serde trace s where
  kept := kept
  offered data writes next taken id served := by
    cases taken with
    | send message offered fits => exact (offered id).mpr served

namespace Registered

variable {trace : List IpcEvent}

/-- A step that finds input keeps the registry. -/
theorem step (registered : Registered serde trace s)
    (known : IpcHistory trace s) (taken : IpcStep serde s event next)
    (finds : ∀ command reads, event = .polled command reads → s.FindsInput) :
    Registered serde (trace ++ [event]) next := by
  refine registered_of_kept fun id accepted => ?_
  have before (acceptedBefore : s.Accepted id) :
      id ∈ s.clients ∨ ClientExcused (trace ++ [event]) id :=
    (registered.kept id acceptedBefore).imp_right ClientExcused.concat
  cases event with
  | connected other =>
      cases taken
      obtain ⟨made, notWaiting⟩ := accepted
      simp only [List.mem_append, List.mem_singleton, not_or] at notWaiting
      exact before ⟨Nat.lt_of_le_of_ne (Nat.le_of_lt_succ made) notWaiting.2,
        notWaiting.1⟩
  | received | ended =>
      cases taken
      exact before accepted
  | polled command reads =>
      rcases taken.poll_cases with ⟨-, -, rfl⟩ | ⟨clear, -, rfl, rfl⟩
      · rw [IpcServer.Accepted, IpcServer.clear_connections,
          IpcServer.clear_backlog] at accepted
        rw [IpcServer.clear_clients]
        exact before accepted
      · by_cases served : id ∈ s.accept.clients
        · rcases read_cases served with
            kept | closed | failed | ⟨absent, opened⟩
          · exact .inl kept
          · exact .inr (ClientExcused.concat (.inl (known.recorded id _ closed)))
          · exact .inr (.inr ⟨_, List.mem_concat_self, failed⟩)
          · rcases finds _ _ rfl with ⟨flag, isSet⟩ | all
            · rw [clear flag] at isSet
              cases isSet
            · rcases all id served with present | hasEnded
              · exact absurd present absent
              · exact absurd opened hasEnded
        · have gone : ¬ s.Connected id := fun connected =>
            (IpcServer.accept_connected.mpr connected).elim accepted.2 served
          have made : id < s.connections :=
            IpcServer.accept_connections (s := s) ▸ accepted.1
          rcases before ⟨made, fun waiting => gone (.inl waiting)⟩ with
            stays | excused
          · exact absurd (.inr stays) gone
          · exact .inr excused
  | sent data writes =>
      cases taken
      rcases before accepted with stays | excused
      · by_cases fails : writes id = some .notCloned
        · exact .inr (.inr ⟨_, List.mem_concat_self, fails⟩)
        · exact .inl (List.mem_filter.mpr ⟨stays, by simpa using fails⟩)
      · exact .inr excused

/-- The registry does not recover. -/
theorem of_step (known : IpcHistory trace s)
    (taken : IpcStep serde s event next)
    (registered : Registered serde (trace ++ [event]) next) :
    Registered serde trace s := by
  refine registered_of_kept fun id accepted => ?_
  have ofConnected (connected : s.Connected id) :
      id ∈ s.clients ∨ ClientExcused trace id :=
    .inl (connected.resolve_left accepted.2)
  have acceptedNext : next.Accepted id := by
    refine ⟨accepted.1.trans_le taken.connections_le, fun waiting => ?_⟩
    rcases taken.waiting waiting with before | isNew
    · exact accepted.2 before
    · exact accepted.1.ne isNew
  rcases registered.kept id acceptedNext with stays | excused
  · rcases taken.connected (.inr stays) with connected | isNew
    · exact ofConnected connected
    · exact absurd isNew accepted.1.ne
  · rcases clientExcused_concat excused with before | rfl | fails
    · exact .inr before
    · cases taken with
      | finish ending connected => exact ofConnected connected
    · exact ofConnected (dropped_of_fails known.ordered taken fails).1

/-- A poll that does not find input loses a client. -/
theorem findsInput {command : IpcCommand} {reads : Nat → Option IpcRead}
    (known : IpcHistory trace s)
    (taken : IpcStep serde s (.polled command reads) next)
    (registered : Registered serde (trace ++ [.polled command reads]) next) :
    s.FindsInput := by
  by_contra missing
  simp only [IpcServer.FindsInput, not_or, not_exists, not_forall,
    not_not] at missing
  obtain ⟨noFlag, id, served, absent, opened⟩ := missing
  rcases taken.poll_cases with ⟨isSet, -⟩ | ⟨-, -, rfl, rfl⟩
  · exact noFlag command isSet
  have socketEq : s.accept.sockets id = s.sockets id := by
    rw [IpcServer.accept_sockets]
  have readEq : (s.sockets id).readLine.1 = .wouldBlock := by
    rw [IpcSocket.readLine, if_neg absent, opened]
  have connected := IpcServer.accept_connected.mp (.inr served)
  have accepted : (s.accept.readClients serde).Accepted id :=
    ⟨known.ordered.accept.made id (.inr served),
      known.ordered.accept.not_waiting served⟩
  rcases registered.kept id accepted with stays | excused
  · rw [IpcServer.mem_readClients, socketEq, readEq] at stays
    exact absurd stays.2 (by decide)
  · rcases clientExcused_concat excused with (closed | failed) | isEnded | fails
    · have isClosed := (known.ended id _ closed).2
      rw [opened] at isClosed
      cases isClosed
    · exact (known.failed id failed).2 connected
    · cases isEnded
    · have failed : s.accept.reads id = some .failed := fails
      rw [IpcServer.reads, if_pos served, socketEq, readEq] at failed
      cases failed

end Registered

end

/-- In every run the registry is as it should be exactly if every poll finds
input at every client that it reads from. -/
theorem registered_iff {serde : SerdeJson}
    {history : List (Taken IpcServer IpcEvent)} {s : IpcServer}
    (run : Run (Recorded (IpcStep serde)) .new history s) :
    Registered serde (history.map Taken.label) s ↔
      ∀ taken ∈ history, ∀ command reads,
        taken.label = .polled command reads → taken.before.FindsInput := by
  induction run with
  | nil =>
      refine ⟨fun _ _ member => absurd member List.not_mem_nil, fun _ => ?_⟩
      exact registered_of_kept fun id accepted =>
        absurd accepted.1 (Nat.not_lt_zero id)
  | snoc run recorded ih =>
      have known := IpcHistory.of_run (Recorded.forget run)
      obtain ⟨step⟩ := recorded
      rw [List.map_append]
      constructor
      · intro registered taken member command reads labelEq
        rcases List.mem_append.mp member with earlier | isLast
        · exact ih.mp (registered.of_step known step) taken earlier command
            reads labelEq
        · cases List.mem_singleton.mp isLast
          cases labelEq
          exact registered.findsInput known step
      · intro finds
        have before := ih.mpr fun taken earlier =>
          finds taken (List.mem_append_left _ earlier)
        exact before.step known step fun command reads labelEq =>
          finds _ List.mem_concat_self command reads labelEq

/-- A client that only listens is dropped by the poll that accepts it. -/
theorem not_registered : ¬ ∀ trace s,
    Run (IpcStep fewMessages) .new trace s → Registered fewMessages trace s := by
  intro registered
  have run := Run.single connectedOnce_step
  have polled : IpcStep fewMessages .connectedOnce _ _ := .poll rfl
  rcases (registered _ _ (run.snoc polled)).findsInput (.of_run run) polled with
    ⟨flag, isSet⟩ | all
  · cases flag <;> cases isSet
  · exact absurd (all 0 (by decide)) (by decide)

/-- A client whose command is there when it is accepted stays. -/
theorem commandFirst_registered :
    ∃ (history : List (Taken IpcServer IpcEvent)) (s : IpcServer),
      Registered fewMessages (history.map Taken.label) s ∧
        s.Accepted 0 ∧ 0 ∈ s.clients ∧ s.stopRequested = true := by
  have run := ((Run.single (Recorded.mk connectedOnce_step)).snoc
    (.mk commandedOnce_step)).snoc (.mk servingOnce_step)
  refine ⟨_, _, (registered_iff run).mpr ?_, ⟨by decide, by decide⟩,
    by decide, by decide⟩
  intro taken member command reads labelEq
  simp only [List.cons_append, List.nil_append,
    List.mem_cons, List.not_mem_nil, or_false] at member
  rcases member with rfl | rfl | rfl
  · cases labelEq
  · cases labelEq
  · refine .inr fun id served => .inl ?_
    obtain rfl : id = 0 := by
      simpa [IpcServer.accept, IpcServer.commandedOnce, IpcServer.setSocket,
        IpcServer.connectedOnce, IpcServer.new] using served
    decide

end AndroidTether
