import AndroidTether.IpcDelivery
import AndroidTether.IpcOutput
import Mathlib.Data.List.Infix

/-!
# What passes between the IPC server and its clients

A client in the list has been offered every broadcast since it was accepted,
and none before.  A command that `poll` returns stands in what some client has
sent, up to a newline or to the end of the stream.
-/

namespace AndroidTether

section

variable {serde : SerdeJson} {trace : List IpcEvent} {s next : IpcServer}
  {event : IpcEvent}

/-- The messages that a client was offered. -/
def offers (id : Nat) (trace : List IpcEvent) : List Bytes :=
  (pieces id trace).map IpcPiece.data

theorem offers_append (id : Nat) (earlier later : List IpcEvent) :
    offers id (earlier ++ later) = offers id earlier ++ offers id later := by
  rw [offers, pieces_append, List.map_append]
  rfl

/-- A poll that reads from the client. -/
def IpcEvent.ReadsFrom (id : Nat) : IpcEvent → Prop
  | .polled _ reads => (reads id).isSome
  | .connected _ | .received .. | .ended .. | .sent .. => False

/-- The client was accepted, and offered every broadcast since then. -/
def Subscribed (id : Nat) (trace : List IpcEvent) : Prop :=
  ∃ earlier reads later, trace = earlier ++ .polled .none reads :: later ∧
    (reads id).isSome ∧ (∀ event ∈ earlier, ¬ event.ReadsFrom id) ∧
    offers id trace = broadcasts later

theorem Subscribed.append {id : Nat} {later : List IpcEvent}
    (subscribed : Subscribed id trace)
    (offered : offers id later = broadcasts later) :
    Subscribed id (trace ++ later) := by
  obtain ⟨earlier, reads, since, rfl, isRead, first, offersEq⟩ := subscribed
  refine ⟨earlier, reads, since ++ later, by simp, isRead, first, ?_⟩
  rw [offers_append, offersEq, offered, broadcasts_append]

/-- The broadcasts that each client has been offered so far. -/
structure OffersAll (trace : List IpcEvent) (s : IpcServer) : Prop where
  ordered : s.Ordered
  /-- A connection that is not accepted yet has been offered nothing. -/
  waiting : ∀ id, s.connections ≤ id ∨ id ∈ s.backlog →
    offers id trace = [] ∧ ∀ event ∈ trace, ¬ event.ReadsFrom id
  served : ∀ id ∈ s.clients, Subscribed id trace

namespace OffersAll

theorem new : OffersAll [] .new where
  ordered := .new
  waiting _ _ := ⟨rfl, fun _ member => absurd member List.not_mem_nil⟩
  served _ member := absurd member List.not_mem_nil

theorem not_served {id : Nat} (ordered : s.Ordered)
    (isWaiting : s.connections ≤ id ∨ id ∈ s.backlog) : id ∉ s.clients := by
  intro served
  rcases isWaiting with unmade | waiting
  · exact absurd (ordered.made id (.inr served)) (Nat.not_lt_of_le unmade)
  · exact ordered.not_waiting served waiting

/-- A step that does not concern a connection that waits. -/
theorem waits (offered : OffersAll trace s) {id : Nat}
    (isWaiting : s.connections ≤ id ∨ id ∈ s.backlog)
    (noOffer : offers id [event] = []) (noRead : ¬ event.ReadsFrom id) :
    offers id (trace ++ [event]) = [] ∧
      ∀ other ∈ trace ++ [event], ¬ other.ReadsFrom id := by
  obtain ⟨nothing, unread⟩ := offered.waiting id isWaiting
  rw [offers_append, nothing, noOffer]
  refine ⟨rfl, fun other member => ?_⟩
  rcases List.mem_append.mp member with before | isLast
  · exact unread other before
  · rw [List.mem_singleton.mp isLast]
    exact noRead

theorem quiet (offered : OffersAll trace s) (ordered : next.Ordered)
    (nothing : ∀ id, offers id [event] = []) (silent : broadcasts [event] = [])
    (unread : ∀ id, ¬ event.ReadsFrom id)
    (waiting : ∀ id, next.connections ≤ id ∨ id ∈ next.backlog →
      s.connections ≤ id ∨ id ∈ s.backlog)
    (served : next.clients = s.clients) :
    OffersAll (trace ++ [event]) next where
  ordered := ordered
  waiting id isWaiting :=
    offered.waits (waiting id isWaiting) (nothing id) (unread id)
  served id member := by
    rw [served] at member
    apply (offered.served id member).append
    rw [nothing, silent]

theorem broadcast (offered : OffersAll trace s) {data : Bytes}
    {writes : Nat → Option IpcWrite}
    (taken : IpcStep serde s (.sent data writes) next) :
    OffersAll (trace ++ [.sent data writes]) next := by
  have ordered := offered.ordered.step taken
  cases taken with
  | send message isOffered fits =>
      refine ⟨ordered, ?_, ?_⟩
      · intro id isWaiting
        have noWrite : writes id = none := Option.not_isSome_iff_eq_none.mp
          (mt (isOffered id).mp (not_served offered.ordered isWaiting))
        have noPiece : IpcEvent.piece id (.sent data writes) = none := by
          rw [IpcEvent.piece, noWrite]
        refine offered.waits isWaiting ?_ not_false
        rw [offers, pieces_singleton_of_none noPiece]
        rfl
      · intro id kept
        obtain ⟨served, notDropped⟩ := List.mem_filter.mp kept
        obtain ⟨write, isWrite⟩ :=
          Option.isSome_iff_exists.mp ((isOffered id).mpr served)
        have isPiece : ∃ count, IpcEvent.piece id (.sent data writes) =
            some ⟨data, count⟩ := by
          rw [IpcEvent.piece, isWrite]
          cases write with
          | taken count => exact ⟨count, rfl⟩
          | notCloned => simp [isWrite] at notDropped
        obtain ⟨count, isPiece⟩ := isPiece
        apply (offered.served id served).append
        rw [offers, pieces_singleton_of_piece isPiece]
        rfl

theorem poll (offered : OffersAll trace s) {command : IpcCommand}
    {reads : Nat → Option IpcRead}
    (taken : IpcStep serde s (.polled command reads) next) :
    OffersAll (trace ++ [.polled command reads]) next := by
  have ordered := offered.ordered.step taken
  rcases taken.poll_cases with ⟨-, rfl, rfl⟩ | ⟨-, rfl, rfl, rfl⟩
  · refine offered.quiet ordered (fun _ => rfl) rfl (fun _ => by
      simp [IpcEvent.ReadsFrom]) ?_ IpcServer.clear_clients
    intro id isWaiting
    rwa [IpcServer.clear_connections, IpcServer.clear_backlog] at isWaiting
  refine ⟨ordered, ?_, ?_⟩
  · intro id isWaiting
    have notServed : id ∉ s.accept.clients :=
      not_served offered.ordered.accept isWaiting
    refine offered.waits ?_ rfl ?_
    · exact isWaiting.imp (IpcServer.accept_connections (s := s)).ge.trans
        fun waiting => IpcServer.accept_backlog_suffixOf.subset waiting
    · simp [IpcEvent.ReadsFrom, IpcServer.reads, notServed]
  · intro id kept
    have accepted := ((IpcServer.mem_readClients serde).mp kept).1
    by_cases served : id ∈ s.clients
    · exact (offered.served id served).append rfl
    · have waiting : id ∈ s.backlog :=
        (IpcServer.accept_connected.mp (.inr accepted)).resolve_right served
      obtain ⟨nothing, unread⟩ := offered.waiting id (.inr waiting)
      refine ⟨trace, _, [], rfl, ?_, unread, ?_⟩
      · simp [IpcServer.reads, accepted]
      · rw [offers_append, nothing]
        rfl

theorem step (offered : OffersAll trace s)
    (taken : IpcStep serde s event next) :
    OffersAll (trace ++ [event]) next := by
  have ordered := offered.ordered.step taken
  cases event with
  | sent data writes => exact offered.broadcast taken
  | polled command reads => exact offered.poll taken
  | connected id =>
      cases taken
      refine offered.quiet ordered (fun _ => rfl) rfl (fun _ => not_false) ?_
        rfl
      intro id isWaiting
      rcases isWaiting with unmade | waiting
      · exact .inl (Nat.le_of_succ_le unmade)
      · rcases List.mem_append.mp waiting with before | isNew
        · exact .inr before
        · exact .inl (List.mem_singleton.mp isNew).ge
  | received | ended =>
      cases taken
      exact offered.quiet ordered (fun _ => rfl) rfl (fun _ => not_false)
        (fun _ waiting => waiting) rfl

theorem of_run (run : Run (IpcStep serde) .new trace s) : OffersAll trace s :=
  run.history new fun offered taken => offered.step taken

end OffersAll

/-- A client that has taken every message whole has their bytes, one after the
other. -/
theorem outputStream_of_whole {id : Nat}
    (whole : ∀ piece ∈ pieces id trace, piece.data.length ≤ piece.count) :
    outputStream id trace = (offers id trace).flatten := by
  rw [outputStream, offers, ← List.flatMap_def]
  apply List.flatMap_congr
  intro piece member
  exact List.take_of_length_le (whole piece member)

/-- What `read_line` returns is the first line of what has arrived, or all of
it at the end of the stream. -/
theorem IpcSocket.readLine_line {socket : IpcSocket} {line : Bytes}
    (isLine : socket.readLine.1 = .line line) :
    (newline ∈ socket.inbox ∧ line = firstLine socket.inbox) ∨
      (newline ∉ socket.inbox ∧ socket.ending = some .closed ∧
        line = socket.inbox) := by
  have text {bytes : Bytes} (isText : textLine bytes = .line line) :
      line = bytes := by
    unfold textLine at isText
    split at isText
    · cases isText
      rfl
    · cases isText
  unfold readLine at isLine
  split at isLine
  · exact .inl ⟨‹_›, text isLine⟩
  · rename_i absent
    right
    split at isLine
    · cases isLine
    · dsimp only at isLine
      split at isLine
      · cases isLine
      · exact ⟨absent, ‹_›, text isLine⟩
    · cases isLine

theorem IpcSocket.readLine_rest (socket : IpcSocket) :
    socket.readLine.2 <:+ socket.inbox := by
  unfold readLine
  split
  · exact List.drop_suffix _ _
  · split <;> exact List.nil_suffix

/-- A client has sent the line: its bytes up to a newline, or all that was left
when it closed. -/
def SentLine (id : Nat) (trace : List IpcEvent) (line : Bytes) : Prop :=
  (line <:+: receivedBytes id trace ∧
    ∃ text, line = text ++ [newline] ∧ newline ∉ text) ∨
  (newline ∉ line ∧ ∃ earlier later,
    trace = earlier ++ .ended id .closed :: later ∧
      line <:+ receivedBytes id earlier)

def Commanded (serde : SerdeJson) (trace : List IpcEvent)
    (command : IpcCommand) : Prop :=
  ∃ id line, SentLine id trace line ∧ serde.command line = some command

theorem receivedBytes_grow (id : Nat) (earlier later : List IpcEvent) :
    receivedBytes id earlier <+: receivedBytes id (earlier ++ later) := by
  rw [receivedBytes_append]
  exact List.prefix_append _ _

theorem SentLine.append {id : Nat} {line : Bytes}
    (sent : SentLine id trace line) (later : List IpcEvent) :
    SentLine id (trace ++ later) line := by
  rcases sent with ⟨isPart, isLine⟩ | ⟨absent, earlier, behind, rfl, isLast⟩
  · exact .inl ⟨isPart.trans (receivedBytes_grow id trace later).isInfix,
      isLine⟩
  · exact .inr ⟨absent, earlier, behind ++ later, by simp, isLast⟩

theorem Commanded.append {command : IpcCommand}
    (commanded : Commanded serde trace command) (later : List IpcEvent) :
    Commanded serde (trace ++ later) command := by
  obtain ⟨id, line, sent, isCommand⟩ := commanded
  exact ⟨id, line, sent.append later, isCommand⟩

theorem firstLine_eq {inbox : Bytes} (member : newline ∈ inbox) :
    ∃ text, firstLine inbox = text ++ [newline] ∧ newline ∉ text := by
  obtain ⟨text, rest, rfl, absent⟩ := List.eq_append_cons_of_mem member
  have indexEq : (text ++ newline :: rest).idxOf newline = text.length := by
    rw [List.idxOf_append_of_notMem absent, List.idxOf_cons_self,
      Nat.add_zero]
  refine ⟨text, ?_, absent⟩
  rw [firstLine, indexEq, List.take_append, List.take_of_length_le (by omega),
    Nat.add_sub_cancel_left]
  rfl

/-- What can still be read of a client: the end of what has arrived, and of
what had arrived when the client closed. -/
structure Unread (trace : List IpcEvent) (s : IpcServer) (id : Nat) :
    Prop where
  inbox : (s.sockets id).inbox <:+ receivedBytes id trace
  closed : (s.sockets id).ending = some .closed →
    ∃ earlier later, trace = earlier ++ .ended id .closed :: later ∧
      (s.sockets id).inbox <:+ receivedBytes id earlier

theorem Unread.sentLine {id : Nat} {line : Bytes} (unread : Unread trace s id)
    (isLine : (s.sockets id).readLine.1 = .line line) :
    SentLine id trace line := by
  rcases IpcSocket.readLine_line isLine with
    ⟨member, rfl⟩ | ⟨absent, isClosed, rfl⟩
  · exact .inl ⟨(List.take_prefix _ _).isInfix.trans unread.inbox.isInfix,
      firstLine_eq member⟩
  · exact .inr ⟨absent, unread.closed isClosed⟩

theorem Unread.accept {id : Nat} (unread : Unread trace s id) :
    Unread trace s.accept id := by
  refine ⟨?_, ?_⟩ <;> rw [IpcServer.accept_sockets]
  · exact unread.inbox
  · exact unread.closed

/-- The clients have sent what a reading poll finds. -/
theorem commanded_of_requested {command : IpcCommand}
    (unread : ∀ id, Unread trace s id)
    (isRequested : s.requested serde command = true) :
    Commanded serde trace command := by
  obtain ⟨id, -, isCommand⟩ := List.any_eq_true.mp isRequested
  cases readEq : (s.sockets id).readLine.1 with
  | line line =>
      simp only [readEq, decide_eq_true_eq] at isCommand
      exact ⟨id, line, (unread id).sentLine readEq, isCommand⟩
  | eof | wouldBlock | failed => simp [readEq] at isCommand

theorem accept_flag (command : IpcCommand) :
    s.accept.flag command = s.flag command := by
  unfold IpcServer.accept
  split <;> cases command <;> rfl

/-- What is unread and what is set was sent by the clients. -/
structure SentByClients (serde : SerdeJson) (trace : List IpcEvent)
    (s : IpcServer) : Prop where
  unread : ∀ id, Unread trace s id
  flagged : ∀ command, s.flag command = true → Commanded serde trace command

namespace SentByClients

theorem new : SentByClients serde [] .new where
  unread _ := ⟨List.nil_suffix, fun isClosed => by cases isClosed⟩
  flagged command isSet := by
    cases command <;> cases isSet

/-- A step with which nothing arrives and no flag is set. -/
theorem quiet (sent : SentByClients serde trace s)
    (nothing : ∀ id, event.bytes id = [])
    (inbox : ∀ id, (next.sockets id).inbox <:+ (s.sockets id).inbox)
    (ending : ∀ id, (next.sockets id).ending = some .closed →
      (s.sockets id).ending = some .closed ∨ event = .ended id .closed)
    (flagged : ∀ command, next.flag command = true →
      s.flag command = true ∨ Commanded serde trace command) :
    SentByClients serde (trace ++ [event]) next where
  unread id := by
    refine ⟨?_, fun isClosed => ?_⟩
    · rw [receivedBytes_append, receivedBytes_singleton, nothing,
        List.append_nil]
      exact (inbox id).trans (sent.unread id).inbox
    · rcases ending id isClosed with before | rfl
      · obtain ⟨earlier, later, rfl, isLast⟩ := (sent.unread id).closed before
        exact ⟨earlier, later ++ [event], by simp, (inbox id).trans isLast⟩
      · exact ⟨trace, [], rfl, (inbox id).trans (sent.unread id).inbox⟩
  flagged command isSet :=
    ((flagged command isSet).elim (sent.flagged command) fun commanded =>
      commanded).append [event]

theorem receive (sent : SentByClients serde trace s) {other : Nat}
    {bytes : Bytes} (opened : (s.sockets other).ending = none) :
    SentByClients serde (trace ++ [.received other bytes])
      (s.setSocket other ⟨(s.sockets other).inbox ++ bytes, none⟩) where
  unread id := by
    have receivedEq : receivedBytes id (trace ++ [.received other bytes]) =
        receivedBytes id trace ++ if other = id then bytes else [] := by
      rw [receivedBytes_append, receivedBytes_singleton]
      rfl
    by_cases same : id = other
    · subst same
      refine ⟨?_, fun isClosed => ?_⟩
      · obtain ⟨gone, goneEq⟩ := (sent.unread id).inbox
        refine ⟨gone, ?_⟩
        rw [IpcServer.setSocket_sockets, if_pos rfl, receivedEq, if_pos rfl,
          ← goneEq, List.append_assoc]
      · rw [IpcServer.setSocket_sockets, if_pos rfl] at isClosed
        cases isClosed
    · have socketEq : (s.setSocket other
          ⟨(s.sockets other).inbox ++ bytes, none⟩).sockets id =
          s.sockets id := by
        rw [IpcServer.setSocket_sockets, if_neg same]
      refine ⟨?_, fun isClosed => ?_⟩
      · rw [socketEq, receivedEq, if_neg (Ne.symm same), List.append_nil]
        exact (sent.unread id).inbox
      · rw [socketEq] at isClosed ⊢
        obtain ⟨earlier, later, rfl, isLast⟩ := (sent.unread id).closed isClosed
        exact ⟨earlier, _, List.append_assoc .., isLast⟩
  flagged command isSet := by
    refine (sent.flagged command ?_).append _
    cases command <;> exact isSet

theorem poll (sent : SentByClients serde trace s) {command : IpcCommand}
    {reads : Nat → Option IpcRead}
    (taken : IpcStep serde s (.polled command reads) next) :
    SentByClients serde (trace ++ [.polled command reads]) next := by
  have ending (id : Nat)
      (isClosed : (next.sockets id).ending = some .closed) :
      (s.sockets id).ending = some .closed ∨
        IpcEvent.polled command reads = .ended id .closed :=
    taken.ended_of_ending isClosed
  rcases taken.poll_cases with ⟨-, -, rfl⟩ | ⟨-, -, -, rfl⟩
  · refine sent.quiet (fun _ => rfl) ?_ ending ?_
    · intro id
      rw [IpcServer.clear_sockets]
    · intro other isSet
      by_cases same : other = command
      · subst same
        cases other <;> cases isSet
      · rw [IpcServer.clear_flag_of_ne same] at isSet
        exact .inl isSet
  · refine sent.quiet (fun _ => rfl) ?_ ending ?_
    · intro id
      simp only [IpcServer.readClients]
      split
      · rw [IpcServer.accept_sockets]
        exact (s.sockets id).readLine_rest
      · rw [IpcServer.accept_sockets]
    · intro other isSet
      rw [IpcServer.readClients_flag, accept_flag, Bool.or_eq_true,
        Bool.and_eq_true] at isSet
      refine isSet.imp_right fun found => ?_
      exact commanded_of_requested (fun id => (sent.unread id).accept) found.1

theorem step (sent : SentByClients serde trace s)
    (taken : IpcStep serde s event next) :
    SentByClients serde (trace ++ [event]) next := by
  have ending (id : Nat)
      (isClosed : (next.sockets id).ending = some .closed) :=
    taken.ended_of_ending isClosed
  cases event with
  | connected other =>
      cases taken
      refine sent.quiet (fun _ => rfl) ?_ ending fun command isSet => .inl ?_
      · intro id
        simp only [IpcServer.setSocket_sockets]
        split
        · exact List.nil_suffix
        · exact List.suffix_refl _
      · cases command <;> exact isSet
  | received other bytes =>
      cases taken with
      | receive bytes connected opened => exact sent.receive opened
  | ended other kind =>
      cases taken
      refine sent.quiet (fun _ => rfl) ?_ ending fun command isSet => .inl ?_
      · intro id
        rw [IpcServer.setSocket_sockets]
        split
        · rename_i same
          rw [same]
        · exact List.suffix_refl _
      · cases command <;> exact isSet
  | sent data writes =>
      cases taken
      refine sent.quiet (fun _ => rfl) (fun _ => List.suffix_refl _) ending
        fun command isSet => .inl ?_
      cases command <;> exact isSet
  | polled command reads => exact sent.poll taken

theorem of_run (run : Run (IpcStep serde) .new trace s) :
    SentByClients serde trace s :=
  run.history new fun sent taken => sent.step taken

theorem returned (sent : SentByClients serde trace s) {command : IpcCommand}
    {reads : Nat → Option IpcRead}
    (taken : IpcStep serde s (.polled command reads) next)
    (some : command ≠ .none) : Commanded serde trace command := by
  rcases taken.poll_cases with ⟨isSet, -⟩ | ⟨-, isNone, -⟩
  · exact sent.flagged command isSet
  · exact absurd isNone some

end SentByClients

end

end AndroidTether
