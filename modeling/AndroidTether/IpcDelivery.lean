import AndroidTether.IpcServer
import AndroidTether.Transition

/-!
# Commands over IPC

How the lines of the clients become results of `poll`.  A reading poll takes
one line from each client and sets flags; the polls behind it return the
commands one by one, and only then is read again.  What the reader has
buffered behind a line is lost.
-/

namespace AndroidTether

/-- What `read_line` takes from the socket and drops. -/
def IpcSocket.swallowed (socket : IpcSocket) : Bytes :=
  (socket.inbox.take (buffered socket.inbox)).drop
    (socket.inbox.idxOf newline + 1)

/-- The condition on the state that a poll finds: either it only returns a
command, or no client that it reads from has bytes behind its first line in
the block that the line ends in. -/
def IpcServer.SwallowsNothing (s : IpcServer) : Prop :=
  (∃ command, s.flag command = true) ∨
    ∀ id ∈ s.accept.clients, newline ∈ (s.sockets id).inbox →
      (s.sockets id).swallowed = []

/-- A step that loses no line. -/
structure LosslessStep (serde : SerdeJson) (s : IpcServer) (event : IpcEvent)
    (next : IpcServer) : Prop where
  step : IpcStep serde s event next
  swallows : ∀ command reads, event = .polled command reads →
    s.SwallowsNothing
  /-- A client that a broadcast drops has no line to be read. -/
  drops : ∀ data writes, event = .sent data writes →
    ∀ id, writes id = some .notCloned → newline ∉ (s.sockets id).inbox

theorem LosslessStep.swallowed {serde : SerdeJson} {s next : IpcServer}
    {command : IpcCommand} {reads : Nat → Option IpcRead}
    (taken : LosslessStep serde s (.polled command reads) next)
    (clear : ∀ flag, s.flag flag = false) {id : Nat}
    (served : id ∈ s.accept.clients)
    (member : newline ∈ (s.sockets id).inbox) :
    (s.sockets id).swallowed = [] := by
  rcases taken.swallows command reads rfl with ⟨flag, isSet⟩ | nothing
  · rw [clear flag] at isSet
    cases isSet
  · exact nothing id served member

def IpcEvent.bytes (id : Nat) : IpcEvent → Bytes
  | .received other bytes => if other = id then bytes else []
  | .connected _ | .ended .. | .polled .. | .sent .. => []

/-- Everything that has arrived from a client. -/
def receivedBytes (id : Nat) (trace : List IpcEvent) : Bytes :=
  trace.flatMap (IpcEvent.bytes id)

/-- The commands in the complete lines of a client. -/
def sentCommands (serde : SerdeJson) (id : Nat) (trace : List IpcEvent) :
    List IpcCommand :=
  (lineDelimiter.items (receivedBytes id trace)).filterMap serde.command

/-- The clients send nothing but lines with commands. -/
def SendsCommands (serde : SerdeJson) (trace : List IpcEvent) : Prop :=
  ∀ id, ∀ line ∈ lineDelimiter.items (receivedBytes id trace),
    validUtf8 line = true ∧ (serde.command line).isSome

def IpcEvent.returned : IpcEvent → Option IpcCommand
  | .polled command _ => if command = .none then none else some command
  | .connected _ | .received .. | .ended .. | .sent .. => none

/-- The commands that the polls have returned. -/
def returnedCommands (trace : List IpcEvent) : List IpcCommand :=
  trace.filterMap IpcEvent.returned

def IpcEvent.isPoll : IpcEvent → Bool
  | .polled .. => true
  | .connected _ | .received .. | .ended .. | .sent .. => false

def polls (trace : List IpcEvent) : Nat :=
  trace.countP IpcEvent.isPoll

/-- From every moment of the trace on, the commands are returned that the
client has completed since, in their order. -/
def ReturnedInOrder (serde : SerdeJson) (id : Nat) (trace : List IpcEvent)
    (commands : List IpcCommand) : Prop :=
  ∀ earlier later, trace = earlier ++ later →
    (commands.drop (sentCommands serde id earlier).length).Sublist
      (returnedCommands later)

/-- What is asked of a run with steps from `step`: after some number of
polls, everything that a client has sent so far has been returned. -/
def Delivers (serde : SerdeJson)
    (step : IpcServer → IpcEvent → IpcServer → Prop) (trace : List IpcEvent)
    (s : IpcServer) (id : Nat) : Prop :=
  ∃ count, ∀ more final, Run step s more final →
    SendsCommands serde (trace ++ more) → count ≤ polls more →
      ReturnedInOrder serde id (trace ++ more) (sentCommands serde id trace)

/-- The line that an event takes from a client. -/
def IpcEvent.lineRead (id : Nat) : IpcEvent → Option Bytes
  | .polled _ reads =>
    match reads id with
    | some (.line line) => if newline ∈ line then some line else none
    | some .eof | some .wouldBlock | some .failed | none => none
  | .connected _ | .received .. | .ended .. | .sent .. => none

/-- The lines that polls have taken from a client. -/
def readLines (id : Nat) (trace : List IpcEvent) : List Bytes :=
  trace.filterMap (IpcEvent.lineRead id)

/-- What can still be read from a client. -/
def IpcServer.unread (s : IpcServer) (id : Nat) : Bytes :=
  if id ∈ s.backlog ∨ id ∈ s.clients then (s.sockets id).inbox else []

section Traces

variable (serde : SerdeJson) (id : Nat) (earlier later : List IpcEvent)

theorem receivedBytes_append : receivedBytes id (earlier ++ later) =
    receivedBytes id earlier ++ receivedBytes id later :=
  List.flatMap_append

theorem readLines_append :
    readLines id (earlier ++ later) = readLines id earlier ++ readLines id later :=
  List.filterMap_append

theorem returnedCommands_append : returnedCommands (earlier ++ later) =
    returnedCommands earlier ++ returnedCommands later :=
  List.filterMap_append

theorem polls_append :
    polls (earlier ++ later) = polls earlier + polls later :=
  List.countP_append

theorem receivedBytes_singleton (event : IpcEvent) :
    receivedBytes id [event] = event.bytes id :=
  List.flatMap_singleton _ _

theorem items_received_grow :
    lineDelimiter.items (receivedBytes id earlier) <+:
      lineDelimiter.items (receivedBytes id (earlier ++ later)) := by
  rw [receivedBytes_append]
  exact Delimiter.items_prefix_append Delimiter.endingIn_stable _ _

theorem sentCommands_grow : sentCommands serde id earlier <+:
    sentCommands serde id (earlier ++ later) :=
  (items_received_grow id earlier later).filterMap serde.command

variable {serde earlier later}

theorem SendsCommands.of_append (sends : SendsCommands serde (earlier ++ later)) :
    SendsCommands serde earlier := fun id line member =>
  sends id line ((items_received_grow id earlier later).subset member)

end Traces

section Lines

variable {inbox : Bytes}

/-- The bytes behind the first newline. -/
def behindLine (inbox : Bytes) : Bytes :=
  inbox.drop (inbox.idxOf newline + 1)

theorem firstLine_append_behindLine : firstLine inbox ++ behindLine inbox =
    inbox :=
  List.take_append_drop _ _

theorem items_of_newline (member : newline ∈ inbox) :
    lineDelimiter.items inbox =
      firstLine inbox :: lineDelimiter.items (behindLine inbox) :=
  Delimiter.items_of_some (Delimiter.endingIn_size_of_mem member)

theorem items_of_no_newline (absent : newline ∉ inbox) :
    lineDelimiter.items inbox = [] :=
  Delimiter.items_of_none (Delimiter.endingIn_size_of_not_mem absent)

/-- With nothing behind the line, `read_line` takes the line and no more. -/
theorem IpcSocket.readLine_of_newline {socket : IpcSocket}
    (member : newline ∈ socket.inbox) (nothing : socket.swallowed = [])
    (valid : validUtf8 (firstLine socket.inbox) = true) :
    socket.readLine =
      (.line (firstLine socket.inbox), behindLine socket.inbox) := by
  have beyond : socket.inbox.idxOf newline + 1 ≤ buffered socket.inbox := by
    have capacity : bufReaderCapacity = 8192 := rfl
    rw [buffered, capacity]
    omega
  have dropEq : behindLine socket.inbox =
      socket.inbox.drop (buffered socket.inbox) := by
    unfold behindLine
    have bounded := List.drop_eq_nil_iff.mp nothing
    rw [List.length_take] at bounded
    by_cases short : socket.inbox.length ≤ socket.inbox.idxOf newline + 1
    · rw [List.drop_eq_nil_of_le short,
        List.drop_eq_nil_of_le (short.trans beyond)]
    · congr 1
      omega
  rw [readLine, if_pos member, textLine, if_pos valid, dropEq]

theorem IpcSocket.readLine_of_no_newline {socket : IpcSocket}
    (absent : newline ∉ socket.inbox) :
    socket.readLine.2 = [] ∧
      ∀ line, socket.readLine.1 = .line line →
        newline ∉ line ∧ socket.ending ≠ none := by
  rw [readLine, if_neg absent]
  cases endingEq : socket.ending with
  | none => exact ⟨rfl, fun line isLine => by cases isLine⟩
  | some ending =>
      cases ending with
      | broken => exact ⟨rfl, fun line isLine => by cases isLine⟩
      | closed =>
          refine ⟨rfl, fun line isLine => ⟨?_, by simp⟩⟩
          dsimp only [textLine] at isLine
          split at isLine
          · cases isLine
          · split at isLine
            · cases isLine
              exact absent
            · cases isLine

end Lines

/-- Where the bytes of a client are: in the lines that were taken, or still
to be read. -/
structure Conserved (id : Nat) (trace : List IpcEvent) (s : IpcServer) :
    Prop where
  lines : lineDelimiter.items (receivedBytes id trace) =
    readLines id trace ++ lineDelimiter.items (s.unread id)
  /-- As long as more can arrive, no byte is missing. -/
  bytes : s.Connected id → (s.sockets id).ending = none →
    receivedBytes id trace = (readLines id trace).flatten ++ (s.sockets id).inbox
  complete : ∀ line ∈ readLines id trace, lineDelimiter.Complete line
  fresh : s.connections ≤ id → receivedBytes id trace = []

namespace Conserved

variable {serde : SerdeJson} {id : Nat} {trace : List IpcEvent}
  {s next : IpcServer} {event : IpcEvent}

theorem new : Conserved id [] .new where
  lines := by simp [receivedBytes, readLines, IpcServer.unread,
    IpcServer.new, items_of_no_newline]
  bytes connected := by simp [IpcServer.Connected, IpcServer.new] at connected
  complete line member := absurd member List.not_mem_nil
  fresh _ := rfl

theorem unread_of_connected (connected : s.Connected id) :
    s.unread id = (s.sockets id).inbox :=
  if_pos connected

theorem unread_of_not_connected (gone : ¬ s.Connected id) :
    s.unread id = [] :=
  if_neg gone

/-- A step that neither adds bytes nor takes a line. -/
theorem quiet (before : Conserved id trace s)
    (nothingNew : event.bytes id = []) (nothingRead : event.lineRead id = none)
    (lines : lineDelimiter.items (next.unread id) =
      lineDelimiter.items (s.unread id))
    (bytes : next.Connected id → (next.sockets id).ending = none →
      receivedBytes id trace =
        (readLines id trace).flatten ++ (next.sockets id).inbox)
    (fresh : next.connections ≤ id → s.connections ≤ id) :
    Conserved id (trace ++ [event]) next := by
  have receivedEq :
      receivedBytes id (trace ++ [event]) = receivedBytes id trace := by
    rw [receivedBytes_append, receivedBytes_singleton, nothingNew,
      List.append_nil]
  have readEq : readLines id (trace ++ [event]) = readLines id trace := by
    rw [readLines_append, readLines, readLines, List.filterMap_cons,
      nothingRead, List.filterMap_nil, List.append_nil]
  exact ⟨by rw [receivedEq, readEq, lines]; exact before.lines,
    by rw [receivedEq, readEq]; exact bytes,
    by rw [readEq]; exact before.complete,
    fun unmade => receivedEq.trans (before.fresh (fresh unmade))⟩

/-- The step of a client or a poll that does not touch the connection. -/
theorem untouched (before : Conserved id trace s)
    (nothingNew : event.bytes id = []) (nothingRead : event.lineRead id = none)
    (connected : next.Connected id ↔ s.Connected id)
    (inbox : (next.sockets id).inbox = (s.sockets id).inbox)
    (ending : (next.sockets id).ending = none →
      (s.sockets id).ending = none)
    (connections : s.connections ≤ next.connections) :
    Conserved id (trace ++ [event]) next := by
  refine before.quiet nothingNew nothingRead ?_ (fun isConnected opened => ?_)
    connections.trans
  · by_cases isConnected : s.Connected id
    · rw [unread_of_connected isConnected,
        unread_of_connected (connected.mpr isConnected), inbox]
    · rw [unread_of_not_connected isConnected,
        unread_of_not_connected (mt connected.mp isConnected)]
  · rw [inbox]
    exact before.bytes (connected.mp isConnected) (ending opened)

theorem firstLine_valid (conserved : Conserved id trace s)
    (connected : s.Connected id) (member : newline ∈ (s.sockets id).inbox)
    (sends : SendsCommands serde trace) :
    validUtf8 (firstLine (s.sockets id).inbox) = true := by
  refine (sends id _ ?_).1
  rw [conserved.lines, unread_of_connected connected, items_of_newline member]
  exact List.mem_append_right _ List.mem_cons_self

/-- What a reading poll does with a client that has a line. -/
theorem read_firstLine (conserved : Conserved id trace s)
    (served : id ∈ s.accept.clients)
    (member : newline ∈ (s.sockets id).inbox)
    (nothing : (s.sockets id).swallowed = [])
    (sends : SendsCommands serde trace) :
    (s.accept.sockets id).readLine = (.line (firstLine (s.sockets id).inbox),
        behindLine (s.sockets id).inbox) ∧
      readLines id (trace ++ [.polled .none s.accept.reads]) =
        readLines id trace ++ [firstLine (s.sockets id).inbox] := by
  have connected := IpcServer.accept_connected.mp (.inr served)
  have readEq := IpcSocket.readLine_of_newline member nothing
    (conserved.firstLine_valid connected member sends)
  rw [← IpcServer.accept_sockets (s := s)] at readEq
  refine ⟨by rw [readEq, IpcServer.accept_sockets], ?_⟩
  have isRead : IpcEvent.lineRead id (.polled .none s.accept.reads) =
      some (firstLine (s.sockets id).inbox) := by
    rw [IpcEvent.lineRead, IpcServer.reads, if_pos served, readEq,
      IpcServer.accept_sockets]
    exact if_pos (Delimiter.mark_mem_take member)
  rw [readLines_append, readLines, readLines, List.filterMap_cons, isRead]
  rfl

/-- A reading poll takes the first line of a client that has one. -/
theorem takeLine (before : Conserved id trace s)
    (served : id ∈ s.accept.clients)
    (member : newline ∈ (s.sockets id).inbox)
    (nothing : (s.sockets id).swallowed = [])
    (sends : SendsCommands serde trace) :
    Conserved id (trace ++ [.polled .none s.accept.reads])
      (s.accept.readClients serde) := by
  have connected := IpcServer.accept_connected.mp (.inr served)
  obtain ⟨readEq, read⟩ := before.read_firstLine served member nothing sends
  have kept : (s.accept.readClients serde).Connected id := by
    refine .inr ((IpcServer.mem_readClients serde).mpr ⟨served, ?_⟩)
    rw [readEq]
    rfl
  have nextInbox : ((s.accept.readClients serde).sockets id).inbox =
      behindLine (s.sockets id).inbox := by
    simp only [IpcServer.readClients, if_pos served, readEq]
  have received : receivedBytes id
      (trace ++ [.polled .none s.accept.reads]) = receivedBytes id trace := by
    rw [receivedBytes_append, receivedBytes_singleton]
    exact List.append_nil _
  refine ⟨?_, fun _ opened => ?_, fun line isRead => ?_, fun unmade => ?_⟩
  · rw [received, read, before.lines, unread_of_connected connected,
      unread_of_connected kept, nextInbox, items_of_newline member,
      List.append_assoc]
    rfl
  · rw [IpcServer.readClients_ending, IpcServer.accept_sockets] at opened
    rw [received, read, before.bytes connected opened, nextInbox,
      List.flatten_append, List.flatten_singleton, List.append_assoc,
      firstLine_append_behindLine]
  · rw [read] at isRead
    rcases List.mem_append.mp isRead with earlier | isLast
    · exact before.complete line earlier
    · rw [List.mem_singleton.mp isLast]
      exact Delimiter.endingIn_complete_take member
  · exact received.trans
      (before.fresh ((IpcServer.accept_connections (s := s)).ge.trans unmade))

/-- A reading poll takes no line of a client that has none. -/
theorem takeNothing (before : Conserved id trace s) (ordered : s.Ordered)
    (served : id ∈ s.accept.clients)
    (absent : newline ∉ (s.sockets id).inbox) :
    Conserved id (trace ++ [.polled .none s.accept.reads])
      (s.accept.readClients serde) := by
  have connected := IpcServer.accept_connected.mp (.inr served)
  have socketEq : s.accept.sockets id = s.sockets id := by
    rw [IpcServer.accept_sockets]
  obtain ⟨restEq, lineEq⟩ := IpcSocket.readLine_of_no_newline absent
  have nextInbox : ((s.accept.readClients serde).sockets id).inbox = [] := by
    simp only [IpcServer.readClients, if_pos served, socketEq, restEq]
  refine before.quiet rfl ?_ ?_ (fun isConnected opened => ?_) ?_
  · rw [IpcEvent.lineRead, IpcServer.reads, if_pos served, socketEq]
    cases readEq : (s.sockets id).readLine.1 with
    | line line => exact if_neg (lineEq line readEq).1
    | eof | wouldBlock | failed => rfl
  · rw [unread_of_connected connected, items_of_no_newline absent,
      IpcServer.unread, nextInbox, ite_self]
    exact items_of_no_newline List.not_mem_nil
  · rw [IpcServer.readClients_ending, socketEq] at opened
    rcases isConnected with waiting | kept
    · exact absurd waiting (ordered.accept.not_waiting served)
    · rw [IpcServer.mem_readClients, socketEq] at kept
      cases readEq : (s.sockets id).readLine.1 with
      | line line => exact absurd opened (lineEq line readEq).2
      | eof | wouldBlock | failed =>
          rw [readEq] at kept
          exact absurd kept.2 (by decide)
  · exact (IpcServer.accept_connections (s := s)).ge.trans

theorem receive (before : Conserved id trace s) (ordered : s.Ordered)
    (connected : s.Connected id)
    (opened : (s.sockets id).ending = none) (bytes : Bytes) :
    Conserved id (trace ++ [.received id bytes])
      (s.setSocket id ⟨(s.sockets id).inbox ++ bytes, none⟩) := by
  have received : receivedBytes id (trace ++ [.received id bytes]) =
      receivedBytes id trace ++ bytes := by
    rw [receivedBytes_append, receivedBytes_singleton]
    exact congrArg _ (if_pos rfl)
  have read :
      readLines id (trace ++ [.received id bytes]) = readLines id trace := by
    rw [readLines_append]
    exact List.append_nil _
  have receivedEq : receivedBytes id trace ++ bytes =
      (readLines id trace).flatten ++ ((s.sockets id).inbox ++ bytes) := by
    rw [before.bytes connected opened, List.append_assoc]
  have unreadEq :
      (s.setSocket id ⟨(s.sockets id).inbox ++ bytes, none⟩).unread id =
        (s.sockets id).inbox ++ bytes := by
    rw [unread_of_connected (s := s.setSocket id _) connected]
    simp [IpcServer.setSocket]
  refine ⟨?_, fun _ _ => ?_, ?_, fun unmade => ?_⟩
  · rw [received, read, receivedEq, unreadEq]
    exact Delimiter.items_flatten_append before.complete _
  · rw [received, read, receivedEq]
    simp [IpcServer.setSocket]
  · rw [read]
    exact before.complete
  · exact absurd unmade (Nat.not_le_of_lt (ordered.made id connected))

theorem connect (before : Conserved id trace s) (ordered : s.Ordered)
    {other : Nat} (taken : IpcStep serde s (.connected other) next) :
    Conserved id (trace ++ [.connected other]) next := by
  cases taken
  by_cases same : id = s.connections
  · have gone : ¬ s.Connected id := fun connected =>
      absurd (ordered.made id connected) (by omega)
    have received := before.fresh same.ge
    have nothingRead : readLines id trace = [] := by
      have linesEq := before.lines
      rw [received, items_of_no_newline List.not_mem_nil] at linesEq
      exact (List.append_eq_nil_iff.mp linesEq.symm).1
    subst same
    refine before.quiet rfl rfl ?_ (fun _ _ => ?_) (fun unmade => ?_)
    · rw [unread_of_not_connected gone, unread_of_connected
        (.inl List.mem_concat_self)]
      simp [IpcServer.setSocket_sockets]
    · rw [received, nothingRead]
      simp [IpcServer.setSocket_sockets]
    · exact absurd unmade (Nat.not_succ_le_self _)
  · refine before.untouched rfl rfl ?_ ?_ ?_ (Nat.le_succ _)
    · simp [IpcServer.Connected, IpcServer.setSocket, same]
    · simp [IpcServer.setSocket_sockets, same]
    · simp [IpcServer.setSocket_sockets, same]

/-- A client that a broadcast drops has no line left. -/
theorem broadcast (before : Conserved id trace s) (ordered : s.Ordered)
    {data : Bytes} {writes : Nat → Option IpcWrite}
    (taken : LosslessStep serde s (.sent data writes) next) :
    Conserved id (trace ++ [.sent data writes]) next := by
  have drops := taken.drops data writes rfl id
  cases taken.step with
  | send message offered fits =>
      by_cases dropped : writes id = some .notCloned
      · have served := (offered id).mp (by simp [dropped])
        have gone : ¬ (s.broadcast writes).Connected id := by
          rintro (waiting | kept)
          · exact ordered.not_waiting served waiting
          · have stays := List.of_mem_filter kept
            simp [dropped] at stays
        refine before.quiet rfl rfl ?_ (fun isConnected => ?_)
          fun unmade => unmade
        · rw [unread_of_not_connected gone, unread_of_connected (.inr served),
            items_of_no_newline (drops dropped)]
          exact items_of_no_newline List.not_mem_nil
        · exact absurd isConnected gone
      · refine before.untouched rfl rfl ?_ rfl (fun opened => opened) le_rfl
        simp [IpcServer.Connected, IpcServer.broadcast, dropped]

theorem notRead (before : Conserved id trace s)
    (notServed : id ∉ s.accept.clients) :
    Conserved id (trace ++ [.polled .none s.accept.reads])
      (s.accept.readClients serde) := by
  refine before.untouched rfl ?_ ?_ ?_ ?_ ?_
  · rw [IpcEvent.lineRead, IpcServer.reads, if_neg notServed]
  · rw [← IpcServer.accept_connected (s := s), IpcServer.Connected,
      IpcServer.Connected, IpcServer.mem_readClients]
    simp only [notServed, false_and]
    rfl
  · simp [IpcServer.readClients, notServed]
  · simp
  · exact (IpcServer.accept_connections (s := s)).ge

theorem step (before : Conserved id trace s) (ordered : s.Ordered)
    (taken : LosslessStep serde s event next)
    (sends : SendsCommands serde (trace ++ [event])) :
    Conserved id (trace ++ [event]) next := by
  cases event with
  | connected other => exact before.connect ordered taken.step
  | received other bytes =>
      by_cases same : other = id
      · subst same
        cases taken.step with
        | receive bytes connected opened =>
            exact before.receive ordered connected opened bytes
      · cases taken.step
        refine before.untouched (if_neg same) rfl Iff.rfl ?_ ?_ le_rfl
        · rw [IpcServer.setSocket_sockets, if_neg (Ne.symm same)]
        · rw [IpcServer.setSocket_sockets, if_neg (Ne.symm same)]
          exact fun opened => opened
  | ended other ending =>
      cases taken.step
      refine before.untouched rfl rfl Iff.rfl ?_ ?_ le_rfl
      · rw [IpcServer.setSocket_sockets]
        split
        · rename_i same
          rw [same]
        · rfl
      · rw [IpcServer.setSocket_sockets]
        split
        · exact fun opened => by cases opened
        · exact fun opened => opened
  | sent data writes => exact before.broadcast ordered taken
  | polled command reads =>
      rcases taken.step.poll_cases with ⟨-, rfl, rfl⟩ | ⟨clear, rfl, rfl, rfl⟩
      · refine before.untouched rfl rfl ?_ ?_ ?_ ?_
        · simp [IpcServer.Connected]
        · simp
        · simp
        · simp
      by_cases served : id ∈ s.accept.clients
      · by_cases member : newline ∈ (s.sockets id).inbox
        · exact before.takeLine served member
            (taken.swallowed clear served member) sends.of_append
        · exact before.takeNothing ordered served member
      · exact before.notRead served

end Conserved

/-- The commands in the lines that were taken. -/
def readCommands (serde : SerdeJson) (id : Nat) (trace : List IpcEvent) :
    List IpcCommand :=
  (readLines id trace).filterMap serde.command

section Commands

variable {serde : SerdeJson} {id : Nat} {trace : List IpcEvent}
  {s next : IpcServer} {event : IpcEvent} {commands : List IpcCommand}

theorem Conserved.readCommands_sent (conserved : Conserved id trace s)
    (serde : SerdeJson) :
    readCommands serde id trace <+: sentCommands serde id trace := by
  rw [sentCommands, conserved.lines]
  exact (List.prefix_append _ _).filterMap serde.command

theorem command_flag {line : Bytes} {command : IpcCommand}
    (isCommand : serde.command line = some command) :
    command ≠ .none ∧ command ≠ .status := by
  obtain ⟨msg, -, msgEq⟩ := Option.bind_eq_some_iff.mp isCommand
  unfold ClientMsg.command at msgEq
  split at msgEq <;> cases msgEq <;> exact ⟨nofun, nofun⟩

theorem ReturnedInOrder.concat {following : List IpcCommand}
    (before : ReturnedInOrder serde id trace commands)
    (returned : following.Sublist (returnedCommands [event]))
    (sent : (commands ++ following).length ≤
      (sentCommands serde id (trace ++ [event])).length) :
    ReturnedInOrder serde id (trace ++ [event]) (commands ++ following) := by
  intro earlier later split
  rcases List.eq_nil_or_concat later with rfl | ⟨later, last, rfl⟩
  · rw [List.append_nil] at split
    rw [← split, List.drop_eq_nil_of_le sent]
    exact List.nil_sublist _
  · rw [List.concat_eq_append, ← List.append_assoc] at split
    obtain ⟨rfl, lastEq⟩ := List.append_inj' split rfl
    cases lastEq
    rw [List.drop_append, List.concat_eq_append, returnedCommands_append]
    exact (before earlier later rfl).append
      ((List.drop_sublist _ _).trans returned)

theorem ReturnedInOrder.keep
    (before : ReturnedInOrder serde id trace commands)
    (sent : commands.length ≤
      (sentCommands serde id (trace ++ [event])).length) :
    ReturnedInOrder serde id (trace ++ [event]) commands := by
  have kept := @ReturnedInOrder.concat serde id trace event commands [] before
    (List.nil_sublist _) (by rwa [List.append_nil])
  rwa [List.append_nil] at kept

theorem ReturnedInOrder.of_prefix {fewer : List IpcCommand}
    (all : ReturnedInOrder serde id trace commands)
    (isPrefix : fewer <+: commands) :
    ReturnedInOrder serde id trace fewer := by
  intro earlier later split
  obtain ⟨rest, rfl⟩ := isPrefix
  have whole := all earlier later split
  rw [List.drop_append] at whole
  exact (List.sublist_append_left _ _).trans whole

/-- The commands that were taken from a client have been returned, all but
the last one, whose flag is set then. -/
def Latched (serde : SerdeJson) (id : Nat) (trace : List IpcEvent)
    (s : IpcServer) : Prop :=
  ReturnedInOrder serde id trace (readCommands serde id trace) ∨
    ∃ earlier last, readCommands serde id trace = earlier ++ [last] ∧
      s.flag last = true ∧ ReturnedInOrder serde id trace earlier

theorem readCommands_concat : readCommands serde id (trace ++ [event]) =
    readCommands serde id trace ++
      (event.lineRead id).toList.filterMap serde.command := by
  have single : readLines id [event] = (event.lineRead id).toList := by
    rw [readLines, List.filterMap_cons]
    cases event.lineRead id <;> rfl
  unfold readCommands
  rw [readLines_append, List.filterMap_append, single]

theorem readLine_of_lineRead {command : IpcCommand} {line : Bytes}
    (isRead : IpcEvent.lineRead id (.polled command s.reads) = some line) :
    id ∈ s.clients ∧ (s.sockets id).readLine.1 = .line line := by
  rw [IpcEvent.lineRead, IpcServer.reads] at isRead
  by_cases served : id ∈ s.clients
  · rw [if_pos served] at isRead
    refine ⟨served, ?_⟩
    cases readEq : (s.sockets id).readLine.1 with
    | line other =>
        rw [readEq] at isRead
        dsimp only at isRead
        split at isRead
        · cases isRead
          rfl
        · cases isRead
    | eof | wouldBlock | failed =>
        rw [readEq] at isRead
        cases isRead
  · rw [if_neg served] at isRead
    cases isRead

namespace Latched

/-- A step that takes no command from the client: its flag stays set until it
is returned. -/
theorem quiet (latched : Latched serde id trace s)
    (conserved : Conserved id (trace ++ [event]) next)
    (nothing : (event.lineRead id).toList.filterMap serde.command = [])
    (flags : ∀ command, s.flag command = true →
      next.flag command = true ∨ returnedCommands [event] = [command]) :
    Latched serde id (trace ++ [event]) next := by
  have bounded := (conserved.readCommands_sent serde).length_le
  have same : readCommands serde id (trace ++ [event]) =
      readCommands serde id trace := by
    rw [readCommands_concat, nothing, List.append_nil]
  rw [same] at bounded
  rcases latched with inOrder | ⟨earlier, last, commandsEq, isSet, inOrder⟩
  · left
    rw [same]
    exact inOrder.keep bounded
  · rw [commandsEq] at bounded
    rcases flags last isSet with stays | returned
    · rw [List.length_append] at bounded
      exact .inr ⟨earlier, last, same.trans commandsEq, stays,
        inOrder.keep (by omega)⟩
    · left
      rw [same, commandsEq]
      exact inOrder.concat (returned ▸ List.Sublist.refl [last]) bounded

theorem step (latched : Latched serde id trace s)
    (conserved : Conserved id (trace ++ [event]) next)
    (taken : IpcStep serde s event next) :
    Latched serde id (trace ++ [event]) next := by
  cases event with
  | connected | received | ended | sent =>
      refine latched.quiet conserved rfl fun command isSet => .inl ?_
      cases taken
      cases command <;> exact isSet
  | polled returned reads =>
      rcases taken.poll_cases with
        ⟨isSet, rfl, rfl⟩ | ⟨clear, rfl, rfl, rfl⟩
      · refine latched.quiet conserved rfl fun command wasSet => ?_
        by_cases same : command = returned
        · subst same
          right
          cases command with
          | none | status => cases isSet
          | stop | disable | enable => rfl
        · exact .inl ((IpcServer.clear_flag_of_ne same).trans wasSet)
      · have inOrder : ReturnedInOrder serde id trace
            (readCommands serde id trace) := by
          rcases latched with inOrder | ⟨earlier, last, -, isSet, -⟩
          · exact inOrder
          · rw [clear last] at isSet
            cases isSet
        cases isRead : IpcEvent.lineRead id (.polled .none s.accept.reads) with
        | none =>
            refine latched.quiet conserved (by rw [isRead]; rfl) fun flag isSet => ?_
            rw [clear flag] at isSet
            cases isSet
        | some line =>
            obtain ⟨served, lineEq⟩ := readLine_of_lineRead isRead
            cases isCommand : serde.command line with
            | none =>
                refine latched.quiet conserved ?_ fun flag isSet => ?_
                · rw [isRead]
                  simp [isCommand]
                · rw [clear flag] at isSet
                  cases isSet
            | some command =>
                refine .inr ⟨readCommands serde id trace, command, ?_, ?_, ?_⟩
                · rw [readCommands_concat, isRead]
                  simp [isCommand]
                · obtain ⟨isFlag, notStatus⟩ := command_flag isCommand
                  have requested :
                      s.accept.requested serde command = true := by
                    refine List.any_eq_true.mpr ⟨id, served, ?_⟩
                    rw [lineEq]
                    simpa using isCommand
                  rw [IpcServer.readClients_flag, requested]
                  simp [isFlag, notStatus]
                · have bounded :=
                    (conserved.readCommands_sent serde).length_le
                  rw [readCommands_concat, List.length_append] at bounded
                  exact inOrder.keep (by omega)

end Latched

end Commands

namespace IpcServer

/-- The flags that are set. -/
def flags (s : IpcServer) : Nat :=
  s.stopRequested.toNat + s.disableRequested.toNat + s.enableRequested.toNat

/-- The reading polls up to the one that accepts the connection. -/
def position (s : IpcServer) (id : Nat) : Nat :=
  if id ∈ s.backlog then s.backlog.idxOf id + 1 else 0

/-- A bound for the polls until that many more lines of a client have been
taken and all commands have been returned. -/
def distance (s : IpcServer) (id missing : Nat) : Nat :=
  s.flags + 4 * (s.position id + missing)

variable {s : IpcServer} {command : IpcCommand} {id : Nat}

theorem flags_le : s.flags ≤ 3 := by
  have stop := s.stopRequested.toNat_le
  have disable := s.disableRequested.toNat_le
  have enable := s.enableRequested.toNat_le
  rw [flags]
  omega

theorem flags_eq_zero : s.flags = 0 ↔ ∀ command, s.flag command = false := by
  constructor
  · intro none command
    rw [flags, Nat.add_eq_zero_iff, Nat.add_eq_zero_iff] at none
    cases command <;> simp_all [flag]
  · intro clear
    have stop : s.stopRequested = false := clear .stop
    have disable : s.disableRequested = false := clear .disable
    have enable : s.enableRequested = false := clear .enable
    rw [flags, stop, disable, enable]
    rfl

theorem clear_flags (isSet : s.flag command = true) :
    (s.clear command).flags + 1 = s.flags := by
  cases command with
  | none | status => cases isSet
  | stop =>
      have set : s.stopRequested = true := isSet
      simp only [flags, clear, set, Bool.toNat_false, Bool.toNat_true]
      omega
  | disable =>
      have set : s.disableRequested = true := isSet
      simp only [flags, clear, set, Bool.toNat_false, Bool.toNat_true]
      omega
  | enable =>
      have set : s.enableRequested = true := isSet
      simp only [flags, clear, set, Bool.toNat_false, Bool.toNat_true]

theorem poll_of_flags_eq_zero {serde : SerdeJson} (noFlag : s.flags = 0) :
    s.poll serde = (.none, s.accept.reads, s.accept.readClients serde) := by
  rcases s.poll_cases serde with ⟨command, isSet, -⟩ | ⟨-, reading⟩
  · rw [flags_eq_zero.mp noFlag command] at isSet
    cases isSet
  · exact reading

/-- A reading poll takes one connection out of the backlog. -/
theorem accept_position (ordered : s.Ordered) (waiting : id ∈ s.backlog) :
    s.accept.position id + 1 = s.position id := by
  rw [position, position, if_pos waiting]
  unfold accept
  cases backlogEq : s.backlog with
  | nil =>
      rw [backlogEq] at waiting
      cases waiting
  | cons first rest =>
      have distinct := ordered.nodup
      rw [backlogEq, List.cons_append, List.nodup_cons] at distinct
      rw [backlogEq, List.mem_cons] at waiting
      dsimp only
      by_cases isFirst : id = first
      · subst isFirst
        have once : id ∉ rest := fun again =>
          distinct.1 (List.mem_append_left _ again)
        rw [if_neg once, List.idxOf_cons_self]
      · rw [if_pos (waiting.resolve_left isFirst),
          List.idxOf_cons_ne _ (Ne.symm isFirst)]

end IpcServer

/-- What is known of a client in a run that loses no line. -/
structure Delivery (serde : SerdeJson) (id : Nat) (trace : List IpcEvent)
    (s : IpcServer) : Prop where
  ordered : s.Ordered
  conserved : Conserved id trace s
  latched : Latched serde id trace s

namespace Delivery

variable {serde : SerdeJson} {id : Nat} {trace : List IpcEvent}
  {s next : IpcServer} {event : IpcEvent}

theorem of_run (run : Run (LosslessStep serde) .new trace s)
    (sends : SendsCommands serde trace) : Delivery serde id trace s := by
  induction run with
  | nil =>
      refine ⟨.new, .new, .inl fun earlier later split => ?_⟩
      change (([] : List IpcCommand).drop _).Sublist _
      rw [List.drop_nil]
      exact List.nil_sublist _
  | snoc run taken ih =>
      obtain ⟨ordered, conserved, latched⟩ := ih sends.of_append
      have conservedNext := conserved.step ordered taken sends
      exact ⟨ordered.step taken.step, conservedNext,
        latched.step conservedNext taken.step⟩

/-- At distance zero everything has been returned. -/
theorem settled (delivery : Delivery serde id trace s) (noFlag : s.flags = 0)
    {earlier more : List IpcEvent} (traceEq : trace = earlier ++ more)
    (taken : (lineDelimiter.items (receivedBytes id earlier)).length ≤
      (readLines id trace).length) :
    ReturnedInOrder serde id trace (sentCommands serde id earlier) := by
  have inOrder :
      ReturnedInOrder serde id trace (readCommands serde id trace) := by
    rcases delivery.latched with inOrder | ⟨front, last, -, isSet, -⟩
    · exact inOrder
    · rw [IpcServer.flags_eq_zero.mp noFlag last] at isSet
      cases isSet
  have early := items_received_grow id earlier more
  rw [← traceEq, delivery.conserved.lines] at early
  exact inOrder.of_prefix ((List.prefix_of_prefix_length_le early
    (List.prefix_append _ _) taken).filterMap serde.command)

/-- Other steps do not move a client away from its commands. -/
theorem distance_step (taken : IpcStep serde s event next)
    (made : id < s.connections) (other : event.isPoll = false) {target : Nat} :
    next.distance id (target - (readLines id (trace ++ [event])).length) ≤
      s.distance id (target - (readLines id trace).length) := by
  have read : (readLines id trace).length ≤
      (readLines id (trace ++ [event])).length := by
    rw [readLines_append, List.length_append]
    omega
  have same : next.flags = s.flags ∧ next.position id = s.position id := by
    cases taken with
    | connect =>
        refine ⟨rfl, ?_⟩
        change (if id ∈ s.backlog ++ [s.connections]
          then (s.backlog ++ [s.connections]).idxOf id + 1 else 0) = _
        rw [IpcServer.position]
        by_cases waiting : id ∈ s.backlog
        · rw [if_pos waiting, if_pos (List.mem_append_left _ waiting),
            List.idxOf_append_of_mem waiting]
        · rw [if_neg waiting, if_neg]
          simp [waiting, made.ne]
    | receive | finish | send => exact ⟨rfl, rfl⟩
    | poll => cases other
  rw [IpcServer.distance, IpcServer.distance, same.1, same.2]
  omega

/-- Every poll brings it nearer. -/
theorem distance_poll (delivery : Delivery serde id trace s)
    {command : IpcCommand} {reads : Nat → Option IpcRead}
    (taken : LosslessStep serde s (.polled command reads) next)
    (sends : SendsCommands serde trace) {target : Nat}
    (sent : target ≤ (lineDelimiter.items (receivedBytes id trace)).length) :
    next.distance id
        (target - (readLines id (trace ++ [.polled command reads])).length) <
      s.distance id (target - (readLines id trace).length) ∨
    s.flags = 0 ∧ target ≤ (readLines id trace).length := by
  have read : (readLines id trace).length ≤
      (readLines id (trace ++ [.polled command reads])).length := by
    rw [readLines_append, List.length_append]
    omega
  rcases taken.step.poll_cases with
    ⟨isSet, rfl, rfl⟩ | ⟨clear, rfl, rfl, rfl⟩
  · left
    have fewer := IpcServer.clear_flags isSet
    have position : (s.clear command).position id = s.position id := by
      rw [IpcServer.position, IpcServer.clear_backlog, IpcServer.position]
    rw [IpcServer.distance, IpcServer.distance, position]
    omega
  have noFlag := IpcServer.flags_eq_zero.mpr clear
  have flags := (s.accept.readClients serde).flags_le
  have positionEq : (s.accept.readClients serde).position id =
      s.accept.position id := rfl
  by_cases waiting : id ∈ s.backlog
  · left
    have nearer := IpcServer.accept_position delivery.ordered waiting
    rw [IpcServer.distance, IpcServer.distance, positionEq]
    omega
  have atFront : s.accept.position id = 0 :=
    if_neg fun still => waiting (IpcServer.accept_backlog_suffixOf.subset still)
  by_cases enough : target ≤ (readLines id trace).length
  · exact .inr ⟨noFlag, enough⟩
  left
  have linesLength := congrArg List.length delivery.conserved.lines
  rw [List.length_append] at linesLength
  have connected : s.Connected id := by
    by_contra gone
    rw [Conserved.unread_of_not_connected gone,
      items_of_no_newline List.not_mem_nil, List.length_nil] at linesLength
    omega
  have member : newline ∈ (s.sockets id).inbox := by
    by_contra absent
    rw [Conserved.unread_of_connected connected, items_of_no_newline absent,
      List.length_nil] at linesLength
    omega
  have served : id ∈ s.accept.clients :=
    (IpcServer.accept_connected.mpr connected).resolve_left fun still =>
      waiting (IpcServer.accept_backlog_suffixOf.subset still)
  have readNext := (delivery.conserved.read_firstLine served member
    (taken.swallowed clear served member) sends).2
  rw [IpcServer.distance, IpcServer.distance, positionEq, readNext,
    List.length_append, List.length_singleton]
  omega

theorem connections_le_of_run {more : List IpcEvent} {final : IpcServer}
    (rest : Run (LosslessStep serde) s more final) :
    s.connections ≤ final.connections := by
  induction rest with
  | nil => exact le_rfl
  | snoc rest taken ih => exact ih.trans taken.step.connections_le

/-- A run that goes on has returned what had been sent before, or every poll
has brought the client nearer to that. -/
theorem returned_or_nearer (run : Run (LosslessStep serde) .new trace s)
    (made : id < s.connections) {more : List IpcEvent} {final : IpcServer}
    (rest : Run (LosslessStep serde) s more final)
    (sends : SendsCommands serde (trace ++ more)) :
    ReturnedInOrder serde id (trace ++ more) (sentCommands serde id trace) ∨
      final.distance id
          ((lineDelimiter.items (receivedBytes id trace)).length -
            (readLines id (trace ++ more)).length) + polls more ≤
        s.distance id ((lineDelimiter.items (receivedBytes id trace)).length -
          (readLines id trace).length) := by
  induction rest with
  | nil =>
      rw [List.append_nil]
      exact .inr le_rfl
  | @snoc more state next event rest taken ih =>
      rw [← List.append_assoc] at sends ⊢
      have sendsBefore := sends.of_append
      have delivery := @of_run serde id _ _ (run.trans rest) sendsBefore
      have madeStill : id < state.connections :=
        made.trans_le (connections_le_of_run rest)
      have keep (returned : ReturnedInOrder serde id (trace ++ more)
          (sentCommands serde id trace)) :
          ReturnedInOrder serde id (trace ++ more ++ [event])
            (sentCommands serde id trace) := by
        refine returned.keep ?_
        rw [List.append_assoc]
        exact (sentCommands_grow serde id trace (more ++ [event])).length_le
      rcases ih sendsBefore with returned | nearer
      · exact .inl (keep returned)
      · rw [polls_append]
        cases event with
        | connected | received | ended | sent =>
            right
            have near := @distance_step serde id (trace ++ more) state next _
              taken.step madeStill rfl
              (lineDelimiter.items (receivedBytes id trace)).length
            exact (Nat.add_le_add_right near _).trans nearer
        | polled command reads =>
            have onePoll : polls [.polled command reads] = 1 := rfl
            have sent := (items_received_grow id trace more).length_le
            rcases delivery.distance_poll taken sendsBefore sent with
              near | ⟨noFlag, enough⟩
            · right
              omega
            · exact .inl (keep (delivery.settled noFlag rfl enough))

end Delivery

/-- In every run that loses no line, everything that the clients send is
returned, and in order for each of them. -/
theorem delivers {serde : SerdeJson} {trace : List IpcEvent} {s : IpcServer}
    (run : Run (LosslessStep serde) .new trace s) (id : Nat) :
    Delivers serde (LosslessStep serde) trace s id := by
  by_cases made : id < s.connections
  · refine ⟨s.distance id
      ((lineDelimiter.items (receivedBytes id trace)).length -
        (readLines id trace).length) + 1, fun more final rest sends enough => ?_⟩
    rcases Delivery.returned_or_nearer run made rest sends with
      returned | nearer
    · exact returned
    · omega
  · refine ⟨0, fun more final rest sends _ => ?_⟩
    have delivery := @Delivery.of_run serde id _ _ run sends.of_append
    have nothing : sentCommands serde id trace = [] := by
      rw [sentCommands, delivery.conserved.fresh (Nat.le_of_not_lt made),
        items_of_no_newline List.not_mem_nil, List.filterMap_nil]
    intro earlier later _
    rw [nothing, List.drop_nil]
    exact List.nil_sublist _

section Runs

variable {serde : SerdeJson}

/-- No client and no command. -/
structure IpcServer.Idle (s : IpcServer) : Prop where
  backlog : s.backlog = []
  clients : s.clients = []
  clear : s.flags = 0

theorem run_idle {s : IpcServer} (idle : s.Idle) (count : Nat) :
    ∃ more final, Run (IpcStep serde) s more final ∧ final.Idle ∧
      polls more = count ∧ returnedCommands more = [] ∧
      ∀ id, receivedBytes id more = [] := by
  induction count with
  | zero => exact ⟨[], s, .nil, idle, rfl, rfl, fun _ => rfl⟩
  | succ count ih =>
      obtain ⟨more, state, run, ⟨backlog, clients, clear⟩, polled, returned,
        received⟩ := ih
      have noFlag := IpcServer.flags_eq_zero.mp clear
      have acceptEq : state.accept = state := by
        rw [IpcServer.accept, backlog]
      have result : state.poll serde =
          (.none, state.reads, state.readClients serde) := by
        rw [IpcServer.poll_of_flags_eq_zero clear, acceptEq]
      have nobody (command : IpcCommand) :
          state.requested serde command = false := by
        rw [IpcServer.requested, clients]
        rfl
      refine ⟨_, _, run.snoc (.poll result), ⟨backlog, ?_, ?_⟩, ?_, ?_, ?_⟩
      · simp [IpcServer.readClients, clients]
      · refine IpcServer.flags_eq_zero.mpr fun command => ?_
        rw [IpcServer.readClients_flag, noFlag, nobody]
        rfl
      · rw [polls_append, polled]
        rfl
      · rw [returnedCommands_append, returned]
        rfl
      · intro id
        rw [receivedBytes_append, received]
        rfl

/-- Two commands of a client have arrived in one piece. -/
def IpcServer.commandedTwice : IpcServer :=
  IpcServer.connectedOnce.setSocket 0 ⟨stopLine ++ disableLine, none⟩

/-- A poll has read the first of them. -/
def IpcServer.stopRead : IpcServer :=
  IpcServer.commandedTwice.accept.readClients fewMessages

theorem items_stopLine : lineDelimiter.items stopLine = [stopLine] := by
  have whole : firstLine stopLine = stopLine := by decide
  have behind : behindLine stopLine = [] := by decide
  rw [items_of_newline (by decide), whole, behind,
    items_of_no_newline List.not_mem_nil]

theorem items_twoLines : lineDelimiter.items (stopLine ++ disableLine) =
    [stopLine, disableLine] := by
  have first : firstLine (stopLine ++ disableLine) = stopLine := by decide
  have behind : behindLine (stopLine ++ disableLine) = disableLine := by decide
  have second : firstLine disableLine = disableLine := by decide
  have last : behindLine disableLine = [] := by decide
  rw [items_of_newline (by decide), first, behind,
    items_of_newline (by decide), second, last,
    items_of_no_newline List.not_mem_nil]

/-- Of two commands that arrive together, the second one is lost. -/
theorem not_delivers : ¬ ∀ trace s, Run (IpcStep fewMessages) .new trace s →
    ∀ id, Delivers fewMessages (IpcStep fewMessages) trace s id := by
  intro always
  have arrives : IpcStep fewMessages .connectedOnce
      (.received 0 (stopLine ++ disableLine)) .commandedTwice :=
    .receive _ (.inl (by decide)) rfl
  obtain ⟨count, returns⟩ :=
    always _ _ ((Run.single connectedOnce_step).snoc arrives) 0
  have reads : IpcStep fewMessages .commandedTwice _ .stopRead :=
    .poll (IpcServer.poll_of_flags_eq_zero (by decide))
  have isSet : IpcServer.stopRead.stopRequested = true := by decide
  have stops : IpcStep fewMessages .stopRead (.polled .stop fun _ => none)
      (IpcServer.stopRead.clear .stop) := .poll (if_pos isSet)
  have drops : IpcStep fewMessages (IpcServer.stopRead.clear .stop) _ _ :=
    .poll (IpcServer.poll_of_flags_eq_zero (by decide))
  obtain ⟨more, final, idleRun, -, polled, returned, received⟩ :=
    @run_idle fewMessages
      ((IpcServer.stopRead.clear .stop).accept.readClients fewMessages)
      ⟨by decide, by decide, by decide⟩ count
  have rest := (((Run.single reads).snoc stops).snoc drops).trans idleRun
  have inOrder := returns _ _ rest ?_ ?_
  · have lost := (inOrder [] _ (List.nil_append _).symm).length_le
    have sent : sentCommands fewMessages 0
        ([.connected 0] ++ [.received 0 (stopLine ++ disableLine)]) =
          [.stop, .disable] := by
      change (lineDelimiter.items (stopLine ++ disableLine)).filterMap _ = _
      rw [items_twoLines]
      decide
    have none : sentCommands fewMessages 0 [] = [] := by
      change (lineDelimiter.items []).filterMap _ = _
      rw [items_of_no_newline List.not_mem_nil, List.filterMap_nil]
    rw [sent, none, returnedCommands_append, returnedCommands_append _ more,
      returned] at lost
    exact absurd lost (by decide)
  · intro id line member
    rw [receivedBytes_append, receivedBytes_append _ _ more, received] at member
    by_cases first : 0 = id
    · subst first
      change line ∈ lineDelimiter.items (stopLine ++ disableLine) at member
      rw [items_twoLines, List.mem_cons, List.mem_singleton] at member
      rcases member with rfl | rfl <;> decide
    · have nothing : receivedBytes id ([.connected 0] ++
          [.received 0 (stopLine ++ disableLine)]) = [] := by
        rw [receivedBytes_append, receivedBytes_singleton,
          receivedBytes_singleton]
        exact if_neg first
      rw [nothing] at member
      change line ∈ lineDelimiter.items [] at member
      rw [items_of_no_newline List.not_mem_nil] at member
      cases member
  · rw [polls_append, polled]
    omega

/-- A command that arrives alone is returned. -/
theorem oneCommand_delivered :
    ∃ trace s, Delivers fewMessages (LosslessStep fewMessages) trace s 0 ∧
      sentCommands fewMessages 0 trace = [.stop] := by
  have connects : LosslessStep fewMessages .new _ .connectedOnce :=
    ⟨connectedOnce_step, nofun, nofun⟩
  have arrives : LosslessStep fewMessages .connectedOnce _ .commandedOnce :=
    ⟨commandedOnce_step, nofun, nofun⟩
  refine ⟨_, _, delivers ((Run.single connects).snoc arrives) 0, ?_⟩
  change (lineDelimiter.items stopLine).filterMap fewMessages.command = _
  rw [items_stopLine]
  decide

end Runs

end AndroidTether
