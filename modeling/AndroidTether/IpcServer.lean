import AndroidTether.ByteWords
import AndroidTether.ControlLoop
import AndroidTether.Delimited
import Mathlib.Data.List.Nodup
import Mathlib.Logic.Function.Basic

/-!
# The IPC server

`IpcServer` of `ipc.rs` and the clients on its Unix socket as a transition
system.  Clients connect, write and close between the calls of the main
thread; `poll` reads from every client through a buffered reader that lives
for one line only, and a broadcast offers one message to every client.
-/

namespace AndroidTether

def newline : UInt8 := 10

/-- The complete lines at the front of a stream. -/
def lineDelimiter : Delimiter UInt8 := .endingIn newline

/-- `str::from_utf8` succeeds. -/
def validUtf8 (bytes : Bytes) : Bool :=
  (ByteArray.mk bytes.toArray).validateUTF8

/-- How the stream from a client ends, if it has ended. -/
inductive IpcEnding
  | closed
  /-- Reading fails, and not because there is nothing to read yet. -/
  | broken
  deriving DecidableEq

/-- The kernel's side of a connection: what has arrived and was not read. -/
structure IpcSocket where
  inbox : Bytes
  ending : Option IpcEnding

/-- What `read_line` returns. -/
inductive IpcRead
  | line (line : Bytes)
  | eof
  | wouldBlock
  | failed
  deriving DecidableEq

/-- The default capacity of a `BufReader`. -/
def bufReaderCapacity : Nat := 8 * 1024

/-- The bytes up to the first newline. -/
def firstLine (inbox : Bytes) : Bytes :=
  inbox.take (inbox.idxOf newline + 1)

/-- How far the buffered reader has read when it finds the first newline: to
the end of a block. -/
def buffered (inbox : Bytes) : Nat :=
  (inbox.idxOf newline / bufReaderCapacity + 1) * bufReaderCapacity

/-- A line that was read, if it is text. -/
def textLine (line : Bytes) : IpcRead :=
  if validUtf8 line then .line line else .failed

/-- `read_line` on a new `BufReader`, and what is left for the next one. -/
def IpcSocket.readLine (socket : IpcSocket) : IpcRead × Bytes :=
  if newline ∈ socket.inbox then
    -- what is buffered behind the line is dropped with the reader
    (textLine (firstLine socket.inbox),
      socket.inbox.drop (buffered socket.inbox))
  else
    match socket.ending with
    | none => (.wouldBlock, [])
    | some .closed =>
      (if socket.inbox = [] then .eof else textLine socket.inbox, [])
    | some .broken => (.failed, [])

theorem IpcSocket.readLine_cases (socket : IpcSocket) :
    (∃ line, socket.readLine.1 = .line line) ∨
    (socket.readLine.1 = .eof ∧ socket.ending = some .closed) ∨
    (socket.readLine.1 = .wouldBlock ∧ newline ∉ socket.inbox ∧
      socket.ending = none) ∨
    (socket.readLine.1 = .failed ∧
      (newline ∈ socket.inbox ∨ socket.ending ≠ none)) := by
  have text (line : Bytes) :
      (∃ line', textLine line = .line line') ∨ textLine line = .failed := by
    unfold textLine
    split
    · exact .inl ⟨line, rfl⟩
    · exact .inr rfl
  unfold readLine
  split
  · rename_i member
    rcases text (firstLine socket.inbox) with
      ⟨line, isLine⟩ | failed
    · exact .inl ⟨line, isLine⟩
    · exact .inr (.inr (.inr ⟨failed, .inl member⟩))
  · rename_i absent
    cases endingEq : socket.ending with
    | none => exact .inr (.inr (.inl ⟨rfl, absent, rfl⟩))
    | some ending =>
        cases ending with
        | broken => exact .inr (.inr (.inr ⟨rfl, .inr (by simp)⟩))
        | closed =>
            by_cases empty : socket.inbox = []
            · exact .inr (.inl ⟨if_pos empty, rfl⟩)
            · rcases text socket.inbox with ⟨line, isLine⟩ | failed
              · exact .inl ⟨line, (if_neg empty).trans isLine⟩
              · exact .inr (.inr (.inr
                  ⟨(if_neg empty).trans failed, .inr (by simp)⟩))

/-- `retain_mut` keeps the client. -/
def IpcRead.keeps : IpcRead → Bool
  | .line _ => true
  | .eof | .wouldBlock | .failed => false

structure ClientMsg where
  msgType : String

def ClientMsg.command (msg : ClientMsg) : Option IpcCommand :=
  match msg.msgType with
  | "stop" => some .stop
  | "disable" => some .disable
  | "enable" => some .enable
  | _ => none

structure TetherStats where
  txMbps : Float
  rxMbps : Float
  txBytes : UInt64
  rxBytes : UInt64
  txPkts : UInt64
  rxPkts : UInt64

structure StatsMsg where
  msgType : String
  stats : TetherStats

structure StateMsg where
  msgType : String
  state : String
  ip : Option String
  iface : Option String

/-- What the server uses of `serde_json`. -/
structure SerdeJson where
  fromStr : Bytes → Option ClientMsg
  statsToString : StatsMsg → Option Bytes
  stateToString : StateMsg → Option Bytes
  /-- Control characters are escaped and nothing is pretty-printed. -/
  stats_oneLine : ∀ {msg json}, statsToString msg = some json → newline ∉ json
  state_oneLine : ∀ {msg json}, stateToString msg = some json → newline ∉ json

/-- The flag that a line sets. -/
def SerdeJson.command (serde : SerdeJson) (line : Bytes) : Option IpcCommand :=
  (serde.fromStr line).bind ClientMsg.command

/-- Connections are numbered in the order in which they are made. -/
structure IpcServer where
  sockets : Nat → IpcSocket
  connections : Nat
  /-- Connections that `accept` has not returned yet. -/
  backlog : List Nat
  clients : List Nat
  stopRequested : Bool
  disableRequested : Bool
  enableRequested : Bool

namespace IpcServer

/-- `IpcServer::new` with a bound listener; without one there are never any
clients. -/
def new : IpcServer where
  sockets := fun _ => ⟨[], none⟩
  connections := 0
  backlog := []
  clients := []
  stopRequested := false
  disableRequested := false
  enableRequested := false

/-- The connection exists on both sides. -/
def Connected (s : IpcServer) (id : Nat) : Prop :=
  id ∈ s.backlog ∨ id ∈ s.clients

def setSocket (s : IpcServer) (id : Nat) (socket : IpcSocket) : IpcServer :=
  { s with sockets := Function.update s.sockets id socket }

/-- `listener.accept`, once for each poll. -/
def accept (s : IpcServer) : IpcServer :=
  match s.backlog with
  | [] => s
  | id :: rest => { s with backlog := rest, clients := s.clients ++ [id] }

/-- What `read_line` returns for each client. -/
def reads (s : IpcServer) (id : Nat) : Option IpcRead :=
  if id ∈ s.clients then some (s.sockets id).readLine.1 else none

/-- A client's line sets the flag of the command. -/
def requested (serde : SerdeJson) (s : IpcServer) (command : IpcCommand) :
    Bool :=
  s.clients.any fun id =>
    match (s.sockets id).readLine.1 with
    | .line line => serde.command line = some command
    | .eof | .wouldBlock | .failed => false

/-- `clients.retain_mut` in `poll`.  `try_clone().unwrap()` panics when the
process is out of descriptors; there is no state behind that. -/
def readClients (serde : SerdeJson) (s : IpcServer) : IpcServer where
  sockets id :=
    if id ∈ s.clients
    then ⟨(s.sockets id).readLine.2, (s.sockets id).ending⟩ else s.sockets id
  connections := s.connections
  backlog := s.backlog
  clients := s.clients.filter fun id => (s.sockets id).readLine.1.keeps
  stopRequested := s.stopRequested || s.requested serde .stop
  disableRequested := s.disableRequested || s.requested serde .disable
  enableRequested := s.enableRequested || s.requested serde .enable

/-- `poll`: the command it returns, what it has read, and the server. -/
def poll (serde : SerdeJson) (s : IpcServer) :
    IpcCommand × (Nat → Option IpcRead) × IpcServer :=
  if s.stopRequested then
    (.stop, fun _ => none, { s with stopRequested := false })
  else if s.disableRequested then
    (.disable, fun _ => none, { s with disableRequested := false })
  else if s.enableRequested then
    (.enable, fun _ => none, { s with enableRequested := false })
  else (.none, s.accept.reads, s.accept.readClients serde)

end IpcServer

/-- What becomes of one client in a broadcast. -/
inductive IpcWrite
  /-- `write_all` has written that many bytes; it has failed if the message is
  longer. -/
  | taken (count : Nat)
  /-- `try_clone` has failed. -/
  | notCloned
  deriving DecidableEq

/-- `broadcast` with the outcome for each client. -/
def IpcServer.broadcast (s : IpcServer) (writes : Nat → Option IpcWrite) :
    IpcServer :=
  { s with clients := s.clients.filter fun id => writes id ≠ some .notCloned }

def sendStats (serde : SerdeJson) (stats : TetherStats) : Option Bytes :=
  (serde.statsToString ⟨"stats", stats⟩).map (· ++ [newline])

def sendState (serde : SerdeJson) (state : String)
    (ip iface : Option String) : Option Bytes :=
  (serde.stateToString ⟨"state", state, ip, iface⟩).map (· ++ [newline])

/-- The bytes that `send_stats` or `send_state` broadcasts. -/
def SerdeJson.Message (serde : SerdeJson) (data : Bytes) : Prop :=
  (∃ stats, sendStats serde stats = some data) ∨
    ∃ state ip iface, sendState serde state ip iface = some data

inductive IpcEvent
  | connected (id : Nat)
  | received (id : Nat) (bytes : Bytes)
  | ended (id : Nat) (ending : IpcEnding)
  | polled (command : IpcCommand) (reads : Nat → Option IpcRead)
  | sent (data : Bytes) (writes : Nat → Option IpcWrite)

/-- One call of the main thread, or one action of a client. -/
inductive IpcStep (serde : SerdeJson) : IpcServer → IpcEvent → IpcServer → Prop
  | connect {s : IpcServer} :
      IpcStep serde s (.connected s.connections)
        { s.setSocket s.connections ⟨[], none⟩ with
          connections := s.connections + 1
          backlog := s.backlog ++ [s.connections] }
  | receive {s : IpcServer} {id : Nat} (bytes : Bytes)
      (connected : s.Connected id) (opened : (s.sockets id).ending = none) :
      IpcStep serde s (.received id bytes)
        (s.setSocket id ⟨(s.sockets id).inbox ++ bytes, none⟩)
  | finish {s : IpcServer} {id : Nat} (ending : IpcEnding)
      (connected : s.Connected id) (opened : (s.sockets id).ending = none) :
      IpcStep serde s (.ended id ending)
        (s.setSocket id ⟨(s.sockets id).inbox, some ending⟩)
  | poll {s next : IpcServer} {command : IpcCommand}
      {reads : Nat → Option IpcRead}
      (result : s.poll serde = (command, reads, next)) :
      IpcStep serde s (.polled command reads) next
  | send {s : IpcServer} {data : Bytes} {writes : Nat → Option IpcWrite}
      (message : serde.Message data)
      (offered : ∀ id, (writes id).isSome ↔ id ∈ s.clients)
      (fits : ∀ id count, writes id = some (.taken count) →
        count ≤ data.length) :
      IpcStep serde s (.sent data writes) (s.broadcast writes)

namespace IpcServer

/-- The flag that makes `poll` return the command. -/
def flag (s : IpcServer) : IpcCommand → Bool
  | .stop => s.stopRequested
  | .disable => s.disableRequested
  | .enable => s.enableRequested
  | .none | .status => false

def clear (s : IpcServer) : IpcCommand → IpcServer
  | .stop => { s with stopRequested := false }
  | .disable => { s with disableRequested := false }
  | .enable => { s with enableRequested := false }
  | .none | .status => s

/-- A poll either returns a command that was requested before, or it finds no
flag set and reads. -/
theorem poll_cases (serde : SerdeJson) (s : IpcServer) :
    (∃ command, s.flag command = true ∧
      s.poll serde = (command, fun _ => none, s.clear command)) ∨
    ((∀ command, s.flag command = false) ∧
      s.poll serde = (.none, s.accept.reads, s.accept.readClients serde)) := by
  unfold poll
  by_cases stop : s.stopRequested
  · exact .inl ⟨.stop, stop, if_pos stop⟩
  by_cases disable : s.disableRequested
  · exact .inl ⟨.disable, disable, by rw [if_neg stop, if_pos disable]; rfl⟩
  by_cases enable : s.enableRequested
  · exact .inl ⟨.enable, enable,
      by rw [if_neg stop, if_neg disable, if_pos enable]; rfl⟩
  refine .inr ⟨fun command => ?_,
    by rw [if_neg stop, if_neg disable, if_neg enable]⟩
  cases command <;> first | exact Bool.eq_false_of_not_eq_true ‹_› | rfl

variable {s : IpcServer} {command : IpcCommand}

theorem setSocket_sockets (id other : Nat) (socket : IpcSocket) :
    (s.setSocket other socket).sockets id =
      if id = other then socket else s.sockets id :=
  Function.update_apply s.sockets other socket id

@[simp] theorem clear_sockets : (s.clear command).sockets = s.sockets := by
  cases command <;> rfl

@[simp] theorem clear_connections :
    (s.clear command).connections = s.connections := by
  cases command <;> rfl

@[simp] theorem clear_backlog : (s.clear command).backlog = s.backlog := by
  cases command <;> rfl

@[simp] theorem clear_clients : (s.clear command).clients = s.clients := by
  cases command <;> rfl

theorem clear_flag_of_ne {other : IpcCommand} (ne : other ≠ command) :
    (s.clear command).flag other = s.flag other := by
  cases command <;> cases other <;> first | rfl | exact absurd rfl ne

@[simp] theorem accept_sockets : s.accept.sockets = s.sockets := by
  unfold accept
  split <;> rfl

@[simp] theorem accept_connections : s.accept.connections = s.connections := by
  unfold accept
  split <;> rfl

theorem accept_perm : (s.accept.backlog ++ s.accept.clients).Perm
    (s.backlog ++ s.clients) := by
  unfold accept
  split
  · exact .refl _
  · rename_i id rest backlogEq
    rw [backlogEq, ← List.append_assoc]
    exact List.perm_append_singleton id (rest ++ s.clients)

theorem accept_backlog_suffixOf : s.accept.backlog <:+ s.backlog := by
  unfold accept
  split
  · exact List.suffix_refl _
  · rename_i id rest backlogEq
    rw [backlogEq]
    exact List.suffix_cons id rest

theorem accept_connected {id : Nat} :
    s.accept.Connected id ↔ s.Connected id := by
  rw [Connected, Connected, ← List.mem_append, ← List.mem_append,
    accept_perm.mem_iff]

theorem readClients_flag (serde : SerdeJson) :
    (s.readClients serde).flag command =
      (s.flag command || (s.requested serde command &&
        (command ≠ .none && command ≠ .status))) := by
  cases command <;> simp [flag, readClients]

@[simp] theorem readClients_ending (serde : SerdeJson) (id : Nat) :
    ((s.readClients serde).sockets id).ending = (s.sockets id).ending := by
  simp only [readClients]
  split <;> rfl

theorem mem_readClients (serde : SerdeJson) {id : Nat} :
    id ∈ (s.readClients serde).clients ↔
      id ∈ s.clients ∧ (s.sockets id).readLine.1.keeps = true :=
  List.mem_filter

/-- No connection is in the lists twice, and numbers are not used again. -/
structure Ordered (s : IpcServer) : Prop where
  nodup : (s.backlog ++ s.clients).Nodup
  made : ∀ id, s.Connected id → id < s.connections

namespace Ordered

theorem new : Ordered .new where
  nodup := List.nodup_nil
  made _ connected := by simp [Connected, IpcServer.new] at connected

theorem not_waiting {id : Nat} (ordered : s.Ordered)
    (served : id ∈ s.clients) : id ∉ s.backlog := fun waiting =>
  (List.nodup_append.mp ordered.nodup).2.2 id waiting id served rfl

theorem filter {next : IpcServer} (ordered : s.Ordered) (kept : Nat → Bool)
    (backlogEq : next.backlog = s.backlog)
    (clientsEq : next.clients = s.clients.filter kept)
    (connectionsEq : next.connections = s.connections) : next.Ordered where
  nodup := by
    rw [backlogEq, clientsEq]
    exact ordered.nodup.sublist
      (List.filter_sublist.append_left s.backlog)
  made id connected := by
    rw [Connected, backlogEq, clientsEq] at connected
    rw [connectionsEq]
    exact ordered.made id (connected.imp_right List.mem_of_mem_filter)

theorem clear (ordered : s.Ordered) : (s.clear command).Ordered where
  nodup := by
    rw [clear_backlog, clear_clients]
    exact ordered.nodup
  made id connected := by
    rw [Connected, clear_backlog, clear_clients] at connected
    rw [clear_connections]
    exact ordered.made id connected

theorem accept (ordered : s.Ordered) : s.accept.Ordered where
  nodup := accept_perm.nodup_iff.mpr ordered.nodup
  made id connected := by
    rw [accept_connections]
    exact ordered.made id (accept_connected.mp connected)

theorem step {serde : SerdeJson} {next : IpcServer} {event : IpcEvent}
    (ordered : s.Ordered) (taken : IpcStep serde s event next) :
    next.Ordered := by
  cases taken with
  | connect =>
      have fresh : s.connections ∉ s.backlog ++ s.clients := fun member =>
        absurd (ordered.made _ (List.mem_append.mp member)) (Nat.lt_irrefl _)
      refine ⟨?_, fun id connected => ?_⟩
      · change ((s.backlog ++ [s.connections]) ++ s.clients).Nodup
        rw [List.append_assoc]
        exact List.nodup_middle.mpr
          (List.nodup_cons.mpr ⟨fresh, ordered.nodup⟩)
      · rcases connected with waiting | served
        · rcases List.mem_append.mp waiting with before | isNew
          · exact Nat.lt_succ_of_lt (ordered.made id (.inl before))
          · exact List.mem_singleton.mp isNew ▸ Nat.lt_succ_self _
        · exact Nat.lt_succ_of_lt (ordered.made id (.inr served))
  | receive | finish => exact ⟨ordered.nodup, ordered.made⟩
  | poll result =>
      rcases poll_cases serde s with
        ⟨command, -, resultEq⟩ | ⟨-, resultEq⟩
      · rw [resultEq] at result
        cases result
        exact ordered.clear
      · rw [resultEq] at result
        cases result
        exact ordered.accept.filter _ rfl rfl rfl
  | send => exact ordered.filter _ rfl rfl rfl

end Ordered

end IpcServer

namespace IpcStep

variable {serde : SerdeJson} {s next : IpcServer} {event : IpcEvent}
  {id : Nat} {ending : IpcEnding}

theorem poll_cases {command : IpcCommand} {reads : Nat → Option IpcRead}
    (taken : IpcStep serde s (.polled command reads) next) :
    (s.flag command = true ∧ (reads = fun _ => none) ∧
      next = s.clear command) ∨
    ((∀ flag, s.flag flag = false) ∧ command = .none ∧
      reads = s.accept.reads ∧ next = s.accept.readClients serde) := by
  cases taken with
  | poll result =>
      rcases s.poll_cases serde with ⟨returned, isSet, resultEq⟩ | ⟨clear, resultEq⟩
      · rw [resultEq] at result
        cases result
        exact .inl ⟨isSet, rfl, rfl⟩
      · rw [resultEq] at result
        cases result
        exact .inr ⟨clear, rfl, rfl, rfl⟩

theorem connections_le (taken : IpcStep serde s event next) :
    s.connections ≤ next.connections := by
  cases event with
  | polled command reads =>
      rcases taken.poll_cases with ⟨-, -, rfl⟩ | ⟨-, -, -, rfl⟩
      · rw [IpcServer.clear_connections]
      · exact (IpcServer.accept_connections (s := s)).ge
  | connected id =>
      cases taken
      exact Nat.le_succ _
  | received | ended | sent =>
      cases taken
      exact le_rfl

/-- Connections that are gone do not come back. -/
theorem connected (taken : IpcStep serde s event next)
    (connected : next.Connected id) :
    s.Connected id ∨ id = s.connections := by
  cases event with
  | polled command reads =>
      left
      rcases taken.poll_cases with ⟨-, -, rfl⟩ | ⟨-, -, -, rfl⟩
      · rw [IpcServer.Connected, IpcServer.clear_backlog,
          IpcServer.clear_clients] at connected
        exact connected
      · refine IpcServer.accept_connected.mp ?_
        exact connected.imp_right fun served =>
          ((IpcServer.mem_readClients serde).mp served).1
  | connected =>
      cases taken
      rcases connected with waiting | served
      · rcases List.mem_append.mp waiting with before | isNew
        · exact .inl (.inl before)
        · exact .inr (List.mem_singleton.mp isNew)
      · exact .inl (.inr served)
  | received | ended =>
      cases taken
      exact .inl connected
  | sent =>
      cases taken
      exact .inl (connected.imp_right List.mem_of_mem_filter)

/-- Accepted connections do not go back into the backlog. -/
theorem waiting (taken : IpcStep serde s event next)
    (waiting : id ∈ next.backlog) : id ∈ s.backlog ∨ id = s.connections := by
  cases event with
  | polled command reads =>
      left
      rcases taken.poll_cases with ⟨-, -, rfl⟩ | ⟨-, -, -, rfl⟩
      · rwa [IpcServer.clear_backlog] at waiting
      · exact IpcServer.accept_backlog_suffixOf.subset waiting
  | connected =>
      cases taken
      exact (List.mem_append.mp waiting).imp_right List.mem_singleton.mp
  | received | ended | sent =>
      cases taken
      exact .inl waiting

theorem ended_of_ending (taken : IpcStep serde s event next)
    (isEnded : (next.sockets id).ending = some ending) :
    (s.sockets id).ending = some ending ∨ event = .ended id ending := by
  cases event with
  | polled command reads =>
      left
      rcases taken.poll_cases with ⟨-, -, rfl⟩ | ⟨-, -, -, rfl⟩
      · rwa [IpcServer.clear_sockets] at isEnded
      · rwa [IpcServer.readClients_ending, IpcServer.accept_sockets] at isEnded
  | connected other | received other bytes =>
      cases taken
      simp only [IpcServer.setSocket_sockets] at isEnded
      split at isEnded
      · cases isEnded
      · exact .inl isEnded
  | ended other kind =>
      cases taken
      simp only [IpcServer.setSocket_sockets] at isEnded
      split at isEnded
      · rename_i same
        cases isEnded
        exact .inr (by rw [same])
      · exact .inl isEnded
  | sent data writes =>
      cases taken
      exact .inl isEnded

theorem ending_stays (taken : IpcStep serde s event next)
    (made : id < s.connections) (isEnded : (s.sockets id).ending = some ending) :
    (next.sockets id).ending = some ending := by
  -- what is set is the socket of a new connection, or of one still open
  have other {open_ : Nat} (opened : (s.sockets open_).ending = none) :
      id ≠ open_ := by
    rintro rfl
    rw [opened] at isEnded
    cases isEnded
  cases event with
  | polled command reads =>
      rcases taken.poll_cases with ⟨-, -, rfl⟩ | ⟨-, -, -, rfl⟩
      · rwa [IpcServer.clear_sockets]
      · rwa [IpcServer.readClients_ending, IpcServer.accept_sockets]
  | connected =>
      cases taken
      simp only [IpcServer.setSocket_sockets, if_neg made.ne]
      exact isEnded
  | received =>
      cases taken with
      | receive bytes connected opened =>
          rw [IpcServer.setSocket_sockets, if_neg (other opened)]
          exact isEnded
  | ended =>
      cases taken with
      | finish kind connected opened =>
          rw [IpcServer.setSocket_sockets, if_neg (other opened)]
          exact isEnded
  | sent =>
      cases taken
      exact isEnded

end IpcStep

/-- The UTF-8 bytes of a text. -/
def utf8 (text : String) : Bytes :=
  text.toUTF8.data.toList

def stopLine : Bytes := utf8 "\x7b\"type\":\"stop\"\x7d\n"

def disableLine : Bytes := utf8 "\x7b\"type\":\"disable\"\x7d\n"

def disconnectedJson : Bytes :=
  utf8 "\x7b\"type\":\"state\",\"state\":\"disconnected\"\x7d"

/-- Two command lines and a state message as `serde_json` treats them; it
treats more. -/
def fewMessages : SerdeJson where
  fromStr line :=
    if line = stopLine then some ⟨"stop"⟩
    else if line = disableLine then some ⟨"disable"⟩ else none
  statsToString _ := none
  stateToString msg :=
    if msg.msgType = "state" ∧ msg.state = "disconnected" ∧ msg.ip = none ∧
        msg.iface = none
    then some disconnectedJson else none
  stats_oneLine encoded := by cases encoded
  state_oneLine encoded := by
    split at encoded
    · cases encoded
      decide
    · cases encoded

/-- A client has connected, and nothing else has happened. -/
def IpcServer.connectedOnce : IpcServer :=
  { IpcServer.new.setSocket 0 ⟨[], none⟩ with connections := 1, backlog := [0] }

/-- Its first command has arrived as well. -/
def IpcServer.commandedOnce : IpcServer :=
  IpcServer.connectedOnce.setSocket 0 ⟨stopLine, none⟩

/-- A poll has accepted the client and read the command. -/
def IpcServer.servingOnce : IpcServer :=
  IpcServer.commandedOnce.accept.readClients fewMessages

theorem connectedOnce_step :
    IpcStep fewMessages .new (.connected 0) .connectedOnce :=
  .connect

theorem commandedOnce_step :
    IpcStep fewMessages .connectedOnce (.received 0 stopLine) .commandedOnce :=
  .receive stopLine (.inl (by decide)) rfl

theorem servingOnce_step :
    IpcStep fewMessages .commandedOnce
      (.polled .none IpcServer.commandedOnce.accept.reads) .servingOnce :=
  .poll rfl

end AndroidTether
