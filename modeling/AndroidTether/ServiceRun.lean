import AndroidTether.Composition
import AndroidTether.IpcExchange
import AndroidTether.ProgramRun
import AndroidTether.SessionStop

/-!
# The program and its clients

The main thread, the network state and the IPC server with its clients in one
system.  What a client reads agrees with the network, and what ends a session
is Ctrl-C, the loss of the device or a line of a client.
-/

namespace AndroidTether

inductive IpcMessage
  | state (call : StateCall)
  | stats (stats : TetherStats)

namespace IpcMessage

def encode (serde : SerdeJson) : IpcMessage → Option Bytes
  | .state call => sendState serde call.state call.ip call.iface
  | .stats figures => sendStats serde figures

def call : IpcMessage → Option StateCall
  | .state call => some call
  | .stats _ => none

end IpcMessage

structure TetherService where
  program : Program
  ipc : IpcServer
  /-- Messages that the main thread is about to send. -/
  unsent : List IpcMessage

def TetherService.initial (network : NetworkState) : TetherService where
  program := .initial network
  ipc := .new
  unsent := []

/-- What a client does. -/
def IpcEvent.OfClient : IpcEvent → Prop
  | .connected _ | .received .. | .ended .. => True
  | .polled .. | .sent .. => False

/-- Before it polls, the main loop of a session sends the statistics. -/
def Reports (s next : ControlState) (reports : List IpcMessage) : Prop :=
  if s.pc = .iteration ∧ next.pc = .polling
  then ∃ stats, reports = [.stats stats] else reports = []

inductive ServiceEvent
  | control (event : ControlEvent)
  | polled (place : PollPlace) (command : IpcCommand)
      (reads : Nat → Option IpcRead)
  | client (event : IpcEvent)
  | sent (message : IpcMessage) (data : Bytes)
      (writes : Nat → Option IpcWrite)
  | dropped (message : IpcMessage)

inductive ServiceStep (build : Build) (config : TetherConfig)
    (serde : SerdeJson) : TetherService → ServiceEvent → TetherService → Prop
  | control {s : TetherService} {event : ControlEvent} {next : Program}
      {calls : List StateCall} {reports : List IpcMessage}
      (taken : ProgramStep build config s.program event next)
      (noPoll : ∀ place command, event ≠ .polled place command)
      (told : next.told = s.program.told ++ calls)
      (reported : Reports s.program.control next.control reports)
      -- while it sends, the main thread does nothing else
      (ready : s.unsent = [] ∨ next.control.pc = s.program.control.pc) :
      ServiceStep build config serde s (.control event)
        { s with
          program := next
          unsent := s.unsent ++ (calls.map .state ++ reports) }
  | poll {s : TetherService} {place : PollPlace} {command : IpcCommand}
      {reads : Nat → Option IpcRead} {next : Program} {ipc : IpcServer}
      {calls : List StateCall}
      (taken : ProgramStep build config s.program (.polled place command) next)
      (polled : IpcStep serde s.ipc (.polled command reads) ipc)
      (told : next.told = s.program.told ++ calls) (ready : s.unsent = []) :
      ServiceStep build config serde s (.polled place command reads)
        { program := next, ipc := ipc, unsent := calls.map .state }
  | client {s : TetherService} {event : IpcEvent} {ipc : IpcServer}
      (acts : event.OfClient) (taken : IpcStep serde s.ipc event ipc) :
      ServiceStep build config serde s (.client event) { s with ipc := ipc }
  | send {s : TetherService} {message : IpcMessage} {rest : List IpcMessage}
      {data : Bytes} {writes : Nat → Option IpcWrite} {ipc : IpcServer}
      (first : s.unsent = message :: rest)
      (encoded : message.encode serde = some data)
      (taken : IpcStep serde s.ipc (.sent data writes) ipc) :
      ServiceStep build config serde s (.sent message data writes)
        { s with ipc := ipc, unsent := rest }
  | drop {s : TetherService} {message : IpcMessage} {rest : List IpcMessage}
      (first : s.unsent = message :: rest)
      (fails : message.encode serde = none) :
      ServiceStep build config serde s (.dropped message)
        { s with unsent := rest }

namespace ServiceEvent

def controlEvent : ServiceEvent → Option ControlEvent
  | control event => some event
  | polled place command _ => some (.polled place command)
  | client _ | sent .. | dropped _ => none

def ipcEvent : ServiceEvent → Option IpcEvent
  | control _ | dropped _ => none
  | polled _ command reads => some (.polled command reads)
  | client event => some event
  | sent _ data writes => some (.sent data writes)

/-- The messages that the main thread is done with. -/
def said : ServiceEvent → List IpcMessage
  | sent message _ _ | dropped message => [message]
  | control _ | polled .. | client _ => []

/-- What the events of a run show by themselves. -/
def Genuine (serde : SerdeJson) : ServiceEvent → Prop
  | control event => ∀ place command, event ≠ .polled place command
  | sent message data _ => message.encode serde = some data
  | dropped message => message.encode serde = none
  | client event => event.OfClient
  | polled .. => True

end ServiceEvent

section Parts

variable {build : Build} {config : TetherConfig} {serde : SerdeJson}
  {trace : List ServiceEvent} {s next : TetherService} {event : ServiceEvent}
  {before : NetworkState}

def programPart : ComponentOf (ServiceStep build config serde)
    (ProgramStep build config) where
  view := TetherService.program
  label := ServiceEvent.controlEvent
  moves := by
    intro s event next taken
    cases taken with
    | control taken => exact .takes taken
    | poll taken => exact .takes taken
    | client | send | drop => exact .stays

def ipcPart : ComponentOf (ServiceStep build config serde)
    (IpcStep serde) where
  view := TetherService.ipc
  label := ServiceEvent.ipcEvent
  moves := by
    intro s event next taken
    cases taken with
    | control | drop => exact .stays
    | poll taken polled => exact .takes polled
    | client acts taken => exact .takes taken
    | send first encoded taken => exact .takes taken

/-- The main thread without the network. -/
def controlPart : ComponentOf (ProgramStep build config)
    (ControlStep config.watchMode) where
  view := Program.control
  label := some
  moves := by
    intro p event next taken
    cases taken with
    | opens taken | stops taken | closes taken | inside taken =>
        exact .takes taken

/-- Every state message is said or about to be. -/
def AllSaid (trace : List ServiceEvent) (s : TetherService) : Prop :=
  s.program.told =
    (trace.flatMap ServiceEvent.said ++ s.unsent).filterMap IpcMessage.call

theorem filterMap_state (calls : List StateCall) :
    (calls.map IpcMessage.state).filterMap IpcMessage.call = calls := by
  rw [List.filterMap_map]
  exact List.filterMap_some

theorem Reports.noCall {s next : ControlState} {reports : List IpcMessage}
    (reported : Reports s next reports) :
    reports.filterMap IpcMessage.call = [] := by
  unfold Reports at reported
  split at reported
  · obtain ⟨stats, rfl⟩ := reported
    rfl
  · rw [reported]
    rfl

theorem AllSaid.step (allSaid : AllSaid trace s)
    (taken : ServiceStep build config serde s event next) :
    AllSaid (trace ++ [event]) next := by
  unfold AllSaid at allSaid ⊢
  rw [List.flatMap_append, List.flatMap_singleton]
  cases taken with
  | control taken noPoll told reported =>
      rw [told, allSaid]
      simp only [ServiceEvent.said, List.append_nil, List.filterMap_append,
        filterMap_state, reported.noCall, List.append_assoc]
  | poll taken polled told ready =>
      rw [told, allSaid, ready]
      simp only [ServiceEvent.said, List.append_nil, List.filterMap_append,
        filterMap_state]
  | client =>
      simp only [ServiceEvent.said, List.append_nil]
      exact allSaid
  | send first | drop first =>
      rw [allSaid, first]
      simp [ServiceEvent.said]

theorem AllSaid.of_run
    (run : Run (ServiceStep build config serde) (.initial before) trace s) :
    AllSaid trace s :=
  run.history rfl AllSaid.step

theorem genuine_of_run
    (run : Run (ServiceStep build config serde) (.initial before) trace s) :
    ∀ event ∈ trace, event.Genuine serde := by
  induction run with
  | nil => exact fun _ member => absurd member List.not_mem_nil
  | snoc run taken ih =>
      intro event member
      rcases List.mem_append.mp member with earlier | isLast
      · exact ih event earlier
      · rw [List.mem_singleton.mp isLast]
        cases taken with
        | control taken noPoll => exact noPoll
        | poll => trivial
        | client acts => exact acts
        | send first encoded => exact encoded
        | drop first fails => exact fails

theorem broadcasts_said (genuine : ∀ event ∈ trace, event.Genuine serde) :
    broadcasts (trace.filterMap ServiceEvent.ipcEvent) =
      (trace.flatMap ServiceEvent.said).filterMap
        (IpcMessage.encode serde) := by
  induction trace with
  | nil => rfl
  | cons event trace ih =>
      have later := ih fun other member =>
        genuine other (List.mem_cons_of_mem _ member)
      have here := genuine event List.mem_cons_self
      rw [List.flatMap_cons, List.filterMap_append, ← later]
      cases event with
      | control | polled => rfl
      | client event =>
          cases event with
          | connected | received | ended => rfl
          | polled | sent => cases here
      | sent message data writes =>
          have encoded : message.encode serde = some data := here
          have bytes : [message].filterMap (IpcMessage.encode serde) =
              [data] := by
            rw [List.filterMap_cons, encoded]
            rfl
          rw [ServiceEvent.said, bytes]
          rfl
      | dropped message =>
          have fails : message.encode serde = none := here
          have nothing : [message].filterMap (IpcMessage.encode serde) =
              [] := by
            rw [List.filterMap_cons, fails]
            rfl
          rw [ServiceEvent.said, nothing]
          rfl

end Parts

/-- A state message tells what the session is. -/
def StateCall.Says (call : StateCall) : Option OpenSession → Prop
  | none => call.state ≠ "connected"
  | some session => call = .connected session

/-- The last state message tells what the session is. -/
theorem Truthful.says {config : TetherConfig} {before : NetworkState}
    {ended : List OpenSession} {p : Program} {call : StateCall}
    (truthful : Truthful config before ended p)
    (isLast : p.told.getLast? = some call) : call.Says p.session := by
  have watch : config.watchMode = true := by
    cases mode : config.watchMode with
    | true => rfl
    | false =>
        rw [(truthful.once mode).1] at isLast
        cases isLast
  have current := truthful.current watch
  cases isOpen : p.session with
  | none =>
      intro isConnected
      have inside :=
        truthful.inside.mpr (current.mp ⟨call, isLast, isConnected⟩)
      rw [isOpen] at inside
      cases inside
  | some session =>
      have inside := truthful.inside.mp (by simp [isOpen])
      obtain ⟨other, isOther, isConnected⟩ := current.mpr inside
      rw [isLast] at isOther
      cases isOther
      obtain ⟨told, toldEq⟩ := List.getLast?_eq_some_iff.mp isLast
      have isLink : call.IsLink := .inl isConnected
      have links := truthful.links
      simp only [toldEq, isOpen, List.filter_append, List.filter_cons,
        isLink, decide_true, if_true, List.filter_nil, Option.toList_some,
        List.flatMap_singleton, tells_of_watch watch] at links
      obtain ⟨-, lastEq⟩ := List.append_inj' links rfl
      exact List.singleton_inj.mp lastEq

/-- What was said since the poll that accepted a client, and what the client
has received of it. -/
structure Informed (serde : SerdeJson) (id : Nat) (trace : List ServiceEvent)
    (s : TetherService) (earlier later : List ServiceEvent) : Prop where
  accepted : ∃ place reads,
    trace = earlier ++ .polled place .none reads :: later ∧
    (reads id).isSome ∧ ∀ place command reads,
      .polled place command reads ∈ earlier → reads id = none
  stream : outputStream id (trace.filterMap ServiceEvent.ipcEvent) =
    ((later.flatMap ServiceEvent.said).filterMap
      (IpcMessage.encode serde)).flatten
  /-- The last state message that was said is true.  One that `serde_json` does
  not encode counts, although no client hears it. -/
  current : s.unsent = [] → ∀ call,
    ((later.flatMap ServiceEvent.said).filterMap IpcMessage.call).getLast? =
      some call → call.Says s.program.session

/-- The network and what the clients in the list were told of it. -/
structure ClientsInformed (config : TetherConfig) (before : NetworkState)
    (serde : SerdeJson) (trace : List ServiceEvent) (s : TetherService) :
    Prop where
  truthful : ∃ ended, Truthful config before ended s.program
  clients : ∀ id ∈ s.ipc.clients,
    (∀ piece ∈ pieces id (trace.filterMap ServiceEvent.ipcEvent),
      piece.data.length ≤ piece.count) →
    ∃ earlier later, Informed serde id trace s earlier later

section Runs

variable {build : Build} {config : TetherConfig} {serde : SerdeJson}
  {trace : List ServiceEvent} {s : TetherService} {before : NetworkState}

/-- A poll of the server is a poll of the main thread. -/
theorem exists_polled {earlier later : List IpcEvent} {command : IpcCommand}
    {reads : Nat → Option IpcRead}
    (splitEq : trace.filterMap ServiceEvent.ipcEvent =
      earlier ++ .polled command reads :: later)
    (genuine : ∀ event ∈ trace, event.Genuine serde) :
    ∃ front place behind,
      trace = front ++ .polled place command reads :: behind ∧
      front.filterMap ServiceEvent.ipcEvent = earlier ∧
      behind.filterMap ServiceEvent.ipcEvent = later := by
  obtain ⟨front, event, behind, rfl, isPoll, frontEq, behindEq⟩ :=
    exists_of_filterMap_eq splitEq
  cases event with
  | polled place other otherReads =>
      cases isPoll
      exact ⟨front, place, behind, rfl, frontEq, behindEq⟩
  | client event =>
      cases isPoll
      exact False.elim (genuine (.client (.polled command reads)) (by simp))
  | control | sent | dropped => cases isPoll

/-- In every run each client that is in the list and has taken its messages
whole has heard everything since it was accepted, and what it has heard last
of the session is so. -/
theorem clients_informed
    (run : Run (ServiceStep build config serde) (.initial before) trace s) :
    ClientsInformed config before serde trace s := by
  have programRun := (@programPart build config serde).run run
  have ipcRun := (@ipcPart build config serde).run run
  obtain ⟨ended, truthful⟩ := Truthful.of_run programRun
  have genuine := genuine_of_run run
  refine ⟨⟨ended, truthful⟩, fun id served whole => ?_⟩
  obtain ⟨earlier, reads, later, splitEq, isRead, first, offersEq⟩ :=
    (OffersAll.of_run ipcRun).served id served
  obtain ⟨front, place, behind, rfl, frontEq, behindEq⟩ :=
    exists_polled splitEq genuine
  refine ⟨front, behind, ⟨place, reads, rfl, isRead, ?_⟩, ?_, ?_⟩
  · intro otherPlace command otherReads member
    have inEarlier : .polled command otherReads ∈ earlier := by
      rw [← frontEq]
      exact List.mem_filterMap.mpr ⟨_, member, rfl⟩
    exact Option.not_isSome_iff_eq_none.mp (first _ inEarlier)
  · rw [outputStream_of_whole whole]
    refine congrArg List.flatten (offersEq.trans ?_)
    rw [← behindEq]
    exact broadcasts_said fun event member => genuine event (by simp [member])
  · intro ready call isLast
    have told : s.program.told = _ := AllSaid.of_run run
    have last : s.program.told.getLast? = some call := by
      rw [told, ready]
      simp [ServiceEvent.said, isLast]
    exact truthful.says last

end Runs

/-- A field that is left out when it is `None`. -/
def jsonField (name : String) : Option String → String
  | none => ""
  | some value => ",\"" ++ name ++ "\":\"" ++ value ++ "\""

def stateText (msg : StateMsg) : Bytes :=
  utf8 ("\x7b\"type\":\"" ++ msg.msgType ++ "\",\"state\":\"" ++ msg.state ++
    "\"" ++ jsonField "ip" msg.ip ++ jsonField "iface" msg.iface ++ "\x7d")

def idleStats : Bytes :=
  utf8 ("\x7b\"type\":\"stats\",\"tx_mbps\":0.0,\"rx_mbps\":0.0," ++
    "\"tx_bytes\":0,\"rx_bytes\":0,\"tx_pkts\":0,\"rx_pkts\":0\x7d")

/-- `serde_json` for texts that need no escapes, on a link without traffic. -/
def plainJson : SerdeJson where
  fromStr line := if line = stopLine then some ⟨"stop"⟩ else none
  statsToString _ := some idleStats
  stateToString msg :=
    if newline ∈ stateText msg then none else some (stateText msg)
  stats_oneLine encoded := by
    cases encoded
    decide +kernel
  state_oneLine encoded := by
    split at encoded
    · cases encoded
    · cases encoded
      assumption

/-- The server has accepted a client and read its command. -/
def IpcServer.servingPlain : IpcServer :=
  IpcServer.commandedOnce.accept.readClients plainJson

theorem IpcMessage.encode_message {serde : SerdeJson} {message : IpcMessage}
    {data : Bytes} (encoded : message.encode serde = some data) :
    serde.Message data := by
  cases message with
  | state call => exact .inr ⟨_, _, _, encoded⟩
  | stats figures => exact .inl ⟨_, encoded⟩

theorem sendFirst {s : IpcServer} (only : s.clients = [0])
    {message : IpcMessage} {data : Bytes}
    (encoded : message.encode plainJson = some data) :
    IpcStep plainJson s (.sent data (firstTakes data.length)) s := by
  have stays : s.broadcast (firstTakes data.length) = s := by
    cases s
    cases only
    rfl
  have sent := @IpcStep.send plainJson s data (firstTakes data.length)
    (message.encode_message encoded) (fun id => ?_) (fun id count written => ?_)
  · rwa [stays] at sent
  · rw [only, List.mem_singleton, firstTakes]
    split <;> simp [*]
  · rw [firstTakes] at written
    split at written
    · cases written
      exact le_rfl
    · cases written

theorem sendNobody {s : IpcServer} (nobody : s.clients = [])
    {message : IpcMessage} {data : Bytes}
    (encoded : message.encode plainJson = some data) :
    IpcStep plainJson s (.sent data fun _ => none) s := by
  have stays : s.broadcast (fun _ => none) = s := by
    cases s
    cases nobody
    rfl
  have sent := @IpcStep.send plainJson s data (fun _ => none)
    (message.encode_message encoded) (fun id => by simp [nobody])
    (fun id count written => by cases written)
  rwa [stays] at sent

def phoneSession : OpenSession :=
  ⟨usualPhoneLease, "utun0"⟩

theorem commandedPlain : IpcStep plainJson .connectedOnce
    (.received 0 stopLine) .commandedOnce :=
  .receive stopLine (.inl (by decide)) rfl

theorem pollPlain : IpcStep plainJson .commandedOnce
    (.polled .none IpcServer.commandedOnce.accept.reads) .servingPlain :=
  .poll rfl

theorem servingPlain_clients : IpcServer.servingPlain.clients = [0] := by
  decide +kernel

theorem run_connected :
    ∃ trace p data, Run (ServiceStep .release watchingConfig plainJson)
        (.initial resolvingState) trace ⟨p, .servingPlain, []⟩ ∧
      p.control = .session ∧ p.session = some phoneSession ∧
      (IpcMessage.state (.connected phoneSession)).encode plainJson =
        some data ∧
      pieces 0 (trace.filterMap ServiceEvent.ipcEvent) =
        [⟨data, data.length⟩] ∧
      .control (.stopped .ctrlC) ∉ trace := by
  obtain ⟨unit, log, created⟩ : ∃ unit log, Utun.create usualWorld.kernel [] =
      .ok ⟨3, unit, "utun0"⟩ log := ⟨_, _, rfl⟩
  have done := @setUp_eq .release watchingConfig usualDevice usualService
    usualWorld _ log resolvingState usualWorld_follows created rfl
  have idleEncodes : ((IpcMessage.state .idle).encode plainJson).isSome := by
    decide +kernel
  obtain ⟨idle, idleEncoded⟩ := Option.isSome_iff_exists.mp idleEncodes
  have connectedEncodes : ((IpcMessage.state
      (.connected phoneSession)).encode plainJson).isSome := by
    decide +kernel
  obtain ⟨data, encoded⟩ := Option.isSome_iff_exists.mp connectedEncodes
  have joined := (Run.nil.snoc
    (@ServiceStep.client .release watchingConfig plainJson
      (.initial resolvingState) (.connected 0) .connectedOnce trivial
      .connect)).snoc
    (@ServiceStep.client _ _ _ _ (.received 0 stopLine) .commandedOnce trivial
      commandedPlain)
  have watching := joined.snoc (.control
    (.inside (.startWatch rfl rfl)
      (by simp [TetherService.initial, Program.initial, ControlState.initial])
      (by simp)) (by simp) rfl rfl (.inl rfl))
  have told := watching.snoc (.send rfl idleEncoded
    (sendNobody rfl idleEncoded))
  have polling := told.snoc (.control
    (.inside (.watchGo rfl rfl) (by simp) (by simp))
    (by simp) rfl rfl (.inl rfl))
  have polled := polling.snoc (.poll
    (.inside (@ControlStep.watchOther _ _ .none rfl (by simp)) (by simp)
      (by simp)) pollPlain rfl rfl)
  have called := polled.snoc (.control
    (.inside (.runSession rfl) (by simp) (by simp))
    (by simp) rfl rfl (.inl rfl))
  have opened := called.snoc (.control
    (.opens (.setupDone rfl) rfl rfl done) (by simp) rfl rfl (.inl rfl))
  have sent := opened.snoc (.send rfl encoded
    (sendFirst servingPlain_clients encoded))
  refine ⟨_, _, data, sent, rfl, rfl, encoded, rfl, ?_⟩
  simp

/-- A client that came before the phone knows of the session. -/
theorem connectedClient_informed :
    ∃ trace s data, ClientsInformed watchingConfig resolvingState plainJson
        trace s ∧
      0 ∈ s.ipc.clients ∧ s.program.session = some phoneSession ∧
      (IpcMessage.state (.connected phoneSession)).encode plainJson =
        some data ∧
      outputStream 0 (trace.filterMap ServiceEvent.ipcEvent) = data := by
  obtain ⟨trace, p, data, run, -, isOpen, encoded, taken, -⟩ := run_connected
  refine ⟨trace, _, data, clients_informed run, ?_, isOpen, encoded, ?_⟩
  · rw [servingPlain_clients]
    exact List.mem_singleton_self 0
  · rw [outputStream, taken, List.flatMap_singleton]
    exact List.take_length

section Cause

variable {watch : Bool} {trace : List ControlEvent} {s next : ControlState}
  {event : ControlEvent}

/-- What clears `running_bridge`. -/
def ControlEvent.CutsShort : ControlEvent → Prop
  | .stopped .deviceGone | .polled .session .stop
  | .polled .session .disable => True
  | _ => False

/-- The events since `run_session` was called last. -/
def SinceCall (trace inside : List ControlEvent) : Prop :=
  ∃ opening, trace = opening ++ .sessionStarts :: inside ∧
    .sessionStarts ∉ inside

/-- The current session has been cut short. -/
def CutShort (trace : List ControlEvent) : Prop :=
  ∃ inside, SinceCall trace inside ∧ ∃ event ∈ inside, event.CutsShort

theorem SinceCall.concat {inside : List ControlEvent}
    (since : SinceCall trace inside) (same : event ≠ .sessionStarts) :
    SinceCall (trace ++ [event]) (inside ++ [event]) := by
  obtain ⟨opening, rfl, noCall⟩ := since
  refine ⟨opening, by simp, ?_⟩
  simp [noCall, same.symm]

theorem CutShort.concat (cutShort : CutShort trace)
    (same : event ≠ .sessionStarts) : CutShort (trace ++ [event]) := by
  obtain ⟨inside, since, cut, member, cuts⟩ := cutShort
  exact ⟨_, since.concat same, cut, List.mem_append_left _ member, cuts⟩

theorem cutShort_concat (begun : ∃ inside, SinceCall trace inside)
    (cuts : event.CutsShort) : CutShort (trace ++ [event]) := by
  obtain ⟨inside, since⟩ := begun
  have same : event ≠ .sessionStarts := by
    rintro rfl
    exact cuts
  exact ⟨_, since.concat same, event, by simp, cuts⟩

/-- Why the session loop is about to end, if it is. -/
structure CauseKnown (trace : List ControlEvent) (s : ControlState) :
    Prop where
  ioInside : IoInside s
  begun : s.pc = .setup ∨ s.pc.toJoin ≠ none → ∃ inside, SinceCall trace inside
  ctrlC : s.running = false → .stopped .ctrlC ∈ trace
  bridge : ∀ left, s.pc.toJoin = some (left + 1) → s.runningBridge = false →
    CutShort trace
  leaving : s.pc = .leaving → .stopped .ctrlC ∈ trace ∨ CutShort trace

namespace CauseKnown

theorem initial : CauseKnown [] .initial where
  ioInside active := by simp [ControlState.initial] at active
  begun inside := by simp [ControlState.initial, ControlPc.toJoin] at inside
  ctrlC off := by simp [ControlState.initial] at off
  bridge left inLoop := by
    simp [ControlState.initial, ControlPc.toJoin] at inLoop
  leaving atPc := by simp [ControlState.initial] at atPc

theorem move (known : CauseKnown trace s) (ioInside : IoInside next)
    (same : event ≠ .sessionStarts)
    (begun : next.pc = .setup ∨ next.pc.toJoin ≠ none →
      s.pc = .setup ∨ s.pc.toJoin ≠ none)
    (running : next.running = s.running)
    (bridge : ∀ left, next.pc.toJoin = some (left + 1) →
      next.runningBridge = false →
        (∃ left, s.pc.toJoin = some (left + 1)) ∧ s.runningBridge = false)
    (leaving : next.pc = .leaving → s.pc = .leaving) :
    CauseKnown (trace ++ [event]) next where
  ioInside := ioInside
  begun inside := by
    obtain ⟨inside, since⟩ := known.begun (begun inside)
    exact ⟨_, since.concat same⟩
  ctrlC off := List.mem_append_left _ (known.ctrlC (running ▸ off))
  bridge left inLoop off := by
    obtain ⟨⟨left, wasInLoop⟩, wasOff⟩ := bridge left inLoop off
    exact (known.bridge left wasInLoop wasOff).concat same
  leaving atPc := (known.leaving (leaving atPc)).imp
    (List.mem_append_left _) fun cutShort => cutShort.concat same

/-- A step that cuts the session short. -/
theorem cut (known : CauseKnown trace s) (ioInside : IoInside next)
    (cutShort : CutShort (trace ++ [event]))
    (running : next.running = s.running) :
    CauseKnown (trace ++ [event]) next where
  ioInside := ioInside
  begun _ := by
    obtain ⟨inside, since, -⟩ := cutShort
    exact ⟨inside, since⟩
  ctrlC off := List.mem_append_left _ (known.ctrlC (running ▸ off))
  bridge _ _ _ := cutShort
  leaving _ := .inr cutShort

theorem step (known : CauseKnown trace s)
    (taken : ControlStep watch s event next) :
    CauseKnown (trace ++ [event]) next := by
  have ioInside := ioInside_step known.ioInside taken
  cases taken with
  | runSession =>
      refine ⟨ioInside, fun _ => ⟨[], trace, rfl, List.not_mem_nil⟩,
        fun off => List.mem_append_left _ (known.ctrlC off), ?_, by simp⟩
      intro left inLoop
      cases inLoop
  | ctrlC =>
      refine ⟨ioInside, fun inside => ?_, fun _ => by simp, ?_, ?_⟩
      · obtain ⟨inside, since⟩ := known.begun inside
        exact ⟨_, since.concat (by simp)⟩
      · intro left inLoop off
        exact (known.bridge left inLoop off).concat (by simp)
      · intro _
        exact .inl (by simp)
  | loopEnds found off =>
      have inLoop : s.pc.toJoin = some (1 + 1) := by rw [found]; rfl
      have cutShort (bridgeOff : s.runningBridge = false) :
          CutShort (trace ++ [.tested false]) :=
        (known.bridge 1 inLoop bridgeOff).concat (by simp)
      refine ⟨ioInside, fun _ => ?_, fun off =>
        List.mem_append_left _ (known.ctrlC off), fun _ _ => cutShort,
        fun _ => ?_⟩
      · obtain ⟨inside, since⟩ := known.begun (.inr (by simp [inLoop]))
        exact ⟨_, since.concat (by simp)⟩
      · rcases Bool.and_eq_false_iff.mp off with runningOff | bridgeOff
        · exact .inl (List.mem_append_left _ (known.ctrlC runningOff))
        · exact .inr (cutShort bridgeOff)
  | @sessionStop command found ends =>
      have begun := known.begun (.inr (by simp [found, ControlPc.toJoin]))
      have cutShort : CutShort (trace ++ [.polled .session command]) := by
        apply cutShort_concat begun
        rcases ends with rfl | rfl <;> trivial
      exact known.cut ioInside cutShort rfl
  | deviceGone declaring =>
      have inSession := known.ioInside (.inr declaring)
      have cutShort : CutShort (trace ++ [.stopped .deviceGone]) :=
        cutShort_concat (known.begun (.inr inSession)) trivial
      exact known.cut ioInside cutShort rfl
  | ctrlCGlobal | sigterm | deviceLost | ioEnds | ioPanics | trailGo =>
      exact known.move ioInside (by simp) (fun inside => inside) rfl
        (fun left inLoop off => ⟨⟨left, inLoop⟩, off⟩) fun atPc => atPc
  | setupDone found =>
      exact known.move ioInside (by simp) (fun _ => .inl found) rfl
        (fun _ _ off => by cases off) (by simp)
  | iterate found | noPoll found | pollDue found | sessionOther found
  | slept found =>
      have inLoop : ∃ left, s.pc.toJoin = some (left + 1) := by
        rw [found]
        exact ⟨_, rfl⟩
      have inSession : s.pc.toJoin ≠ none := by
        obtain ⟨left, inLoop⟩ := inLoop
        simp [inLoop]
      exact known.move ioInside (by simp) (fun _ => .inr inSession) rfl
        (fun _ _ off => ⟨inLoop, off⟩) (by simp)
  | leave found =>
      refine known.move ioInside (by simp) (fun _ => .inr ?_) rfl ?_ (by simp)
      · simp [found, ControlPc.toJoin]
      · intro left inLoop
        cases inLoop
  | startWatch | startOnce | watchGo | watchDone | watchDisable | watchOther
  | setupFails | join | restore | watchAgain | trail | trailDone =>
      refine known.move ioInside (by simp) ?_ rfl ?_ (by simp)
      · intro inside
        simp [ControlPc.toJoin] at inside
      · intro left inLoop
        cases inLoop

theorem of_run (run : Run (ControlStep watch) .initial trace s) :
    CauseKnown trace s :=
  run.history initial step

end CauseKnown

theorem leaving_of_left (taken : ControlStep watch s .left next) :
    s.pc = .leaving := by
  cases taken with
  | leave atPc => exact atPc

end Cause

/-- Nothing but Ctrl-C, the loss of the device and the lines of clients ends a
session. -/
structure EndsForCause (serde : SerdeJson) (trace : List ServiceEvent) :
    Prop where
  left : ∀ earlier later, trace = earlier ++ .control .left :: later →
    .control (.stopped .ctrlC) ∈ earlier ∨
      ∃ opening inside, earlier = opening ++ .control .sessionStarts :: inside ∧
        .control .sessionStarts ∉ inside ∧
        (.control (.stopped .deviceGone) ∈ inside ∨
          ∃ command reads, (command = .stop ∨ command = .disable) ∧
            .polled .session command reads ∈ inside)
  /-- What a poll returns, a client has sent before, up to a newline or to the
  end of its stream. -/
  sent : ∀ earlier place command reads later,
    trace = earlier ++ .polled place command reads :: later →
      command ≠ .none →
        Commanded serde (earlier.filterMap ServiceEvent.ipcEvent) command

section Runs

variable {build : Build} {config : TetherConfig} {serde : SerdeJson}
  {trace : List ServiceEvent} {s : TetherService} {before : NetworkState}

theorem mem_of_controlEvent {event : ControlEvent}
    (member : event ∈ trace.filterMap ServiceEvent.controlEvent) :
    .control event ∈ trace ∨ ∃ place command reads,
      event = .polled place command ∧ .polled place command reads ∈ trace := by
  obtain ⟨source, inTrace, isEvent⟩ := List.mem_filterMap.mp member
  cases source with
  | control event =>
      cases isEvent
      exact .inl inTrace
  | polled place command reads =>
      cases isEvent
      exact .inr ⟨place, command, reads, rfl, inTrace⟩
  | client | sent | dropped => cases isEvent

theorem mem_control_of_controlEvent {event : ControlEvent}
    (member : event ∈ trace.filterMap ServiceEvent.controlEvent)
    (noPoll : ∀ place command, event ≠ .polled place command) :
    .control event ∈ trace := by
  rcases mem_of_controlEvent member with
    isControl | ⟨place, command, -, isPoll, -⟩
  · exact isControl
  · exact absurd isPoll (noPoll place command)

theorem causeKnown_of_run
    (run : Run (ServiceStep build config serde) (.initial before) trace s) :
    CauseKnown (trace.filterMap ServiceEvent.controlEvent)
      s.program.control := by
  have programRun := (@programPart build config serde).run run
  have controlRun := (@controlPart build config).run programRun
  have known := CauseKnown.of_run controlRun
  rwa [ComponentOf.trace, ComponentOf.trace,
    show (@controlPart build config).label = some from rfl,
    List.filterMap_some] at known

/-- In every run a session ends for a cause, and the commands of its clients
are theirs. -/
theorem sessions_endForCause
    (run : Run (ServiceStep build config serde) (.initial before) trace s) :
    EndsForCause serde trace := by
  constructor
  · rintro earlier later rfl
    obtain ⟨state, next, earlierRun, taken, -⟩ := run.split
    have known := causeKnown_of_run earlierRun
    have genuine := genuine_of_run earlierRun
    have step := (programPart.moves taken).isStep
    have atPc := leaving_of_left (controlPart.moves step).isStep
    rcases known.leaving atPc with ctrlC | ⟨inside, ⟨opening, splitEq, noCall⟩,
      cut, isInside, cuts⟩
    · exact .inl (mem_control_of_controlEvent ctrlC (by simp))
    obtain ⟨front, event, behind, rfl, isCall, -, rfl⟩ :=
      exists_of_filterMap_eq splitEq
    have callEq : event = .control .sessionStarts := by
      cases event with
      | control event =>
          cases isCall
          rfl
      | polled | client | sent | dropped => cases isCall
    refine .inr ⟨front, behind, by rw [callEq], ?_, ?_⟩
    · intro called
      exact noCall (List.mem_filterMap.mpr ⟨_, called, rfl⟩)
    · rcases mem_of_controlEvent isInside with
        isControl | ⟨place, command, reads, rfl, isPoll⟩
      · cases cut with
        | stopped source =>
            cases source with
            | deviceGone => exact .inl isControl
            | ctrlC | sigterm => cases cuts
        | polled place command =>
            have noPoll : ∀ otherPlace other,
                ControlEvent.polled place command ≠ .polled otherPlace other :=
              genuine (.control (.polled place command)) (by simp [isControl])
            exact absurd rfl (noPoll place command)
        | tau | sessionStarts | tested | left | joined | restored => cases cuts
      · cases place with
        | watchLoop => cases cuts
        | session =>
            refine .inr ⟨command, reads, ?_, isPoll⟩
            cases command with
            | stop => exact .inl rfl
            | disable => exact .inr rfl
            | none | enable | status => cases cuts
  · rintro earlier place command reads later rfl some
    obtain ⟨state, next, earlierRun, taken, -⟩ := run.split
    have ipcRun := (@ipcPart build config serde).run earlierRun
    have sent := SentByClients.of_run ipcRun
    exact sent.returned (ipcPart.moves taken).isStep some

end Runs

/-- Its command ends the session. -/
theorem stopLine_endsForCause :
    ∃ trace, EndsForCause plainJson trace ∧ .control .left ∈ trace ∧
      .control (.stopped .ctrlC) ∉ trace := by
  obtain ⟨trace, ⟨control, session, network, told⟩, data, run, rfl, rfl, -, -,
    noCtrlC⟩ := run_connected
  have idle : (IpcMessage.stats ⟨0, 0, 0, 0, 0, 0⟩).encode plainJson =
      some (idleStats ++ [newline]) := rfl
  have iterating := run.snoc (.control
    (.inside (.iterate rfl rfl rfl) (by simp [ControlState.session])
      (by simp)) (by simp) rfl rfl (.inl rfl))
  have due := iterating.snoc (.control
    (.inside (.pollDue rfl rfl) (by simp) (by simp)) (by simp) rfl
      ⟨⟨0, 0, 0, 0, 0, 0⟩, rfl⟩ (.inl rfl))
  have reported := due.snoc
    (.send rfl idle (sendFirst servingPlain_clients idle))
  have polled := reported.snoc (.poll
    (.inside (@ControlStep.sessionStop _ _ .stop rfl (.inl rfl)) (by simp)
      (by simp)) (.poll rfl) rfl rfl)
  have left := polled.snoc (.control
    (.inside (.leave rfl) (by simp) (by simp)) (by simp) rfl rfl (.inl rfl))
  refine ⟨_, sessions_endForCause left, by simp, ?_⟩
  simp [noCtrlC]

end AndroidTether
