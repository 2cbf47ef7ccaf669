import AndroidTether.ControlLoop
import AndroidTether.SessionSetup

/-!
# The program and what it tells its clients

The main thread together with the network state and the state messages that it
sends.  Over a whole run the messages agree with the network: a client that
follows them knows of every session when it begins and when it has ended.
-/

namespace AndroidTether

/-- The arguments of `send_state`. -/
structure StateCall where
  state : String
  ip : Option String
  iface : Option String
  deriving DecidableEq

/-- A session that has been set up. -/
structure OpenSession where
  lease : Lease
  ifname : String

namespace StateCall

def idle : StateCall :=
  ⟨"idle", none, none⟩

def watching : StateCall :=
  ⟨"watching", none, none⟩

def connected (session : OpenSession) : StateCall :=
  ⟨"connected", some session.lease.ip.text, some session.ifname⟩

def disconnected : StateCall :=
  ⟨"disconnected", none, none⟩

/-- A message about a session. -/
def IsLink (call : StateCall) : Prop :=
  call.state = "connected" ∨ call.state = "disconnected"

instance : DecidablePred IsLink := fun call =>
  inferInstanceAs (Decidable (call.state = "connected" ∨
    call.state = "disconnected"))

end StateCall

structure Program where
  control : ControlState
  session : Option OpenSession
  network : NetworkState
  told : List StateCall

def Program.initial (network : NetworkState) : Program where
  control := .initial
  session := none
  network := network
  told := []

/-- The messages of the watch loop. -/
def ControlState.announces (s : ControlState) (event : ControlEvent)
    (next : ControlState) : List StateCall :=
  match s.pc, event with
  | .start, .tau => if next.pc = .watchTest then [.idle] else []
  | .watchPoll, .polled _ .disable => [.idle]
  | .watchPoll, .polled _ .enable => [.watching]
  | .watchPoll, .polled _ .status => [.watching]
  | .returned true, .tau =>
    if next.pc = .watchTest ∧ s.isRunning then [.watching] else []
  | _, _ => []

/-- A message of a session: there are clients in the watch mode only. -/
def TetherConfig.tells (config : TetherConfig) (call : StateCall) :
    List StateCall :=
  if config.watchMode then [call] else []

/-- A step of the main thread or of what runs beside it. -/
inductive ProgramStep (build : Build) (config : TetherConfig) :
    Program → ControlEvent → Program → Prop
  | opens {p : Program} {event : ControlEvent} {next : ControlState}
      {world : SetupWorld} {mac : MacAddr} {lease : Lease} {tun : Utun}
      {network : NetworkState}
      (taken : ControlStep config.watchMode p.control event next)
      (atSetup : p.control.pc = .setup) (inLoop : next.pc = .loopTest)
      (done : setUp build config world p.network =
        .ok (.active mac lease tun, network)) :
      ProgramStep build config p event
        { control := next
          session := some ⟨lease, tun.ifname⟩
          network := network
          told := p.told ++ config.tells (.connected ⟨lease, tun.ifname⟩) }
  | stops {p : Program} {event : ControlEvent} {next : ControlState}
      {world : SetupWorld} {exit : SessionExit} {network : NetworkState}
      (taken : ControlStep config.watchMode p.control event next)
      (atSetup : p.control.pc = .setup) (returned : next.pc = .returned false)
      (done : setUp build config world p.network =
        .ok (.stopped exit, network)) :
      ProgramStep build config p event
        { p with control := next, network := network }
  | closes {p : Program} {event : ControlEvent} {next : ControlState}
      (taken : ControlStep config.watchMode p.control event next)
      (restored : event = .restored) :
      ProgramStep build config p event
        { control := next
          session := none
          network := p.network.after (sessionTeardown config.session)
          told := p.told ++ config.tells .disconnected }
  | inside {p : Program} {event : ControlEvent} {next : ControlState}
      (taken : ControlStep config.watchMode p.control event next)
      (noSetup : p.control.pc = .setup → next.pc = .setup)
      (notRestored : event ≠ .restored) :
      ProgramStep build config p event
        { p with
          control := next
          told := p.told ++ p.control.announces event next }

/-- The main thread is between the setup of a session and its end. -/
def ControlPc.InSession : ControlPc → Prop
  | .loopTest | .iteration | .polling | .sleeping | .leaving | .joining
  | .restoring => True
  | .start | .watchTest | .watchPoll | .starting | .setup | .returned _
  | .trailing | .finished => False

section Control

variable {watch : Bool} {s next : ControlState} {event : ControlEvent}

/-- Sessions begin with a setup and end with a restore. -/
theorem inSession_step (taken : ControlStep watch s event next)
    (noSetup : s.pc = .setup → next.pc = .setup)
    (notRestored : event ≠ .restored) :
    next.pc.InSession ↔ s.pc.InSession := by
  cases taken with
  | setupFails atPc | setupDone atPc => cases noSetup atPc
  | restore => exact absurd rfl notRestored
  | ctrlC | ctrlCGlobal | sigterm | deviceLost | deviceGone | ioEnds
  | ioPanics | trailGo => exact Iff.rfl
  | startWatch atPc | startOnce atPc | watchGo atPc | watchDone atPc
  | watchDisable atPc | watchOther atPc | runSession atPc | iterate atPc
  | loopEnds atPc | noPoll atPc | pollDue atPc | sessionStop atPc
  | sessionOther atPc | slept atPc | leave atPc | join atPc | watchAgain atPc
  | trail atPc | trailDone atPc =>
      rw [atPc]
      exact Iff.rfl

theorem restored_step (taken : ControlStep watch s .restored next) :
    s.pc = .restoring ∧ next.pc = .returned s.deviceGone := by
  cases taken with
  | restore atPc => exact ⟨atPc, rfl⟩

theorem announces_of_inSession (inside : s.pc.InSession) :
    s.announces event next = [] := by
  unfold ControlState.announces
  cases atPc : s.pc with
  | start | watchPoll | returned =>
      rw [atPc] at inside
      cases inside
  | _ => rfl

theorem mem_announces {call : StateCall} (member : call ∈ s.announces event next) :
    call = .idle ∨ call = .watching := by
  unfold ControlState.announces at member
  split at member
  case h_1 =>
      split at member
      · exact .inl (List.mem_singleton.mp member)
      · cases member
  case h_2 => exact .inl (List.mem_singleton.mp member)
  case h_3 | h_4 => exact .inr (List.mem_singleton.mp member)
  case h_5 =>
      split at member
      · exact .inr (List.mem_singleton.mp member)
      · cases member
  case h_6 => cases member

/-- The main thread is not in the watch loop. -/
def ControlPc.Once (pc : ControlPc) : Prop :=
  pc ≠ .watchTest ∧ pc ≠ .watchPoll

theorem once_step (once : s.pc.Once) (taken : ControlStep false s event next) :
    next.pc.Once := by
  cases taken with
  | startWatch atPc mode | watchAgain atPc mode | pollDue atPc mode => cases mode
  | watchGo atPc | watchDone atPc => exact absurd atPc once.1
  | watchDisable atPc | watchOther atPc => exact absurd atPc once.2
  | ctrlC | ctrlCGlobal | sigterm | deviceLost | deviceGone | ioEnds
  | ioPanics | trailGo => exact once
  | startOnce | runSession | setupFails | setupDone | iterate | loopEnds
  | noPoll | sessionStop | sessionOther | slept | leave | join | restore
  | trail | trailDone => exact ⟨by simp, by simp⟩

theorem announces_of_once (once : s.pc.Once)
    (taken : ControlStep false s event next) : s.announces event next = [] := by
  have after := once_step once taken
  unfold ControlState.announces
  split
  case h_1 | h_5 => exact if_neg fun entered => after.1 (by simp_all)
  case h_2 | h_3 | h_4 => exact absurd ‹s.pc = .watchPoll› once.2
  case h_6 => rfl

end Control

/-- What is left by sessions that have ended. -/
structure Restored (config : SessionConfig) (ended : List OpenSession)
    (before after : NetworkState) : Prop where
  store : ∀ key, after.store key =
    if ended ≠ [] ∧ key ∈ touchedKeys config then none else before.store key
  routes : ∀ destination, after.routes destination =
    if ∃ session ∈ ended, destination ∈ touchedRoutes config session.lease
    then none else before.routes destination

section Network

variable {config : SessionConfig} {lease : Lease} {ifname : String}
  {before below active : NetworkState} {ended : List OpenSession}

theorem activeEntry_of_untouched {key : String}
    (untouched : key ∉ touchedKeys config) :
    activeEntry config lease ifname key = none := by
  rw [touchedKeys, List.mem_append, not_or] at untouched
  obtain ⟨noService, noGlobal⟩ := untouched
  simp only [serviceKeys, List.mem_cons, List.not_mem_nil, or_false,
    not_or] at noService
  unfold activeEntry
  rw [if_neg fun found => noService.2.1 found.2,
    if_neg fun found => noService.2.2 found.2,
    if_neg fun found => noService.1 found.2, if_neg]
  rintro ⟨dns, rfl⟩
  exact noGlobal (by simp [dns])

/-- The teardown takes away what the setup of a session has put. -/
theorem teardown_active (isActive : Active config lease ifname below active) :
    (∀ key, (active.after (sessionTeardown config)).store key =
      if key ∈ touchedKeys config then none else below.store key) ∧
    ∀ destination, (active.after (sessionTeardown config)).routes destination =
      if destination ∈ touchedRoutes config lease then none
      else below.routes destination := by
  constructor
  · intro key
    rw [NetworkState.after, sessionTeardown_keys]
    split_ifs with touched
    · exact MapWrites.applyAll_of_last_remove
        (MapWrites.lastTo_map_remove touched)
    · refine (MapWrites.applyAll_of_not_written ?_).trans ?_
      · rintro write isWrite rfl
        obtain ⟨key, member, rfl⟩ := List.mem_map.mp isWrite
        exact touched member
      · rw [isActive.store, activeEntry_of_untouched touched]
        rfl
  · intro destination
    rw [NetworkState.after, sessionTeardown_routes]
    have kept := isActive.routes destination
    cases noRoute : config.noRoute with
    | true =>
        rw [activeRoute, if_pos noRoute] at kept
        rw [if_neg (by simp), touchedRoutes, if_neg (by simp [noRoute])]
        exact kept
    | false =>
        simp only [if_true, MapWrites.applyAll, List.foldl_cons,
          List.foldl_nil, MapWrites.Write.apply, Function.update_apply,
          kept, activeRoute, touchedRoutes, noRoute, List.mem_cons,
          List.not_mem_nil, or_false]
        split_ifs <;> simp_all

variable {session : OpenSession}

theorem Restored.nothing : Restored config [] before before where
  store key := by simp
  routes destination := by simp

theorem Restored.close (restored : Restored config ended before below)
    (isActive : Active config session.lease session.ifname below active) :
    Restored config (ended ++ [session]) before
      (active.after (sessionTeardown config)) where
  store key := by
    rw [(teardown_active isActive).1 key, restored.store]
    by_cases touched : key ∈ touchedKeys config <;> simp [touched]
  routes destination := by
    rw [(teardown_active isActive).2 destination, restored.routes]
    by_cases touched : destination ∈ touchedRoutes config session.lease
    · have some : ∃ known ∈ ended ++ [session],
          destination ∈ touchedRoutes config known.lease :=
        ⟨session, by simp, touched⟩
      rw [if_pos touched, if_pos some]
    · rw [if_neg touched]
      simp [or_and_right, exists_or, touched]

end Network

/-- The network state that belongs to a session. -/
def OpenSession.Shown (config : SessionConfig) (below network : NetworkState) :
    Option OpenSession → Prop
  | none => network = below
  | some session =>
    Active config session.lease session.ifname below network

/-- What the clients were told agrees with the network and with what the main
thread is at: a message for the beginning and one for the end of each session
that has ended, and one for the beginning of an open one. -/
structure Truthful (config : TetherConfig) (before : NetworkState)
    (ended : List OpenSession) (p : Program) : Prop where
  inside : p.session.isSome = true ↔ p.control.pc.InSession
  network : ∃ below, Restored config.session ended before below ∧
    OpenSession.Shown config.session below p.network p.session
  links : p.told.filter (StateCall.IsLink ·) =
    (ended.flatMap fun session =>
      config.tells (.connected session) ++ config.tells .disconnected) ++
      p.session.toList.flatMap fun session =>
        config.tells (.connected session)
  others : ∀ call ∈ p.told,
    call.IsLink ∨ call = .idle ∨ call = .watching
  /-- The last message tells whether there is a session. -/
  current : config.watchMode = true →
    ((∃ call, p.told.getLast? = some call ∧ call.state = "connected") ↔
      p.control.pc.InSession)
  once : config.watchMode = false → p.told = [] ∧ p.control.pc.Once

namespace Truthful

variable {build : Build} {config : TetherConfig} {before : NetworkState}
  {ended : List OpenSession} {p : Program} {event : ControlEvent}
  {next : ControlState}

theorem initial : Truthful config before [] (.initial before) where
  inside := by simp [Program.initial, ControlState.initial, ControlPc.InSession]
  network := ⟨before, .nothing, rfl⟩
  links := rfl
  others call member := absurd member List.not_mem_nil
  current _ := by
    simp [Program.initial, ControlState.initial, ControlPc.InSession]
  once _ := ⟨rfl, by simp [ControlPc.Once, Program.initial,
    ControlState.initial]⟩

theorem filter_tells {call : StateCall} (isLink : call.IsLink) :
    (config.tells call).filter (StateCall.IsLink ·) = config.tells call := by
  apply List.filter_eq_self.mpr
  intro said member
  rw [TetherConfig.tells] at member
  split at member
  · rw [List.mem_singleton.mp member]
    exact decide_eq_true isLink
  · cases member

theorem mem_tells {call said : StateCall} (member : said ∈ config.tells call) :
    said = call := by
  rw [TetherConfig.tells] at member
  split at member
  · exact List.mem_singleton.mp member
  · cases member

theorem tells_of_watch (watch : config.watchMode = true) (call : StateCall) :
    config.tells call = [call] :=
  if_pos watch

theorem tells_of_once (once : config.watchMode = false) (call : StateCall) :
    config.tells call = [] :=
  if_neg (by simp [once])

/-- Outside a session the locals of `run_session` do not exist. -/
theorem session_eq_none (truthful : Truthful config before ended p)
    (outside : ¬ p.control.pc.InSession) : p.session = none :=
  Option.not_isSome_iff_eq_none.mp fun isSome =>
    outside (truthful.inside.mp isSome)

theorem opens {world : SetupWorld} {mac : MacAddr} {lease : Lease}
    {tun : Utun} {network : NetworkState}
    (truthful : Truthful config before ended p)
    (atSetup : p.control.pc = .setup) (inLoop : next.pc = .loopTest)
    (done : setUp build config world p.network =
      .ok (.active mac lease tun, network)) :
    Truthful config before ended
      { control := next
        session := some ⟨lease, tun.ifname⟩
        network := network
        told := p.told ++ config.tells (.connected ⟨lease, tun.ifname⟩) } := by
  have closed := truthful.session_eq_none fun inSession => by
    rw [atSetup] at inSession
    exact inSession
  obtain ⟨below, restored, shown⟩ := truthful.network
  rw [closed] at shown
  constructor
  · simp [inLoop, ControlPc.InSession]
  · refine ⟨below, restored, ?_⟩
    have isActive := setUp_leaves done
    rw [shown] at isActive
    exact isActive
  · rw [List.filter_append, truthful.links, closed,
      filter_tells (.inl rfl)]
    simp
  · intro call member
    rcases List.mem_append.mp member with earlier | added
    · exact truthful.others call earlier
    · rw [mem_tells added]
      exact .inl (.inl rfl)
  · intro watch
    rw [tells_of_watch watch]
    simp [inLoop, ControlPc.InSession, StateCall.connected]
  · intro once
    rw [tells_of_once once, (truthful.once once).1]
    simp [inLoop, ControlPc.Once]

theorem stops {world : SetupWorld} {exit : SessionExit}
    {network : NetworkState} (truthful : Truthful config before ended p)
    (atSetup : p.control.pc = .setup) (returned : next.pc = .returned false)
    (done : setUp build config world p.network =
      .ok (.stopped exit, network)) :
    Truthful config before ended
      { p with control := next, network := network } := by
  have unchanged : network = p.network := setUp_leaves done
  have outside : next.pc.InSession ↔ p.control.pc.InSession := by
    rw [atSetup, returned]
    exact Iff.rfl
  constructor
  · exact truthful.inside.trans outside.symm
  · rw [unchanged]
    exact truthful.network
  · exact truthful.links
  · exact truthful.others
  · intro watch
    exact (truthful.current watch).trans outside.symm
  · intro once
    exact ⟨(truthful.once once).1, by simp [returned, ControlPc.Once]⟩

theorem closes {session : OpenSession}
    (truthful : Truthful config before ended p)
    (open_ : p.session = some session)
    (returned : next.pc = .returned p.control.deviceGone) :
    Truthful config before (ended ++ [session])
      { control := next
        session := none
        network := p.network.after (sessionTeardown config.session)
        told := p.told ++ config.tells .disconnected } := by
  obtain ⟨below, restored, shown⟩ := truthful.network
  rw [open_] at shown
  constructor
  · simp [returned, ControlPc.InSession]
  · exact ⟨_, restored.close shown, rfl⟩
  · rw [List.filter_append, truthful.links, open_, filter_tells (.inr rfl)]
    simp
  · intro call member
    rcases List.mem_append.mp member with earlier | added
    · exact truthful.others call earlier
    · rw [mem_tells added]
      exact .inl (.inr rfl)
  · intro watch
    rw [tells_of_watch watch]
    simp [returned, ControlPc.InSession, StateCall.disconnected]
  · intro once
    rw [tells_of_once once, (truthful.once once).1]
    simp [returned, ControlPc.Once]

theorem goesOn (truthful : Truthful config before ended p)
    (taken : ControlStep config.watchMode p.control event next)
    (noSetup : p.control.pc = .setup → next.pc = .setup)
    (notRestored : event ≠ .restored) :
    Truthful config before ended
      { p with
        control := next
        told := p.told ++ p.control.announces event next } := by
  have same := inSession_step taken noSetup notRestored
  have noLink : (p.control.announces event next).filter (StateCall.IsLink ·) =
      [] := by
    apply List.filter_eq_nil_iff.mpr
    intro call member
    rcases mem_announces member with rfl | rfl <;> decide
  constructor
  · exact truthful.inside.trans same.symm
  · exact truthful.network
  · rw [List.filter_append, noLink, List.append_nil]
    exact truthful.links
  · intro call member
    rcases List.mem_append.mp member with earlier | added
    · exact truthful.others call earlier
    · exact .inr (mem_announces added)
  · intro watch
    rw [same, ← truthful.current watch]
    cases said : p.control.announces event next using List.reverseRecOn with
    | nil => rw [List.append_nil]
    | append_singleton earlier last =>
        have outside : ¬ p.control.pc.InSession := by
          intro inSession
          rw [announces_of_inSession inSession] at said
          simp at said
        have member : last ∈ p.control.announces event next := by simp [said]
        refine iff_of_false ?_ ((truthful.current watch).not.mpr outside)
        rintro ⟨call, isLast, isConnected⟩
        rw [← List.append_assoc, List.getLast?_concat] at isLast
        cases isLast
        rcases mem_announces member with rfl | rfl <;>
          simp [StateCall.idle, StateCall.watching] at isConnected
  · intro once
    obtain ⟨nothing, outside⟩ := truthful.once once
    rw [once] at taken
    rw [nothing, announces_of_once outside taken]
    exact ⟨rfl, once_step outside taken⟩

theorem of_run {trace : List ControlEvent}
    (run : Run (ProgramStep build config) (.initial before) trace p) :
    ∃ ended, Truthful config before ended p := by
  induction run with
  | nil => exact ⟨[], .initial⟩
  | snoc run taken ih =>
      obtain ⟨ended, truthful⟩ := ih
      cases taken with
      | opens taken atSetup inLoop done =>
          exact ⟨ended, truthful.opens atSetup inLoop done⟩
      | stops taken atSetup returned done =>
          exact ⟨ended, truthful.stops atSetup returned done⟩
      | closes taken restored =>
          rw [restored] at taken
          obtain ⟨atPc, returned⟩ := restored_step taken
          have isSome := truthful.inside.mpr (by
            rw [atPc]
            trivial)
          obtain ⟨session, open_⟩ := Option.isSome_iff_exists.mp isSome
          exact ⟨_, truthful.closes open_ returned⟩
      | inside taken noSetup notRestored =>
          exact ⟨ended, truthful.goesOn taken noSetup notRestored⟩

end Truthful

/-- In every run the clients are told what is so. -/
theorem program_truthful {build : Build} {config : TetherConfig}
    {before : NetworkState} {trace : List ControlEvent} {p : Program}
    (run : Run (ProgramStep build config) (.initial before) trace p) :
    ∃ ended, Truthful config before ended p :=
  Truthful.of_run run

def watchingConfig : TetherConfig :=
  { TetherConfig.default with watchMode := true }

theorem watching_truthful :
    ∃ trace p, Run (ProgramStep .release watchingConfig)
        (.initial resolvingState) trace p ∧
      p.told.map StateCall.state =
        ["idle", "watching", "connected", "disconnected"] ∧
      ∃ ended, Truthful watchingConfig resolvingState ended p := by
  obtain ⟨tun, log, created⟩ : ∃ tun log,
      Utun.create usualWorld.kernel [] = .ok tun log := ⟨_, _, rfl⟩
  have done := @setUp_eq .release watchingConfig usualDevice usualService
    usualWorld tun log resolvingState usualWorld_follows created rfl
  have setUp : Run (ProgramStep .release watchingConfig)
      (.initial resolvingState) _ _ :=
    ((((Run.nil.snoc
      (ProgramStep.inside (.startWatch rfl rfl)
        (by simp [Program.initial, ControlState.initial]) (by simp))).snoc
      (ProgramStep.inside (.watchGo rfl rfl) (by simp) (by simp))).snoc
      (ProgramStep.inside (@ControlStep.watchOther _ _ .enable rfl (by simp))
        (by simp) (by simp))).snoc
      (ProgramStep.inside (.runSession rfl) (by simp) (by simp))).snoc
      (ProgramStep.opens (.setupDone rfl) rfl rfl done)
  have ended := (((((setUp.snoc
    (ProgramStep.inside .ctrlC (by simp) (by simp))).snoc
    (ProgramStep.inside (.loopEnds rfl rfl) (by simp) (by simp))).snoc
    (ProgramStep.inside (.leave rfl) (by simp) (by simp))).snoc
    (ProgramStep.inside (.ioEnds rfl rfl) (by simp) (by simp))).snoc
    (ProgramStep.inside (.join rfl rfl) (by simp) (by simp))).snoc
    (ProgramStep.closes (.restore rfl) rfl)
  exact ⟨_, _, ended, rfl, program_truthful ended⟩

end AndroidTether
