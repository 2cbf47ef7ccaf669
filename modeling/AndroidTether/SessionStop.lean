import AndroidTether.ControlLoop

/-!
# Ending a session

Which stop sources the main loop of a session notices.  Its guard reads
`running` and `running_bridge`; a SIGTERM stores neither of them.
-/

namespace AndroidTether

open ControlEvent

/-- The sources that are to end a session. -/
def ControlEvent.Stops : ControlEvent → Prop
  | stopped _ | polled .session .stop | polled .session .disable => True
  | _ => False

/-- Moves of the main thread up to the join of the other threads. -/
def ControlPc.toJoin : ControlPc → Option Nat
  | .iteration => some 5
  | .polling => some 4
  | .sleeping => some 3
  | .loopTest => some 2
  | .leaving => some 1
  | .joining => some 0
  | _ => none

/-- What is asked of the runs whose steps are taken from `step`. -/
structure StopsSession (watch : Bool)
    (step : ControlState → ControlEvent → ControlState → Prop) : Prop where
  /-- After a source has taken effect, no iteration starts in that session. -/
  noIteration : ∀ {trace state}, Run step .initial trace state →
    ∀ {earlier event later}, trace = earlier ++ event :: later →
      event.Stops → sessionStarts ∉ later → tested true ∉ later
  /-- Control proceeds to the join: the main thread has a move as long as it is
  not there, and every move takes it nearer. -/
  proceeds : ∀ {trace state}, Run step .initial trace state →
    ∀ {earlier event later left}, trace = earlier ++ event :: later →
      event.Stops → sessionStarts ∉ later →
      state.pc.toJoin = some (left + 1) →
      (∃ taken next, ControlStep watch state taken next ∧
        next.pc ≠ state.pc) ∧
      ∀ {taken next}, step state taken next → next.pc = state.pc ∨
        ∃ fewer ≤ left, next.pc.toJoin = some fewer
  /-- An iteration starts only while `is_running` holds. -/
  whileRunning : ∀ {trace state next}, Run step .initial trace state →
    step state (tested true) next → state.isRunning = true

/-- A SIGTERM has taken effect, and no other source. -/
def SigtermAlone (s : ControlState) : Prop :=
  s.globalRunning = false ∧ s.running = true ∧ s.runningBridge = true

/-- A step that does not test the guard of the session loop while a SIGTERM
alone is in effect. -/
def HeedfulStep (watch : Bool) (s : ControlState) (event : ControlEvent)
    (next : ControlState) : Prop :=
  ControlStep watch s event next ∧
    ∀ holds, event = tested holds → ¬ SigtermAlone s

/-- The I/O thread runs only inside the session. -/
def IoInside (s : ControlState) : Prop :=
  s.io = .looping ∨ s.io = .declaring → s.pc.toJoin ≠ none

theorem ioInside_step {watch : Bool} {s next : ControlState}
    {event : ControlEvent} (inside : IoInside s)
    (taken : ControlStep watch s event next) : IoInside next := by
  cases taken with
  | setupDone | iterate | loopEnds | noPoll | pollDue | sessionStop
  | sessionOther | slept | leave => exact fun _ => by simp [ControlPc.toJoin]
  | join | deviceGone | ioEnds | ioPanics => exact fun active => by simp at active
  | ctrlC | ctrlCGlobal | sigterm | trailGo => exact inside
  | deviceLost looping => exact fun _ => inside (.inl looping)
  | startWatch found | startOnce found | watchGo found | watchDone found
  | watchDisable found | watchOther found | runSession found
  | setupFails found | restore found | watchAgain found | trail found
  | trailDone found =>
      exact fun active => absurd rfl (found ▸ inside active)

/-- A source has taken effect in the current session. -/
def Ended (s : ControlState) : Prop :=
  s.running = false ∨ s.globalRunning = false ∨
    s.runningBridge = false ∧ s.pc ≠ .setup

theorem ended_of_stops {watch : Bool} {s next : ControlState}
    {event : ControlEvent} (inside : IoInside s)
    (taken : ControlStep watch s event next) (stops : event.Stops) :
    Ended next := by
  cases taken with
  | ctrlC => exact .inl rfl
  | sigterm => exact .inr (.inl rfl)
  | deviceGone declaring =>
      refine .inr (.inr ⟨rfl, ?_⟩)
      intro (atSetup : s.pc = .setup)
      exact absurd (atSetup ▸ rfl) (inside (.inr declaring))
  | sessionStop => exact .inr (.inr ⟨rfl, by simp⟩)
  | @sessionOther command _ other =>
      cases command with
      | stop => exact absurd (.inl rfl) other
      | disable => exact absurd (.inr rfl) other
      | none | enable | status => exact absurd stops (by simp [Stops])
  | _ => exact absurd stops (by simp [Stops])

/-- Flags are not set again, except by the start of a session. -/
theorem flags_step {watch : Bool} {s next : ControlState}
    {event : ControlEvent} (taken : ControlStep watch s event next) :
    (s.running = false → next.running = false) ∧
      (s.globalRunning = false → next.globalRunning = false) ∧
      (s.pc ≠ .setup → s.runningBridge = false →
        next.runningBridge = false) ∧
      (next.pc = .setup → s.pc = .setup ∨ event = sessionStarts) := by
  cases taken <;> simp_all

theorem ended_step {watch : Bool} {s next : ControlState}
    {event : ControlEvent} (ended : Ended s)
    (taken : ControlStep watch s event next) (same : event ≠ sessionStarts) :
    Ended next := by
  obtain ⟨keepsRunning, keepsGlobal, keepsBridge, toSetup⟩ := flags_step taken
  rcases ended with notRunning | notGlobal | ⟨notBridge, notSetup⟩
  · exact .inl (keepsRunning notRunning)
  · exact .inr (.inl (keepsGlobal notGlobal))
  · refine .inr (.inr ⟨keepsBridge notSetup notBridge, ?_⟩)
    intro atSetup
    rcases toSetup atSetup with wasSetup | starts
    · exact notSetup wasSetup
    · exact same starts

/-- The guard fails once a source has taken effect, SIGTERM alone apart. -/
theorem not_tested_true {watch : Bool} {s next : ControlState}
    (ended : Ended s) (notAlone : ¬ SigtermAlone s) :
    ¬ ControlStep watch s (tested true) next := by
  intro taken
  cases taken with
  | iterate _ on bridge =>
      rcases ended with notRunning | notGlobal | ⟨notBridge, -⟩
      · exact absurd (on.symm.trans notRunning) (by decide)
      · exact notAlone ⟨notGlobal, on, bridge⟩
      · exact absurd (bridge.symm.trans notBridge) (by decide)

/-- Every other move of the main thread goes towards the join. -/
theorem toJoin_step {watch : Bool} {s next : ControlState}
    {event : ControlEvent} {left : Nat} (inLoop : s.pc.toJoin = some (left + 1))
    (taken : ControlStep watch s event next) (noIteration : event ≠ tested true) :
    next.pc = s.pc ∨ ∃ fewer ≤ left, next.pc.toJoin = some fewer := by
  cases taken with
  | iterate => exact absurd rfl noIteration
  | ctrlC | ctrlCGlobal | sigterm | deviceLost | deviceGone | ioEnds | ioPanics
  | trailGo => exact .inl rfl
  | noPoll found | pollDue found | sessionStop found | sessionOther found
  | slept found | loopEnds found | leave found =>
      rw [found, ControlPc.toJoin, Option.some.injEq] at inLoop
      exact .inr ⟨_, by omega, rfl⟩
  | join found =>
      rw [found] at inLoop
      cases inLoop
  | startWatch found | startOnce found | watchGo found | watchDone found
  | watchDisable found | watchOther found | runSession found
  | setupFails found | setupDone found | restore found | watchAgain found
  | trail found | trailDone found =>
      rw [found] at inLoop
      cases inLoop

/-- The main thread is never held up before the join. -/
theorem loop_moves (watch : Bool) {s : ControlState} {left : Nat}
    (inLoop : s.pc.toJoin = some (left + 1)) :
    ∃ event next, ControlStep watch s event next ∧ next.pc ≠ s.pc := by
  cases at_ : s.pc with
  | loopTest =>
      cases guard : s.running && s.runningBridge with
      | true =>
          obtain ⟨on, bridge⟩ := Bool.and_eq_true_iff.mp guard
          exact ⟨_, _, .iterate at_ on bridge, by simp⟩
      | false => exact ⟨_, _, .loopEnds at_ guard, by simp⟩
  | iteration => exact ⟨_, _, .noPoll at_, by simp⟩
  | polling => exact ⟨_, _, .sessionStop at_ (.inl rfl), by simp⟩
  | sleeping => exact ⟨_, _, .slept at_, by simp⟩
  | leaving => exact ⟨_, _, .leave at_, by simp⟩
  | _ =>
      rw [at_] at inLoop
      cases inLoop

theorem ended_of_run {watch : Bool} {trace earlier later : List ControlEvent}
    {event : ControlEvent} {state : ControlState}
    (run : Run (HeedfulStep watch) .initial trace state)
    (splitEq : trace = earlier ++ event :: later) (stops : event.Stops)
    (same : sessionStarts ∉ later) :
    Ended state ∧ tested true ∉ later := by
  subst splitEq
  obtain ⟨before, after, beforeRun, taken, rest⟩ := run.split
  have inside : IoInside before :=
    beforeRun.invariant (fun active => by simp [ControlState.initial] at active)
      fun inside taken => ioInside_step inside taken.1
  have ended := ended_of_stops inside taken.1 stops
  clear taken beforeRun run
  induction rest with
  | nil => exact ⟨ended, List.not_mem_nil⟩
  | @snoc later middle final last rest lastTaken ih =>
      obtain ⟨middleEnded, noIteration⟩ :=
        ih fun member => same (List.mem_append_left _ member)
      have notStart : last ≠ sessionStarts := by
        rintro rfl
        exact same (by simp)
      refine ⟨ended_step middleEnded lastTaken.1 notStart, ?_⟩
      intro member
      rcases List.mem_append.mp member with earlierMember | isLast
      · exact noIteration earlierMember
      · cases List.mem_singleton.mp isLast
        exact not_tested_true middleEnded (lastTaken.2 true rfl) lastTaken.1

/-- Every source ends the session, in every run whose guard tests are not made
while a SIGTERM alone is in effect; a test that is starts an iteration. -/
theorem stopsSession_heedful (watch : Bool) :
    StopsSession watch (HeedfulStep watch) ∧
      ∀ s holds next, SigtermAlone s →
        ControlStep watch s (tested holds) next →
        holds = true ∧ s.isRunning = false := by
  constructor
  · refine ⟨?_, ?_, ?_⟩
    · intro trace state run earlier event later splitEq stops same
      exact (ended_of_run run splitEq stops same).2
    · intro trace state run earlier event later left splitEq stops same inLoop
      obtain ⟨ended, -⟩ := ended_of_run run splitEq stops same
      refine ⟨loop_moves watch inLoop, fun step => ?_⟩
      apply toJoin_step inLoop step.1
      rintro rfl
      exact not_tested_true ended (step.2 true rfl) step.1
    · rintro trace state next - ⟨taken, notAlone⟩
      cases taken with
      | iterate _ on bridge =>
          by_contra notRunning
          apply notAlone true rfl
          simp_all [ControlState.isRunning, SigtermAlone]
  · rintro s holds next ⟨notGlobal, on, bridge⟩ taken
    have off : s.isRunning = false := by
      simp [ControlState.isRunning, notGlobal]
    cases taken with
    | iterate => exact ⟨rfl, off⟩
    | loopEnds _ guard => simp [on, bridge] at guard

/-- The first test of the guard of a session. -/
def ControlState.session : ControlState :=
  { ControlState.initial with
    pc := .loopTest
    runningBridge := true
    io := .looping }

theorem run_session :
    Run (ControlStep true) .initial
      [tau, tau, polled .watchLoop .none, sessionStarts, tau] .session := by
  have polling := (Run.nil.snoc
    (@ControlStep.startWatch true .initial rfl rfl)).snoc (.watchGo rfl rfl)
  have starting := polling.snoc
    (.watchOther rfl (show IpcCommand.none ≠ _ by decide))
  exact (starting.snoc (.runSession rfl)).snoc (.setupDone rfl)

/-- After a SIGTERM, as launchd sends it, the session goes on. -/
theorem not_stopsSession : ¬ StopsSession true (ControlStep true) := by
  intro stopsSession
  have iterating := (run_session.snoc .sigterm).snoc (.iterate rfl rfl rfl)
  have stops : (stopped .sigterm).Stops := trivial
  have noIteration := @stopsSession.noIteration _ _ iterating
    [tau, tau, polled .watchLoop .none, sessionStarts, tau]
    (stopped .sigterm) [tested true] rfl stops
  simp at noIteration

end AndroidTether
