import AndroidTether.ControlLoop

/-!
# Watch-mode control

Which commands the watch loop obeys.  It keeps no record of a `Disable` or a
`Stop`: the command decides about the next session only when it is the result
of the last poll before it.
-/

namespace AndroidTether

open ControlEvent

/-- A `Disable` has been returned and no `Enable` since. -/
def Disabled (trace : List ControlEvent) : Prop :=
  ∃ earlier place later, trace = earlier ++ polled place .disable :: later ∧
    ∀ place, polled place .enable ∉ later

def StopSeen (trace : List ControlEvent) : Prop :=
  ∃ place, polled place .stop ∈ trace

/-- No session starts after a `Disable` until an `Enable`, or after a
`Stop`. -/
def Obeyed (trace : List ControlEvent) : Prop :=
  ∀ earlier later, trace = earlier ++ sessionStarts :: later →
    ¬ Disabled earlier ∧ ¬ StopSeen earlier

/-- The condition on the results of the watch loop's own polls. -/
def HarmlessPolls (trace : List ControlEvent) : Prop :=
  ∀ earlier command later,
    trace = earlier ++ polled .watchLoop command :: later →
      command ≠ .stop ∧ (StopSeen earlier → command = .disable) ∧
        (Disabled earlier → command = .disable ∨ command = .enable)

theorem disabled_concat {trace : List ControlEvent} {event : ControlEvent} :
    Disabled (trace ++ [event]) ↔
      (∃ place, event = polled place .disable) ∨
        Disabled trace ∧ ∀ place, event ≠ polled place .enable := by
  constructor
  · rintro ⟨earlier, place, later, splitEq, notEnabled⟩
    rcases List.eq_nil_or_concat later with rfl | ⟨later, last, rfl⟩
    · obtain ⟨-, eventEq⟩ := List.append_inj' splitEq rfl
      cases eventEq
      exact .inl ⟨place, rfl⟩
    · rw [List.concat_eq_append, ← List.cons_append, ← List.append_assoc]
        at splitEq
      obtain ⟨traceEq, lastEq⟩ := List.append_inj' splitEq rfl
      cases lastEq
      refine .inr ⟨⟨earlier, place, later, traceEq, ?_⟩, ?_⟩
      · intro place member
        exact notEnabled place (by simp [member])
      · rintro place rfl
        exact notEnabled place (by simp)
  · rintro (⟨place, rfl⟩ | ⟨⟨earlier, place, later, rfl, notEnabled⟩, other⟩)
    · exact ⟨trace, place, [], rfl, by simp⟩
    · refine ⟨earlier, place, later ++ [event], by simp, ?_⟩
      intro place member
      rcases List.mem_append.mp member with before | isLast
      · exact notEnabled place before
      · exact other place (List.mem_singleton.mp isLast).symm

theorem stopSeen_concat {trace : List ControlEvent} {event : ControlEvent} :
    StopSeen (trace ++ [event]) ↔
      (∃ place, event = polled place .stop) ∨ StopSeen trace := by
  constructor
  · rintro ⟨place, member⟩
    rcases List.mem_append.mp member with before | isLast
    · exact .inr ⟨place, before⟩
    · exact .inl ⟨place, (List.mem_singleton.mp isLast).symm⟩
  · rintro (⟨place, rfl⟩ | ⟨place, before⟩)
    · exact ⟨place, by simp⟩
    · exact ⟨place, List.mem_append_left _ before⟩

theorem quiet_append {trace quiet : List ControlEvent}
    (noPoll : ∀ place command, polled place command ∉ quiet) :
    (Disabled (trace ++ quiet) ↔ Disabled trace) ∧
      (StopSeen (trace ++ quiet) ↔ StopSeen trace) := by
  induction quiet using List.reverseRecOn with
  | nil => simp
  | append_singleton quiet last ih =>
      have before := ih fun place command member =>
        noPoll place command (List.mem_append_left _ member)
      have notPoll (place : PollPlace) (command : IpcCommand) :
          last ≠ polled place command := by
        rintro rfl
        exact noPoll place command (by simp)
      rw [← List.append_assoc, disabled_concat, stopSeen_concat, before.1,
        before.2]
      constructor <;> simp [notPoll]

theorem HarmlessPolls.of_append {trace later : List ControlEvent}
    (harmless : HarmlessPolls (trace ++ later)) : HarmlessPolls trace := by
  rintro earlier command rest rfl
  exact harmless earlier command (rest ++ later) (by simp)

/-- A session that is about to start has been permitted. -/
theorem starting_permitted {trace : List ControlEvent} {state : ControlState}
    (run : Run (ControlStep true) .initial trace state)
    (harmless : HarmlessPolls trace) (atPc : state.pc = .starting) :
    ¬ Disabled trace ∧ ¬ StopSeen trace := by
  induction run with
  | nil => cases atPc
  | @snoc trace state next event run taken ih =>
      have before := harmless.of_append
      cases taken with
      | startOnce _ mode => cases mode
      | @watchOther command _ other =>
          obtain ⟨notStop, afterStop, afterDisable⟩ :=
            harmless trace command [] rfl
          rw [disabled_concat, stopSeen_concat]
          refine ⟨?_, ?_⟩
          · rintro (⟨place, isDisable⟩ | ⟨disabled, notEnable⟩)
            · cases isDisable
              exact other rfl
            · rcases afterDisable disabled with isDisable | rfl
              · exact other isDisable
              · exact notEnable .watchLoop rfl
          · rintro (⟨place, isStop⟩ | stopSeen)
            · cases isStop
              exact notStop rfl
            · exact other (afterStop stopSeen)
      | ctrlC | ctrlCGlobal | sigterm | deviceLost | deviceGone | ioEnds
      | ioPanics =>
          rw [disabled_concat, stopSeen_concat]
          simpa using ih before atPc
      | trailGo trailing => exact absurd (trailing.symm.trans atPc) (by decide)
      | _ => cases atPc

theorem starting_starts {later : List ControlEvent}
    {state final : ControlState}
    (run : Run (ControlStep true) state later final)
    (atPc : state.pc = .starting) :
    (final.pc = .starting ∧ ∀ place command, polled place command ∉ later) ∨
      ∃ quiet rest, later = quiet ++ sessionStarts :: rest ∧
        ∀ place command, polled place command ∉ quiet := by
  induction run with
  | nil => exact .inl ⟨atPc, by simp⟩
  | @snoc later between final event run taken ih =>
      rcases ih with ⟨betweenPc, noPoll⟩ | ⟨quiet, rest, rfl, noPoll⟩
      swap
      · exact .inr ⟨quiet, rest ++ [event], by simp, noPoll⟩
      cases taken with
      | runSession => exact .inr ⟨later, [], rfl, noPoll⟩
      | ctrlC | ctrlCGlobal | sigterm | deviceLost | deviceGone | ioEnds
      | ioPanics => exact .inl ⟨betweenPc, by simp [noPoll]⟩
      | startWatch found | startOnce found | watchGo found | watchDone found
      | watchDisable found | watchOther found | setupFails found
      | setupDone found | iterate found | loopEnds found | noPoll found
      | pollDue found | sessionStop found | sessionOther found | slept found
      | leave found | join found | restore found | watchAgain found
      | trail found | trailGo found | trailDone found =>
          exact absurd (betweenPc.symm.trans found) (by simp)

/-- In watch mode the commands are obeyed when every poll of the watch loop is
harmless, and only then, once the session that the last poll permits has
started. -/
theorem obeyed_of_harmlessPolls {trace : List ControlEvent}
    {state : ControlState}
    (run : Run (ControlStep true) .initial trace state) :
    (HarmlessPolls trace → Obeyed trace) ∧
      (state.pc ≠ .starting → Obeyed trace → HarmlessPolls trace) := by
  constructor
  · rintro harmless earlier later rfl
    obtain ⟨before, next, earlierRun, taken, -⟩ := run.split
    cases taken with
    | runSession atPc =>
        exact starting_permitted earlierRun harmless.of_append atPc
  · rintro decided obeyed earlier command later rfl
    by_cases isDisable : command = .disable
    · exact ⟨by simp [isDisable], fun _ => isDisable, fun _ => .inl isDisable⟩
    obtain ⟨before, next, -, taken, after⟩ := run.split
    have nextPc : next.pc = .starting := by
      cases taken with
      | watchDisable => exact absurd rfl isDisable
      | watchOther => rfl
    rcases starting_starts after nextPc with
      ⟨pending, -⟩ | ⟨quiet, rest, rfl, noPoll⟩
    · exact absurd pending decided
    obtain ⟨notDisabled, notStopSeen⟩ :=
      obeyed (earlier ++ [polled .watchLoop command] ++ quiet) rest (by simp)
    obtain ⟨disabledIff, stopIff⟩ := quiet_append noPoll
    rw [disabledIff, disabled_concat] at notDisabled
    rw [stopIff, stopSeen_concat] at notStopSeen
    refine ⟨?_, ?_, ?_⟩
    · rintro rfl
      exact notStopSeen (.inl ⟨.watchLoop, rfl⟩)
    · intro stopSeen
      exact absurd (.inr stopSeen) notStopSeen
    · intro disabled
      by_contra neither
      apply notDisabled
      refine .inr ⟨disabled, ?_⟩
      rintro place isEnable
      cases isEnable
      exact neither (.inr rfl)

/-- Two polls of the watch loop, the first of them a `Disable`, and the start
of a session. -/
def afterDisable (second : IpcCommand) : List ControlEvent :=
  [.tau, .tau, polled .watchLoop .disable, .tau, polled .watchLoop second,
    sessionStarts]

theorem run_afterDisable {second : IpcCommand} (other : second ≠ .disable) :
    Run (ControlStep true) .initial (afterDisable second)
      { ControlState.initial with pc := .setup } := by
  have polling := (Run.nil.snoc
    (@ControlStep.startWatch true .initial rfl rfl)).snoc (.watchGo rfl rfl)
  have disabled := (polling.snoc (.watchDisable rfl)).snoc (.watchGo rfl rfl)
  exact (disabled.snoc (.watchOther rfl other)).snoc (.runSession rfl)

theorem obeyed_afterEnable :
    (HarmlessPolls (afterDisable .enable) → Obeyed (afterDisable .enable)) ∧
      (ControlPc.setup ≠ .starting →
        Obeyed (afterDisable .enable) → HarmlessPolls (afterDisable .enable)) :=
  obeyed_of_harmlessPolls (run_afterDisable (by decide))

/-- The watch loop forgets a `Disable` at its next poll and takes no notice of
a `Stop`. -/
theorem not_obeyed :
    ¬ (∀ trace state, Run (ControlStep true) .initial trace state →
      Obeyed trace) ∧
    ∃ state,
      Run (ControlStep true) .initial
        [.tau, .tau, polled .watchLoop .stop, sessionStarts] state ∧
      ¬ Obeyed [.tau, .tau, polled .watchLoop .stop, sessionStarts] := by
  constructor
  · intro always
    have obeyed := always _ _ (run_afterDisable (show IpcCommand.none ≠ _ by
      decide))
    apply (obeyed (afterDisable .none).dropLast [] rfl).1
    refine ⟨[.tau, .tau], .watchLoop, [.tau, polled .watchLoop .none], rfl, ?_⟩
    intro place
    simp
  · have polling := (Run.nil.snoc
      (@ControlStep.startWatch true .initial rfl rfl)).snoc (.watchGo rfl rfl)
    have started := (polling.snoc
      (.watchOther rfl (show IpcCommand.stop ≠ _ by decide))).snoc
        (.runSession rfl)
    refine ⟨_, started, ?_⟩
    intro obeyed
    apply (obeyed [.tau, .tau, polled .watchLoop .stop] [] rfl).2
    exact ⟨.watchLoop, by simp⟩

end AndroidTether
