import AndroidTether.RndisReplies

/-!
# How initialisation ends

Whatever the device answers, `init` sends a prefix of the same numbered
messages.  It succeeds exactly when every transfer does and the first
completion is accepted, and only then is the link up.
-/

namespace AndroidTether

open ByteWords Checked RndisDriver

/-- The messages of rounds that follow one another, numbered from the last
request. -/
def numberedMessages : UInt32 → List Round → List Bytes
  | _, [] => []
  | last, round :: rounds =>
    round.message (last + 1) :: numberedMessages (last + 1) rounds

/-- The request counter still has room. -/
def CountsOn (build : Build) (last : UInt32) (rounds : Nat) : Prop :=
  build = .debug → last.toNat + rounds < 2 ^ 32

theorem addU32_countsOn {build : Build} {last : UInt32}
    (counts : CountsOn build last 1) :
    ∃ requestId, build.addU32 last.toNat 1 = .ok requestId ∧
      UInt32.ofNat requestId = last + 1 := by
  have wrapped : UInt32.ofNat ((last.toNat + 1) % 2 ^ 32) = last + 1 := by
    apply UInt32.toNat_inj.mp
    rw [UInt32.toNat_add]
    simp
  by_cases fits : last.toNat + 1 < 2 ^ 32
  · refine ⟨_, build.addU32_of_lt fits, ?_⟩
    rw [← wrapped, Nat.mod_eq_of_lt fits]
  · cases build with
    | debug => exact absurd (counts rfl) fits
    | release =>
        exact ⟨_, Build.addU32_release_of_le (not_lt.mp fits), wrapped⟩

theorem addU32_not_countsOn {build : Build} {last : UInt32}
    (counts : ¬ CountsOn build last 1) :
    build = .debug ∧ build.addU32 last.toNat 1 = .error .arithmeticOverflow := by
  unfold CountsOn at counts
  push Not at counts
  obtain ⟨rfl, overflows⟩ := counts
  exact ⟨rfl, Build.addU32_debug_of_le overflows⟩

/-- The transfers of a round succeed, and its completion is accepted where
that matters. -/
def PipeServes (pipe : ControlPipe) (round : Round) (call : Nat) : Prop :=
  pipe.controlOut call = .ok () ∧ ∃ response,
    pipe.controlIn call = .ok response ∧
      (round.kind = .init → round.Accepts (response.take rndisBufSize))

namespace DriverStage

/-- The stage after a round with its reply. -/
def exchanged (stage : DriverStage) (round : Round) (reply : Bytes) :
    DriverStage :=
  let heard := (stage.asked (stage.state.requestId + 1) round).receive
  if round.Accepts reply then
    (heard.store (round.stored reply heard.state)).take round.kind reply
  else heard

section Exchanged

variable (stage : DriverStage) (round : Round) (reply : Bytes)

@[simp]
theorem exchanged_sends :
    (stage.exchanged round reply).sends = stage.sends + 1 := by
  unfold exchanged
  split <;> rfl

@[simp]
theorem exchanged_receives :
    (stage.exchanged round reply).receives = stage.receives + 1 := by
  unfold exchanged
  split <;> rfl

@[simp]
theorem exchanged_sent : (stage.exchanged round reply).sent =
    stage.sent ++ [round.message (stage.state.requestId + 1)] := by
  unfold exchanged
  split <;> rfl

@[simp]
theorem exchanged_requestId :
    (stage.exchanged round reply).state.requestId =
      stage.state.requestId + 1 := by
  unfold exchanged
  split <;> simp

@[simp]
theorem exchanged_linkUp :
    (stage.exchanged round reply).state.linkUp = stage.state.linkUp := by
  unfold exchanged
  split
  · cases round <;> rfl
  · rfl

end Exchanged

end DriverStage

section Rounds

variable {build : Build} {pipe : ControlPipe} {round : Round}
  {stage : DriverStage}

theorem converse_serves {response : Bytes}
    (inStep : stage.sends = stage.receives)
    (counts : CountsOn build stage.state.requestId 1)
    (sends : pipe.controlOut stage.sends = .ok ())
    (receives : pipe.controlIn stage.sends = .ok response)
    (accepts : round.kind = .init →
      round.Accepts (response.take rndisBufSize)) :
    converse build pipe round stage =
      .ok () (stage.exchanged round (response.take rndisBufSize)) := by
  obtain ⟨requestId, counted, numbered⟩ := addU32_countsOn counts
  rw [inStep] at receives
  rw [converse, EStateM.bind_apply, ask, counted]
  simp only [sends, receives, numbered]
  rw [DriverStage.exchanged]
  by_cases accepted : round.Accepts (response.take rndisBufSize)
  · rw [Round.settle_accepted accepted, if_pos accepted]
  · rw [if_neg accepted]
    rcases Round.settle_rejected accepted
      (stage.asked (stage.state.requestId + 1) round).receive with
      ⟨first, -⟩ | ⟨-, passes⟩
    · exact absurd (accepts first) accepted
    · exact passes

/-- A round that ends early has sent its message or nothing. -/
structure RoundFailed (build : Build) (stage : DriverStage) (round : Round)
    (stop : DriverStop) (after : DriverStage) : Prop where
  sent : after.sent = stage.sent ∨
    after.sent = stage.sent ++ [round.message (stage.state.requestId + 1)]
  linkUp : after.state.linkUp = stage.state.linkUp
  panics : ∀ panic, stop = .panicked panic →
    ¬ CountsOn build stage.state.requestId 1

theorem converse_fails (inStep : stage.sends = stage.receives)
    (fails : ¬ (CountsOn build stage.state.requestId 1 ∧
      PipeServes pipe round stage.sends)) :
    ∃ stop after, converse build pipe round stage = .error stop after ∧
      RoundFailed build stage round stop after := by
  rw [converse, EStateM.bind_apply, ask]
  by_cases counts : CountsOn build stage.state.requestId 1
  · obtain ⟨requestId, counted, numbered⟩ := addU32_countsOn counts
    simp only [counted, numbered, ← inStep]
    cases sends : pipe.controlOut stage.sends with
    | error err =>
        exact ⟨_, _, rfl, .inr rfl, rfl, fun _ panics => by cases panics⟩
    | ok sent =>
        cases receives : pipe.controlIn stage.sends with
        | error err =>
            exact ⟨_, _, rfl, .inr rfl, rfl, fun _ panics => by cases panics⟩
        | ok response =>
            have rejected : ¬ (round.kind = .init →
                round.Accepts (response.take rndisBufSize)) :=
              fun accepts => fails ⟨counts, sends, response, receives, accepts⟩
            push Not at rejected
            rcases Round.settle_rejected rejected.2
              (stage.asked (stage.state.requestId + 1) round).receive with
              ⟨-, err, stops⟩ | ⟨later, -⟩
            · exact ⟨_, _, stops, .inr rfl, rfl,
                fun _ panics => by cases panics⟩
            · exact absurd rejected.1 later
  · obtain ⟨-, overflows⟩ := addU32_not_countsOn counts
    rw [overflows]
    exact ⟨_, _, rfl, .inl rfl, rfl, fun _ _ => counts⟩

/-- The pipe serves rounds that follow one another. -/
def PipeServesAll (pipe : ControlPipe) (rounds : List Round) (call : Nat) :
    Prop :=
  ∀ place round, rounds[place]? = some round →
    PipeServes pipe round (call + place)

theorem pipeServesAll_cons {rounds : List Round} {call : Nat} :
    PipeServesAll pipe (round :: rounds) call ↔
      PipeServes pipe round call ∧ PipeServesAll pipe rounds (call + 1) := by
  constructor
  · intro serves
    refine ⟨serves 0 round rfl, fun place later laterEq => ?_⟩
    have next := serves (place + 1) later laterEq
    rwa [← Nat.add_assoc, Nat.add_right_comm] at next
  · rintro ⟨first, rest⟩ place later laterEq
    cases place with
    | zero =>
        cases laterEq
        exact first
    | succ place =>
        rw [← Nat.add_assoc, Nat.add_right_comm]
        exact rest place later laterEq

theorem countsOn_succ {last : UInt32} {rounds : Nat} :
    CountsOn build last (rounds + 1) ↔
      CountsOn build last 1 ∧ CountsOn build (last + 1) rounds := by
  have next := UInt32.toNat_add last 1
  simp only [UInt32.reduceToNat, Nat.reducePow] at next
  constructor
  · intro counts
    refine ⟨fun isDebug => ?_, fun isDebug => ?_⟩
    · have room := counts isDebug
      omega
    · have room := counts isDebug
      omega
  · rintro ⟨first, rest⟩ isDebug
    have room := first isDebug
    have later := rest isDebug
    omega

/-- What is left of rounds that follow one another, however they end. -/
structure RoundsEnd (build : Build) (pipe : ControlPipe)
    (rounds : List Round) (stage : DriverStage)
    (result : EStateM.Result DriverStop DriverStage PUnit) : Prop where
  sent : ∃ sent, sent <+: numberedMessages stage.state.requestId rounds ∧
    result.state.sent = stage.sent ++ sent
  linkUp : result.state.state.linkUp = stage.state.linkUp
  succeeds : (∃ after, result = .ok ⟨⟩ after) ↔
    CountsOn build stage.state.requestId rounds.length ∧
      PipeServesAll pipe rounds stage.sends
  panics : ∀ panic after, result = .error (.panicked panic) after →
    ¬ CountsOn build stage.state.requestId rounds.length

theorem converse_ends (rounds : List Round)
    (inStep : stage.sends = stage.receives) :
    RoundsEnd build pipe rounds stage
      (forM rounds (converse build pipe) stage) := by
  induction rounds generalizing stage with
  | nil =>
      refine ⟨⟨[], List.prefix_rfl, (List.append_nil _).symm⟩, rfl,
        ⟨fun _ => ⟨fun _ => stage.state.requestId.toNat_lt, ?_⟩,
          fun _ => ⟨stage, rfl⟩⟩, fun _ _ panics => by cases panics⟩
      intro place round absent
      cases absent
  | cons round rounds ih =>
      rw [List.forM_cons, EStateM.bind_apply]
      by_cases serves : CountsOn build stage.state.requestId 1 ∧
          PipeServes pipe round stage.sends
      · obtain ⟨counts, sends, response, receives, accepts⟩ := serves
        have served : PipeServes pipe round stage.sends :=
          ⟨sends, response, receives, accepts⟩
        rw [converse_serves inStep counts sends receives accepts]
        have rest := @ih (stage.exchanged round (response.take rndisBufSize))
          (by simp [inStep])
        obtain ⟨sent, isPrefix, sentEq⟩ := rest.sent
        have linkUp := rest.linkUp
        have succeeds := rest.succeeds
        have panics := rest.panics
        simp only [DriverStage.exchanged_sent, DriverStage.exchanged_linkUp,
          DriverStage.exchanged_requestId, DriverStage.exchanged_sends]
          at isPrefix sentEq linkUp succeeds panics
        refine ⟨⟨_, List.cons_prefix_cons.mpr ⟨rfl, isPrefix⟩, ?_⟩, linkUp,
          succeeds.trans ?_, fun panic after panicked countsOn => ?_⟩
        · simpa using sentEq
        · rw [List.length_cons, countsOn_succ, pipeServesAll_cons]
          simp only [counts, served, true_and]
        · exact panics panic after panicked (countsOn_succ.mp countsOn).2
      · obtain ⟨stop, after, fails, failed⟩ := converse_fails inStep serves
        rw [fails]
        refine ⟨?_, failed.linkUp, ⟨?_, ?_⟩, ?_⟩
        · rcases failed.sent with sentEq | sentEq
          · exact ⟨[], List.nil_prefix, by
              rw [List.append_nil]
              exact sentEq⟩
          · exact ⟨[_], List.cons_prefix_cons.mpr ⟨rfl, List.nil_prefix⟩,
              sentEq⟩
        · rintro ⟨after, succeeds⟩
          cases succeeds
        · rintro ⟨counts, served⟩
          exact absurd ⟨(countsOn_succ.mp counts).1,
            (pipeServesAll_cons.mp served).1⟩ serves
        · intro panic after panicked counts
          cases panicked
          exact failed.panics panic rfl (countsOn_succ.mp counts).1

end Rounds

/-- What `init` needs to succeed. -/
structure InitServed (build : Build) (pipe : ControlPipe)
    (state : RndisState) : Prop where
  counts : CountsOn build state.requestId 4
  transfers : ∀ call < 4, pipe.controlOut call = .ok () ∧
    ∃ response, pipe.controlIn call = .ok response
  completes : ∃ response, pipe.controlIn 0 = .ok response ∧
    IsInitCmplt (response.take rndisBufSize)

theorem initServed_iff {build : Build} {pipe : ControlPipe}
    {state : RndisState} :
    InitServed build pipe state ↔
      CountsOn build state.requestId initRounds.length ∧
        PipeServesAll pipe initRounds 0 := by
  constructor
  · rintro ⟨counts, transfers, first, firstEq, completes⟩
    refine ⟨counts, fun place round roundEq => ?_⟩
    rw [Nat.zero_add]
    have inside : place < 4 := (List.getElem?_eq_some_iff.mp roundEq).1
    obtain ⟨sends, response, receives⟩ := transfers place inside
    refine ⟨sends, response, receives, fun isInit => ?_⟩
    cases place with
    | zero =>
        rw [firstEq] at receives
        cases roundEq
        cases receives
        exact completes
    | succ place =>
        have later : ∀ round ∈ initRounds.tail, round.kind ≠ .init := by
          decide
        exact absurd isInit (later round (List.mem_of_getElem? roundEq))
  · rintro ⟨counts, serves⟩
    refine ⟨counts, fun call inside => ?_, ?_⟩
    · obtain ⟨sends, response, receives, -⟩ :=
        serves call _ (List.getElem?_eq_getElem inside)
      rw [Nat.zero_add] at sends receives
      exact ⟨sends, response, receives⟩
    · obtain ⟨-, response, receives, accepts⟩ := serves 0 .init rfl
      exact ⟨response, receives, accepts rfl⟩

/-- `init` keeps to the protocol with any device, says exactly then that the
link is up when it succeeds, and does not panic while the counter has room. -/
theorem initRun_outcome (build : Build) (pipe : ControlPipe)
    (state : RndisState) :
    (initRun build pipe state).state.sent <+:
        numberedMessages state.requestId initRounds ∧
      ((∃ world, initRun build pipe state = .ok () world) ↔
        InitServed build pipe state) ∧
      ((initRun build pipe state).state.state.linkUp ↔
        state.linkUp ∨ InitServed build pipe state) ∧
      ∀ panic world,
        initRun build pipe state = .error (.panicked panic) world →
          ¬ CountsOn build state.requestId 4 := by
  have related := initRun_related build pipe state
  have same := related.state.1
  obtain ⟨⟨sent, isPrefix, sentEq⟩, linkUp, succeeds, panics⟩ :=
    @converse_ends build pipe (start state) initRounds rfl
  have served : InitServed build pipe state ↔
      ∃ after, forM initRounds (converse build pipe) (start state) =
        .ok ⟨⟩ after :=
    initServed_iff.trans succeeds.symm
  rw [served]
  rw [initConversation, EStateM.bind_apply] at related same
  generalize forM initRounds (converse build pipe) (start state) = result
    at sentEq linkUp panics related same
  generalize initRun build pipe state = outcome at related same
  cases result with
  | ok value after =>
      obtain ⟨world, rfl, stageEq, -⟩ := related.ends
      rw [same]
      refine ⟨?_, ⟨fun _ => ⟨after, rfl⟩, fun _ => ⟨world, rfl⟩⟩,
        ⟨fun _ => .inr ⟨after, rfl⟩, fun _ => rfl⟩, fun _ _ panicked => ?_⟩
      · change after.sent <+: _
        change after.sent = _ at sentEq
        rw [sentEq]
        exact isPrefix
      · cases panicked
  | error stop after =>
      have stopped : ∃ world, outcome = .error stop world := by
        cases related with
        | error _ _ => exact ⟨_, rfl⟩
      obtain ⟨world, rfl⟩ := stopped
      rw [same]
      refine ⟨?_, ⟨?_, ?_⟩, ⟨fun up => .inl (linkUp.symm.trans up), ?_⟩, ?_⟩
      · change after.sent = _ at sentEq
        change after.sent <+: _
        rw [sentEq]
        exact isPrefix
      · rintro ⟨world, succeeds⟩
        cases succeeds
      · rintro ⟨after, succeeds⟩
        cases succeeds
      · rintro (up | ⟨after, succeeds⟩)
        · exact linkUp.trans up
        · cases succeeds
      · intro panic world panicked
        cases panicked
        exact panics panic after rfl

end AndroidTether
