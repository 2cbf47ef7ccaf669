import AndroidTether.RndisDriver

/-!
# The replies that initialisation takes

Which replies `init` reads, which of them it takes, and what it makes of them.
A reply is read by the round that follows it in time; nothing compares the
request number it carries.  From this follow the exact conditions under which
every completion answers the request before it, and under which the hardware
address is one that the device really sent.
-/

namespace AndroidTether

open ByteWords Checked

/-- The six bytes that `init` stores after a query: the information bytes,
filled up with zeros. -/
def answeredMac (reply : Bytes) : MacAddr :=
  ⟨(information reply ++ MacAddr.zero.bytes).take 6, by
    simp [MacAddr.length_eq]⟩

namespace Round

/-- The replies that the parser of a round accepts. -/
def Accepts (reply : Bytes) : Round → Prop
  | init => IsInitCmplt reply
  | query _ => IsQueryCmplt reply
  | set _ _ => IsSetCmplt reply

instance (reply : Bytes) : DecidablePred (Accepts reply)
  | init => inferInstanceAs (Decidable (IsInitCmplt reply))
  | query _ => inferInstanceAs (Decidable (IsQueryCmplt reply))
  | set _ _ => inferInstanceAs (Decidable (IsSetCmplt reply))

/-- The driver's state after a reply that was accepted. -/
def stored (reply : Bytes) (state : RndisState) : Round → RndisState
  | init =>
      { state with
        maxTransferSize := .ofNat (leWordAt reply 40 4)
        medium := .ofNat (leWordAt reply 28 4) }
  | query _ => { state with macAddr := answeredMac reply }
  | set _ _ => state

/-- The address that the driver knows after a reply that was accepted. -/
def address (reply : Bytes) (known : MacAddr) : Round → MacAddr
  | query _ => answeredMac reply
  | _ => known

@[simp]
theorem stored_macAddr (reply : Bytes) (state : RndisState) (round : Round) :
    (round.stored reply state).macAddr = round.address reply state.macAddr := by
  cases round <;> rfl

@[simp]
theorem stored_requestId (reply : Bytes) (state : RndisState) (round : Round) :
    (round.stored reply state).requestId = state.requestId := by
  cases round <;> rfl

theorem settle_accepted {round : Round} {reply : Bytes}
    (accepted : round.Accepts reply) (stage : DriverStage) :
    round.settle reply stage =
      .ok ()
        ((stage.store (round.stored reply stage.state)).take round.kind
          reply) := by
  cases round with
  | init =>
      rw [settle, RndisDriver.settleInit, parseInitCmplt_ok accepted]
      rfl
  | query oid =>
      have length := IsQueryCmplt.information_length accepted
      have macEq : (information reply).take 6 ++
          MacAddr.zero.bytes.drop (min (informationLength reply) 6) =
          (answeredMac reply).bytes := by
        change (information reply).take 6 ++
            (List.replicate 6 0).drop (min (informationLength reply) 6) =
          (information reply ++ List.replicate 6 0).take 6
        rw [List.take_append, List.drop_replicate, List.take_replicate, length]
        congr 2
        omega
      rw [settle, RndisDriver.settleQuery, parseQueryCmplt_ok accepted]
      simp only [MacAddr.length_eq, macEq, RndisDriver.macOfSlice, dif_pos]
      rfl
  | set oid data =>
      have checked : parseSetCmplt reply = .ok (.ok ()) :=
        checkCompletion_ok accepted (by omega)
      rw [settle, RndisDriver.settleSet, checked]
      rfl

/-- A reply that is not accepted ends the driver's start in the first round
and is passed over in the others. -/
theorem settle_rejected {round : Round} {reply : Bytes}
    (rejected : ¬ round.Accepts reply) (stage : DriverStage) :
    (round.kind = .init ∧
        ∃ err, round.settle reply stage = .error (.returned err) stage) ∨
      (round.kind ≠ .init ∧ round.settle reply stage = .ok () stage) := by
  cases round with
  | init =>
      obtain ⟨err, parsed⟩ := parseInitCmplt_error rejected stage.state
      exact .inl ⟨rfl, err, by rw [settle, RndisDriver.settleInit, parsed]; rfl⟩
  | query oid =>
      obtain ⟨err, parsed⟩ := parseQueryCmplt_error rejected MacAddr.zero.bytes
      exact .inr ⟨by simp [kind],
        by rw [settle, RndisDriver.settleQuery, parsed]⟩
  | set oid data =>
      obtain ⟨err, checked⟩ := @checkCompletion_error 16 rndisMsgSetC "SET_C"
        reply rejected (by omega)
      exact .inr ⟨by simp [kind],
        by rw [settle, RndisDriver.settleSet, parseSetCmplt, checked]⟩

end Round

/-- A reply with the round that reads it and the number of the request that
this round sent. -/
structure Reading where
  round : Round
  requestId : Nat
  reply : Bytes
  deriving DecidableEq

namespace Reading

def Accepted (reading : Reading) : Prop :=
  reading.round.Accepts reading.reply

instance : DecidablePred Accepted :=
  fun _ => inferInstanceAs (Decidable (Round.Accepts _ _))

/-- The record that is left of a reply that is taken. -/
def taken (reading : Reading) : TakenCompletion :=
  ⟨reading.round.kind, reading.reply,
    some (reading.round.message (.ofNat reading.requestId))⟩

/-- The address that the driver knows after a reply that is taken. -/
def address (known : MacAddr) (reading : Reading) : MacAddr :=
  reading.round.address reading.reply known

end Reading

/-- The replies that are read when rounds follow one another: reading ends
where the request counter overflows, where a transfer fails and where the
first completion is not accepted. -/
def readings (build : Build) (pipe : ControlPipe) :
    List Round → Nat → Nat → List Reading
  | [], _, _ => []
  | round :: rounds, last, count =>
      match build.addU32 last 1, pipe.controlOut count,
          pipe.controlIn count with
      | .ok requestId, .ok (), .ok response =>
          ⟨round, requestId, response.take rndisBufSize⟩ ::
            if round.kind = .init ∧
                ¬ round.Accepts (response.take rndisBufSize) then []
            else readings build pipe rounds requestId (count + 1)
      | _, _, _ => []

namespace RndisDriver

/-- A conversation takes the replies it reads that are accepted, in order, and
remembers the address of the last one that answers a query. -/
theorem converse_progress {build : Build} {pipe : ControlPipe}
    {rounds : List Round} {stage : DriverStage}
    (inStep : stage.sends = stage.receives) :
    (EStateM.Result.state (forM rounds (converse build pipe) stage)).taken =
        stage.taken ++
          ((readings build pipe rounds stage.state.requestId.toNat
            stage.sends).filter (·.Accepted)).map Reading.taken ∧
      (EStateM.Result.state
        (forM rounds (converse build pipe) stage)).state.macAddr =
        ((readings build pipe rounds stage.state.requestId.toNat
          stage.sends).filter (·.Accepted)).foldl Reading.address
            stage.state.macAddr := by
  induction rounds generalizing stage with
  | nil => exact ⟨(List.append_nil _).symm, rfl⟩
  | cons round rounds ih =>
      rw [List.forM_cons, EStateM.bind_apply, converse, EStateM.bind_apply, ask,
        readings, ← inStep]
      cases counted : build.addU32 stage.state.requestId.toNat 1 with
      | error panic => simp [EStateM.Result.state]
      | ok requestId =>
          have bound := Build.addU32_lt counted
          cases pipe.controlOut stage.sends with
          | error err => simp [EStateM.Result.state]
          | ok sent =>
              cases pipe.controlIn stage.sends with
              | error err => simp [EStateM.Result.state]
              | ok response =>
                  simp only
                  generalize response.take rndisBufSize = reply
                  have idEq : (UInt32.ofNat requestId).toNat = requestId :=
                    Nat.mod_eq_of_lt bound
                  have receivesEq : stage.sends + 1 = stage.receives + 1 := by
                    rw [inStep]
                  by_cases accepted : round.Accepts reply
                  · have later := @ih
                      (((stage.asked (.ofNat requestId) round).receive.store
                        (round.stored reply (stage.asked (.ofNat requestId)
                          round).receive.state)).take round.kind reply)
                      receivesEq
                    have takenUp : Reading.Accepted
                        ⟨round, requestId, reply⟩ := accepted
                    rw [Round.settle_accepted accepted,
                      if_neg (fun stops => stops.2 accepted),
                      List.filter_cons_of_pos (by simpa using takenUp),
                      List.map_cons, List.foldl_cons]
                    simpa [idEq, Reading.taken, Reading.address] using later
                  · have passedOver : ¬ Reading.Accepted
                        ⟨round, requestId, reply⟩ := accepted
                    rw [List.filter_cons_of_neg (by simpa using passedOver)]
                    rcases Round.settle_rejected accepted
                      (stage.asked (.ofNat requestId) round).receive with
                      ⟨first, err, stops⟩ | ⟨notFirst, passes⟩
                    · rw [stops, if_pos ⟨first, accepted⟩]
                      simp [EStateM.Result.state]
                    · have later := @ih
                        (stage.asked (.ofNat requestId) round).receive
                        receivesEq
                      rw [passes, if_neg (fun stops => notFirst stops.1)]
                      simpa [idEq] using later

/-- The replies that `init` reads on a driver state. -/
def initReadings (build : Build) (pipe : ControlPipe) (state : RndisState) :
    List Reading :=
  readings build pipe initRounds state.requestId.toNat 0

theorem initConversation_state (build : Build) (pipe : ControlPipe)
    (stage : DriverStage) :
    (initConversation build pipe stage).state.taken =
        (forM initRounds (converse build pipe) stage).state.taken ∧
      (initConversation build pipe stage).state.state.macAddr =
        (forM initRounds (converse build pipe) stage).state.state.macAddr := by
  rw [initConversation, EStateM.bind_apply]
  cases forM initRounds (converse build pipe) stage with
  | ok value after => exact ⟨rfl, rfl⟩
  | error stop after => exact ⟨rfl, rfl⟩

theorem initRun_taken (build : Build) (pipe : ControlPipe)
    (state : RndisState) :
    (initRun build pipe state).state.taken =
      ((initReadings build pipe state).filter (·.Accepted)).map
        Reading.taken := by
  have same := (initRun_related build pipe state).state.1
  have progress := @converse_progress build pipe initRounds (start state) rfl
  rw [same, (initConversation_state build pipe (start state)).1, progress.1]
  rfl

theorem initRun_macAddr (build : Build) (pipe : ControlPipe)
    (state : RndisState) :
    (initRun build pipe state).state.state.macAddr =
      ((initReadings build pipe state).filter (·.Accepted)).foldl
        Reading.address state.macAddr := by
  have same := (initRun_related build pipe state).state.1
  have progress := @converse_progress build pipe initRounds (start state) rfl
  rw [same, (initConversation_state build pipe (start state)).2, progress.2]
  rfl

end RndisDriver

end AndroidTether
