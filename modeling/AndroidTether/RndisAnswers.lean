import AndroidTether.RndisReplies
import Mathlib.Data.List.Induction

/-!
# Answers and requests

Two properties of `init` against an arbitrary stream of replies: every
completion that it takes answers the request sent immediately before, and the
hardware address is that of the last query that was really answered.  The
program does not look at the request number of a completion and stores an
address for every query that succeeds, so each property holds exactly when the
device behaves.
-/

namespace AndroidTether

open ByteWords Checked RndisDriver

theorem readings_requestId_lt {build : Build} {pipe : ControlPipe}
    {rounds : List Round} {last count : Nat} :
    ∀ reading ∈ readings build pipe rounds last count,
      reading.requestId < 2 ^ 32 := by
  induction rounds generalizing last count with
  | nil => simp [readings]
  | cons round rounds ih =>
      rw [readings]
      split
      case h_2 => simp
      case h_1 requestId sent response counted sentEq responseEq =>
        have bound := Build.addU32_lt counted
        rw [List.forall_mem_cons]
        refine ⟨bound, ?_⟩
        split
        · simp
        · exact ih

/-- What a run has taken are the replies it has read and accepted. -/
theorem forall_taken_iff {build : Build} {pipe : ControlPipe}
    {state : RndisState} {holds : TakenCompletion → Prop} :
    (∀ taken ∈ (initRun build pipe state).state.taken, holds taken) ↔
      ∀ reading ∈ initReadings build pipe state,
        reading.Accepted → holds reading.taken := by
  rw [initRun_taken, List.forall_mem_map]
  simp only [List.mem_filter, decide_eq_true_eq, and_imp]

/-- The completion carries the number of the request that was sent
immediately before it was read. -/
def Correlated (taken : TakenCompletion) : Prop :=
  ∃ request, taken.request = some request ∧
    requestIdOf taken.completion = requestIdOf request

theorem Reading.correlated_iff {reading : Reading}
    (bound : reading.requestId < 2 ^ 32) :
    Correlated reading.taken ↔
      requestIdOf reading.reply = reading.requestId := by
  have idEq : requestIdOf
      (reading.round.message (.ofNat reading.requestId)) =
      reading.requestId := by
    rw [Round.requestIdOf_message]
    exact Nat.mod_eq_of_lt bound
  constructor
  · rintro ⟨request, requestEq, same⟩
    cases requestEq
    exact same.trans idEq
  · intro same
    exact ⟨_, rfl, same.trans idEq.symm⟩

/-- Completions and requests correspond in exactly the runs in which every
reply that is accepted happens to carry the number of its round. -/
theorem completionsCorrelated_iff (build : Build) (pipe : ControlPipe)
    (state : RndisState) :
    (∀ taken ∈ (initRun build pipe state).state.taken, Correlated taken) ↔
      ∀ reading ∈ initReadings build pipe state, reading.Accepted →
        requestIdOf reading.reply = reading.requestId := by
  rw [forall_taken_iff]
  refine forall₂_congr fun reading member => imp_congr_right fun _ => ?_
  exact reading.correlated_iff (readings_requestId_lt reading member)

/-- A completion of the given type that reports success. -/
def successfulCmplt (msgType requestId : Nat) (rest : Bytes) : Bytes :=
  wordBytes [msgType, 16 + rest.length, requestId, rndisStatusSuccess] ++ rest

/-- An INIT completion: version 1.0, one packet of at most 16384 bytes in a
transfer, aligned to 4 bytes. -/
def exampleInitCmplt : Bytes :=
  successfulCmplt rndisMsgInitC 1
    (wordBytes [1, 0, 1, 0, 1, 0x4000, 2, 0, 0])

def exampleQueryCmplt (requestId : Nat) (info : Bytes) : Bytes :=
  successfulCmplt rndisMsgQueryC requestId
    (wordBytes [info.length, 16] ++ info)

def exampleSetCmplt (requestId : Nat) : Bytes :=
  successfulCmplt rndisMsgSetC requestId []

/-- A control endpoint that accepts every message and answers with the given
replies. -/
def answering (replies : List Bytes) : ControlPipe where
  controlOut _ := .ok ()
  controlIn count := .ok (replies.getD count [])

/-- A device that answers each query one round too late. -/
def lateDevice : ControlPipe :=
  answering
    [exampleInitCmplt, [], exampleQueryCmplt 2 [2, 0, 0, 0, 0, 7],
      exampleQueryCmplt 3 [2, 0, 0, 0, 0, 9]]

/-- The answer to the first query is taken for that to the second one. -/
theorem lateDevice_not_correlated :
    ¬ ∀ taken ∈ (initRun .release lateDevice .default).state.taken,
      Correlated taken := by
  rw [forall_taken_iff]
  intro correlated
  have late : ⟨.query oid8023PermanentAddress, 3,
      exampleQueryCmplt 2 [2, 0, 0, 0, 0, 7]⟩ ∈
        initReadings .release lateDevice .default := by
    decide
  have same := (Reading.correlated_iff (by decide)).mp
    (correlated _ late (by decide))
  exact absurd same (by decide)

/-- A successful QUERY_C with at least the six information bytes of a hardware
address. -/
def CarriesAddress (reply : Bytes) : Prop :=
  IsQueryCmplt reply ∧ 6 ≤ informationLength reply

instance : DecidablePred CarriesAddress :=
  fun _ => inferInstanceAs (Decidable (_ ∧ _))

/-- The replies that the queries of `init` read. -/
def queryReplies (build : Build) (pipe : ControlPipe) (state : RndisState) :
    List Bytes :=
  ((initReadings build pipe state).filter (·.round.kind = .query)).map
    (·.reply)

/-- The first six information bytes of the last reply that carries an address,
or the previous address. -/
def learnedAddress (previous : Bytes) (replies : List Bytes) : Bytes :=
  match (replies.filter (CarriesAddress ·)).getLast? with
  | some reply => (information reply).take 6
  | none => previous

/-- What MAC discovery owes: the address is the one that was learned last, and
no completion is stored that does not carry a whole one. -/
structure MacDiscovered (build : Build) (pipe : ControlPipe)
    (state : RndisState) : Prop where
  learned : (initRun build pipe state).state.state.macAddr.bytes =
    learnedAddress state.macAddr.bytes (queryReplies build pipe state)
  onlyWhole : ∀ taken ∈ (initRun build pipe state).state.taken,
    taken.kind = .query → 6 ≤ informationLength taken.completion

/-- The address after a run of replies is that of the last query among
them. -/
theorem foldl_address (known : MacAddr) (taken : List Reading) :
    taken.foldl Reading.address known =
      match (taken.filter (·.round.kind = .query)).getLast? with
      | some reading => answeredMac reading.reply
      | none => known := by
  induction taken using List.reverseRecOn with
  | nil => rfl
  | append_singleton taken reading ih =>
      obtain ⟨round, requestId, reply⟩ := reading
      rw [List.foldl_append, List.foldl_cons, List.foldl_nil,
        List.filter_append]
      cases round with
      | query oid => simp [Round.kind, Reading.address, Round.address]
      | init => simpa [Round.kind, Reading.address, Round.address] using ih
      | set oid data =>
          simpa [Round.kind, Reading.address, Round.address] using ih

theorem CarriesAddress.answeredMac_bytes {reply : Bytes}
    (carries : CarriesAddress reply) :
    (answeredMac reply).bytes = (information reply).take 6 := by
  have length := carries.1.information_length
  have long := carries.2
  exact List.take_append_of_le_length (by omega)

theorem Reading.accepted_iff_of_query {reading : Reading}
    (isQuery : reading.round.kind = .query) :
    reading.Accepted ↔ IsQueryCmplt reading.reply := by
  obtain ⟨round, requestId, reply⟩ := reading
  cases round with
  | query oid => exact Iff.rfl
  | init => cases isQuery
  | set oid data => cases isQuery

theorem filter_carriesAddress {build : Build} {pipe : ControlPipe}
    {state : RndisState}
    (whole : ∀ reply ∈ queryReplies build pipe state,
      IsQueryCmplt reply → 6 ≤ informationLength reply) :
    (queryReplies build pipe state).filter (CarriesAddress ·) =
      (((initReadings build pipe state).filter (·.Accepted)).filter
        (·.round.kind = .query)).map (·.reply) := by
  rw [queryReplies, List.filter_map, List.filter_filter, List.filter_filter]
  refine congrArg _ (List.filter_congr fun reading member => ?_)
  by_cases isQuery : reading.round.kind = .query
  · have replyMem : reading.reply ∈ queryReplies build pipe state :=
      List.mem_map_of_mem (List.mem_filter.mpr ⟨member, by simpa using isQuery⟩)
    have carries : CarriesAddress reading.reply ↔ reading.Accepted := by
      rw [Reading.accepted_iff_of_query isQuery]
      exact ⟨fun carries => carries.1,
        fun completes => ⟨completes, whole _ replyMem completes⟩⟩
    simp [isQuery, carries]
  · simp [isQuery]

/-- MAC discovery works in exactly the runs in which no query is answered by a
successful completion that announces fewer than six information bytes. -/
theorem macDiscovered_iff (build : Build) (pipe : ControlPipe)
    (state : RndisState) :
    MacDiscovered build pipe state ↔
      ∀ reply ∈ queryReplies build pipe state,
        IsQueryCmplt reply → 6 ≤ informationLength reply := by
  constructor
  · intro discovered reply member completes
    obtain ⟨reading, readingMem, rfl⟩ := List.mem_map.mp member
    obtain ⟨read, isQuery⟩ := List.mem_filter.mp readingMem
    have kindEq : reading.round.kind = .query := by simpa using isQuery
    exact forall_taken_iff.mp discovered.onlyWhole reading read
      ((Reading.accepted_iff_of_query kindEq).mpr completes) kindEq
  · intro whole
    refine ⟨?_, forall_taken_iff.mpr fun reading read accepted kindEq => ?_⟩
    · rw [initRun_macAddr, foldl_address, learnedAddress,
        filter_carriesAddress whole, List.getLast?_map]
      cases last : (((initReadings build pipe state).filter
          (·.Accepted)).filter (·.round.kind = .query)).getLast? with
      | none => rfl
      | some reading =>
          have replyMem : reading.reply ∈
              (queryReplies build pipe state).filter (CarriesAddress ·) := by
            rw [filter_carriesAddress whole]
            exact List.mem_map_of_mem (List.mem_of_getLast? last)
          have carries : CarriesAddress reading.reply := by
            simpa using (List.mem_filter.mp replyMem).2
          exact carries.answeredMac_bytes
    · refine whole reading.reply (List.mem_map_of_mem
        (List.mem_filter.mpr ⟨read, decide_eq_true kindEq⟩)) ?_
      exact (Reading.accepted_iff_of_query kindEq).mp accepted

/-- A device that answers the first query and has nothing to say to the
second one. -/
def emptyAnswerDevice : ControlPipe :=
  answering
    [exampleInitCmplt, exampleQueryCmplt 2 [2, 0, 0, 0, 0, 7],
      exampleQueryCmplt 3 [], exampleSetCmplt 4]

/-- The empty answer replaces the address that was learned by zeros, and
`init` returns `Ok`. -/
theorem emptyAnswer_not_macDiscovered :
    (∃ world, initRun .release emptyAnswerDevice .default = .ok () world ∧
        world.state.macAddr = .zero) ∧
      ¬ MacDiscovered .release emptyAnswerDevice .default := by
  have conversation : ∃ stage,
      initConversation .release emptyAnswerDevice (start .default) =
          .ok () stage ∧
        stage.state.macAddr = .zero :=
    ⟨_, rfl, rfl⟩
  obtain ⟨stage, modelEnds, address⟩ := conversation
  have related := initRun_related .release emptyAnswerDevice .default
  rw [modelEnds] at related
  obtain ⟨world, ends, same, -⟩ := related.ends
  subst same
  refine ⟨⟨world, ends, address⟩, fun discovered => ?_⟩
  have answers : queryReplies .release emptyAnswerDevice .default =
      [exampleQueryCmplt 2 [2, 0, 0, 0, 0, 7], exampleQueryCmplt 3 []] := by
    decide
  have learned := discovered.learned
  rw [ends, answers] at learned
  change world.state.macAddr.bytes = _ at learned
  rw [address] at learned
  exact absurd learned (by decide)

end AndroidTether
