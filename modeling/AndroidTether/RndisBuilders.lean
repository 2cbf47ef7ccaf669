import AndroidTether.RndisCompletions

/-!
# Runs of the control-message builders

Four builders number their messages with one counter.  A run of calls, each
with a buffer of its own, leaves a list of outcomes; the `k`th successful one
carries the number `k` and a header that describes the message, as long as the
message is short enough for its length to be a `u32`.
-/

namespace AndroidTether

open ByteWords Checked

/-- A control message, with what its builder is given. -/
inductive ControlMessage
  | init
  | query (oid : UInt32)
  | set (oid : UInt32) (data : Bytes)
  | keepalive
  deriving DecidableEq

namespace ControlMessage

def hdrSize : ControlMessage → Nat
  | init => 24
  | query _ => 28
  | set _ _ => 28
  | keepalive => 12

def data : ControlMessage → Bytes
  | set _ data => data
  | _ => []

/-- The length that the builder returns. -/
def size (message : ControlMessage) : Nat :=
  message.hdrSize + message.data.length

/-- The header words of the message with the given number. -/
def words (requestId : UInt32) : ControlMessage → List Nat
  | init =>
      [rndisMsgInit, 24, requestId.toNat, rndisMajorVersion,
        rndisMinorVersion, rndisMaxTransferSize]
  | query oid => [rndisMsgQuery, 28, requestId.toNat, oid.toNat, 0, 20, 0]
  | set oid data =>
      [rndisMsgSet, (28 + data.length) % 2 ^ 32, requestId.toNat, oid.toNat,
        data.length % 2 ^ 32, 20, 0]
  | keepalive => [rndisMsgKeepalive, 12, requestId.toNat]

def builder (build : Build) (buf : Bytes) (state : RndisState) :
    ControlMessage → Checked (Except TetherError Nat × Bytes × RndisState)
  | init => buildInit build buf state
  | query oid => buildQuery build buf oid.toNat state
  | set oid data => buildSet build buf oid.toNat data state
  | keepalive => buildKeepalive build buf state

/-- The buffer behind a successful builder. -/
def writtenOver (requestId : UInt32) (message : ControlMessage)
    (buf : Bytes) : Bytes :=
  wordBytes (message.words requestId) ++ message.data ++ buf.drop message.size

theorem words_length (requestId : UInt32) (message : ControlMessage) :
    4 * (message.words requestId).length = message.hdrSize := by
  cases message <;> rfl

section Builder

variable {build : Build} {message : ControlMessage} {buf : Bytes}
  {state : RndisState}

/-- The four builders are one layout at their own constants. -/
theorem builder_eq_buildMessage :
    message.builder build buf state =
      buildMessage build message.hdrSize (fun requestId =>
        (List.range' 0 (message.words requestId).length 4).zip
          (message.words requestId)) message.data buf state := by
  cases message <;> rfl

theorem builder_small (small : buf.length < message.size) :
    message.builder build buf state =
      .ok (.error (.bufferTooSmall message.size buf.length), buf, state) :=
  builder_eq_buildMessage.trans (buildMessage_small small)

theorem builder_eq (fits : message.size ≤ buf.length)
    (counts : state.requestId.toNat + 1 < 2 ^ 32) :
    message.builder build buf state =
      .ok (.ok message.size,
        message.writtenOver (.ofNat (state.requestId.toNat + 1)) buf,
        { state with requestId := .ofNat (state.requestId.toNat + 1) }) := by
  rw [builder_eq_buildMessage,
    buildMessage_eq (fun _ => rfl) (fun requestId =>
      words_length requestId message) fits, Build.addU32_of_lt build counts]
  rfl

end Builder

end ControlMessage

/-- A message in a buffer describes itself: its number, its length and, in a
SET, where its data is, by the rule that `parse_query_cmplt` follows. -/
structure LaidOut (message : ControlMessage) (requestId : Nat)
    (buf after : Bytes) (length : Nat) : Prop where
  requestId_eq : leWordAt after 8 4 = requestId
  messageLength_eq : leWordAt after 4 4 = length
  information_eq : ∀ oid data, message = .set oid data →
    information after = data
  information_end : ∀ oid data, message = .set oid data →
    informationStart after + informationLength after = length
  kept : after.drop length = buf.drop length
  length_eq : after.length = buf.length

section Layout

variable {message : ControlMessage} {requestId : UInt32} {buf : Bytes}

theorem leWordAt_writtenOver {place : Nat}
    (inside : place < (message.words requestId).length) :
    leWordAt (message.writtenOver requestId buf) (4 * place) 4 =
      (message.words requestId)[place] % 2 ^ 32 := by
  rw [ControlMessage.writtenOver, List.append_assoc]
  exact leWordAt_wordBytes inside _

theorem writtenOver_requestId :
    leWordAt (message.writtenOver requestId buf) 8 4 = requestId.toNat := by
  have third : 2 < (message.words requestId).length := by
    cases message <;> simp [ControlMessage.words]
  have word := @leWordAt_writtenOver message requestId buf 2 third
  have bound := requestId.toNat_lt
  refine word.trans ?_
  cases message <;> exact Nat.mod_eq_of_lt bound

theorem writtenOver_messageLength :
    leWordAt (message.writtenOver requestId buf) 4 4 =
      message.size % 2 ^ 32 := by
  have second : 1 < (message.words requestId).length := by
    cases message <;> simp [ControlMessage.words]
  have word := @leWordAt_writtenOver message requestId buf 1 second
  refine word.trans ?_
  cases message with
  | init => rfl
  | query oid => rfl
  | set oid data => exact Nat.mod_mod _ _
  | keepalive => rfl

theorem front_length :
    (wordBytes (message.words requestId) ++ message.data).length =
      message.size := by
  rw [List.length_append, wordBytes_length, ControlMessage.words_length]
  rfl

theorem set_information {oid : UInt32} {data : Bytes}
    (short : 28 + data.length < 2 ^ 32) :
    informationStart (ControlMessage.writtenOver requestId (.set oid data)
        buf) = 28 ∧
      informationLength (ControlMessage.writtenOver requestId (.set oid data)
        buf) = data.length ∧
      information (ControlMessage.writtenOver requestId (.set oid data) buf) =
        data := by
  have start : leWordAt (ControlMessage.writtenOver requestId
      (.set oid data) buf) 20 4 = 20 :=
    @leWordAt_writtenOver (.set oid data) requestId buf 5
      (by simp [ControlMessage.words])
  have announced : leWordAt (ControlMessage.writtenOver requestId
      (.set oid data) buf) 16 4 = data.length := by
    have word := @leWordAt_writtenOver (.set oid data) requestId buf 4
      (by simp [ControlMessage.words])
    refine word.trans ?_
    change data.length % 2 ^ 32 % 2 ^ 32 = data.length
    omega
  refine ⟨by rw [informationStart, start], announced, ?_⟩
  have headerLength : (wordBytes (ControlMessage.words requestId
      (.set oid data))).length = 28 :=
    wordBytes_length _
  rw [information, start, informationLength, announced,
    ControlMessage.writtenOver, List.append_assoc,
    List.drop_left' headerLength]
  exact List.take_left

/-- What a successful builder leaves describes itself exactly when its length
is a `u32`. -/
theorem laidOut_iff (fits : message.size ≤ buf.length) :
    LaidOut message requestId.toNat buf (message.writtenOver requestId buf)
        message.size ↔ message.size < 2 ^ 32 := by
  constructor
  · intro laidOut
    have word := laidOut.messageLength_eq
    rw [writtenOver_messageLength] at word
    omega
  · intro short
    exact
      { requestId_eq := writtenOver_requestId
        messageLength_eq := by
          rw [writtenOver_messageLength, Nat.mod_eq_of_lt short]
        information_eq := by
          rintro oid data rfl
          exact (set_information short).2.2
        information_end := by
          rintro oid data rfl
          obtain ⟨start, announced, -⟩ :=
            @set_information requestId buf oid data short
          rw [start, announced]
          rfl
        kept := List.drop_left' front_length
        length_eq := by
          rw [ControlMessage.writtenOver, List.length_append, front_length,
            List.length_drop]
          omega }

end Layout

structure BuilderCall where
  message : ControlMessage
  buf : Bytes

/-- A call with the state it started from and all that it left behind. -/
structure BuilderOutcome where
  call : BuilderCall
  before : RndisState
  result : Except TetherError Nat
  buf : Bytes
  after : RndisState

/-- One call after another on the same state. -/
def runBuilders (build : Build) :
    RndisState → List BuilderCall → Checked (List BuilderOutcome)
  | _, [] => .ok []
  | state, call :: calls => do
      let (result, buf, after) ← call.message.builder build call.buf state
      let outcomes ← runBuilders build after calls
      return ⟨call, state, result, buf, after⟩ :: outcomes

/-- A call failed without a trace, or it built its message with the given
number. -/
def BuilderOutcome.Consistent (requestId : Nat) (outcome : BuilderOutcome) :
    Prop :=
  match outcome.result with
  | .error _ =>
      outcome.buf = outcome.call.buf ∧ outcome.after = outcome.before
  | .ok length =>
      LaidOut outcome.call.message requestId outcome.call.buf outcome.buf
        length

/-- The number of successful calls. -/
def successes (outcomes : List BuilderOutcome) : Nat :=
  outcomes.countP fun outcome => outcome.result.isOk

/-- Every call of a run is consistent, when `built` messages have been built
before it. -/
def ConsistentFrom (built : Nat) (outcomes : List BuilderOutcome) : Prop :=
  ∀ front outcome back, outcomes = front ++ outcome :: back →
    outcome.Consistent (built + successes front + 1)

theorem consistentFrom_cons {built : Nat} {outcome : BuilderOutcome}
    {outcomes : List BuilderOutcome} :
    ConsistentFrom built (outcome :: outcomes) ↔
      outcome.Consistent (built + 1) ∧
        ConsistentFrom (built + successes [outcome]) outcomes := by
  have counted (front : List BuilderOutcome) :
      built + successes (outcome :: front) =
        built + successes [outcome] + successes front := by
    rw [Nat.add_assoc, successes, successes, successes, ← List.countP_append]
    rfl
  constructor
  · intro consistent
    refine ⟨consistent [] outcome outcomes rfl, ?_⟩
    rintro front next back rfl
    rw [← counted]
    exact consistent (outcome :: front) next back rfl
  · rintro ⟨first, later⟩ front next back split
    cases front with
    | nil =>
        obtain ⟨rfl, rfl⟩ := List.cons.inj split
        exact first
    | cons head front =>
        obtain ⟨rfl, rfl⟩ := List.cons.inj split
        rw [counted]
        exact later front next back rfl

/-- The length of the message is a `u32`, if the message is built at all. -/
def BuilderCall.Short (call : BuilderCall) : Prop :=
  call.message.size ≤ call.buf.length → call.message.size < 2 ^ 32

theorem runBuilders_spec (build : Build) {calls : List BuilderCall}
    {state : RndisState} {built : Nat}
    (counted : state.requestId.toNat = built)
    (few : built + calls.length < 2 ^ 32) :
    ∃ outcomes, runBuilders build state calls = .ok outcomes ∧
      outcomes.map BuilderOutcome.call = calls ∧
      (ConsistentFrom built outcomes ↔ ∀ call ∈ calls, call.Short) := by
  induction calls generalizing state built with
  | nil =>
      refine ⟨[], rfl, rfl, fun _ => List.forall_mem_nil _, fun _ => ?_⟩
      intro front outcome back split
      simp at split
  | cons call calls ih =>
      rw [List.length_cons] at few
      simp only [runBuilders, List.forall_mem_cons]
      by_cases fits : call.message.size ≤ call.buf.length
      · have number : (UInt32.ofNat (built + 1)).toNat = built + 1 := by
          rw [UInt32.toNat_ofNat']
          omega
        obtain ⟨outcomes, returned, callsEq, later⟩ := @ih
          { state with requestId := .ofNat (built + 1) } (built + 1) number
          (by omega)
        have built' := @ControlMessage.builder_eq build call.message call.buf
          state fits (by omega)
        rw [counted] at built'
        rw [built', ok_bind]
        simp only [returned, ok_bind]
        refine ⟨_, rfl, by rw [List.map_cons, callsEq], ?_⟩
        rw [consistentFrom_cons]
        refine and_congr ?_ later
        have laidOut := @laidOut_iff call.message (.ofNat (built + 1))
          call.buf fits
        rw [number] at laidOut
        exact laidOut.trans ⟨fun short _ => short, fun short => short fits⟩
      · obtain ⟨outcomes, returned, callsEq, later⟩ := @ih state built counted
          (by omega)
        rw [ControlMessage.builder_small (not_le.mp fits), ok_bind]
        simp only [returned, ok_bind]
        refine ⟨_, rfl, by rw [List.map_cons, callsEq], ?_⟩
        rw [consistentFrom_cons]
        exact and_congr ⟨fun _ fitted => absurd fitted fits,
          fun _ => ⟨rfl, rfl⟩⟩ later

/-- From a fresh counter on, the builders are consistent unless a message is
longer than its length word can say. -/
theorem runBuilders_consistent_iff (build : Build) {state : RndisState}
    (fresh : state.requestId = 0) {calls : List BuilderCall}
    (few : calls.length < 2 ^ 32) :
    ∃ outcomes, runBuilders build state calls = .ok outcomes ∧
      outcomes.map BuilderOutcome.call = calls ∧
      (ConsistentFrom 0 outcomes ↔ ∀ call ∈ calls, call.Short) :=
  runBuilders_spec build (by rw [fresh]; rfl) (by omega)

/-- A query between two calls that find no room. -/
theorem query_between_failures :
    RndisState.default.requestId = 0 ∧
      ([⟨.init, [1, 2]⟩, ⟨.query 257, List.replicate 30 7⟩,
        ⟨.keepalive, []⟩] : List BuilderCall).length < 2 ^ 32 ∧
      ∃ outcomes, runBuilders .debug .default
        [⟨.init, [1, 2]⟩, ⟨.query 257, List.replicate 30 7⟩,
          ⟨.keepalive, []⟩] = .ok outcomes ∧
        outcomes.map BuilderOutcome.call =
          [⟨.init, [1, 2]⟩, ⟨.query 257, List.replicate 30 7⟩,
            ⟨.keepalive, []⟩] ∧
        (ConsistentFrom 0 outcomes ↔
          ∀ call ∈ ([⟨.init, [1, 2]⟩, ⟨.query 257, List.replicate 30 7⟩,
            ⟨.keepalive, []⟩] : List BuilderCall), call.Short) :=
  ⟨rfl, by decide, runBuilders_consistent_iff .debug rfl (by decide)⟩

theorem longSet_not_consistent (build : Build) {data buf : Bytes}
    (oid : UInt32) (long : 2 ^ 32 ≤ 28 + data.length)
    (fits : 28 + data.length ≤ buf.length) :
    ¬ ∃ outcomes, runBuilders build .default [⟨.set oid data, buf⟩] =
      .ok outcomes ∧ ConsistentFrom 0 outcomes := by
  rintro ⟨outcomes, returned, consistent⟩
  obtain ⟨known, knownEq, -, consistentIff⟩ := @runBuilders_spec build
    [⟨.set oid data, buf⟩] .default 0 rfl (by simp)
  obtain rfl := Except.ok.inj (knownEq.symm.trans returned)
  have short := consistentIff.mp consistent _ List.mem_cons_self fits
  exact absurd short (not_lt.mpr long)

/-- A message of four gigabytes announces the length zero. -/
theorem fourGigabyteSet_not_consistent :
    ¬ ∃ outcomes, runBuilders .release .default
      [⟨.set 257 (List.replicate (2 ^ 32 - 28) 0),
        List.replicate (2 ^ 32) 0⟩] = .ok outcomes ∧
      ConsistentFrom 0 outcomes :=
  longSet_not_consistent .release 257 (by rw [List.length_replicate]; omega)
    (by rw [List.length_replicate, List.length_replicate]; omega)

end AndroidTether
