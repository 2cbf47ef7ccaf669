import AndroidTether.RndisControl
import AndroidTether.StateSimulation

/-!
# Initialisation of the RNDIS driver

`RndisDriver::init` of `proto_rndis.rs` over an arbitrary control endpoint.
The program keeps one buffer for everything it sends and receives; the model
below it is the conversation alone: a run of rounds, each one request and the
reply that is read next.  The program simulates the conversation, so that
facts about replies never mention the buffer.
-/

namespace AndroidTether

open ByteWords Checked

/-- How the control endpoint answers: the outcome of every `control_out` and
of every `control_in`, in the order in which they are made. -/
structure ControlPipe where
  controlOut : Nat → Except TetherError Unit
  controlIn : Nat → Except TetherError Bytes

inductive CompletionKind
  | init
  | query
  | set
  deriving DecidableEq

/-- A completion that its parser accepted, with the message that was sent
last before it was read. -/
structure TakenCompletion where
  kind : CompletionKind
  completion : Bytes
  request : Option Bytes
  deriving DecidableEq

/-- The driver in the middle of `init`: its state, the control transfers made
so far, and as a record of the run the messages sent and the completions
taken. -/
structure DriverStage where
  state : RndisState
  sends : Nat
  receives : Nat
  sent : List Bytes
  taken : List TakenCompletion

/-- The same with the buffer of `init`. -/
structure DriverWorld extends DriverStage where
  buf : Bytes

/-- Why `init` ends early. -/
inductive DriverStop
  | panicked (panic : Panic)
  | returned (err : TetherError)
  deriving DecidableEq

abbrev DriverIo := EStateM DriverStop DriverWorld
abbrev Conversation := EStateM DriverStop DriverStage

namespace DriverStage

def store (stage : DriverStage) (state : RndisState) : DriverStage :=
  { stage with state := state }

def send (stage : DriverStage) (message : Bytes) : DriverStage :=
  { stage with
    sends := stage.sends + 1
    sent := stage.sent ++ [message] }

def receive (stage : DriverStage) : DriverStage :=
  { stage with receives := stage.receives + 1 }

def take (stage : DriverStage) (kind : CompletionKind) (completion : Bytes) :
    DriverStage :=
  { stage with
    taken := stage.taken ++ [⟨kind, completion, stage.sent.getLast?⟩] }

section Fields

variable (stage : DriverStage) (state : RndisState) (kind : CompletionKind)
  (completion : Bytes)

@[simp]
theorem store_state : (stage.store state).state = state :=
  rfl

@[simp]
theorem store_sends : (stage.store state).sends = stage.sends :=
  rfl

@[simp]
theorem store_receives : (stage.store state).receives = stage.receives :=
  rfl

@[simp]
theorem store_taken : (stage.store state).taken = stage.taken :=
  rfl

@[simp]
theorem receive_state : stage.receive.state = stage.state :=
  rfl

@[simp]
theorem receive_sends : stage.receive.sends = stage.sends :=
  rfl

@[simp]
theorem receive_receives : stage.receive.receives = stage.receives + 1 :=
  rfl

@[simp]
theorem receive_taken : stage.receive.taken = stage.taken :=
  rfl

@[simp]
theorem take_state : (stage.take kind completion).state = stage.state :=
  rfl

@[simp]
theorem take_sends : (stage.take kind completion).sends = stage.sends :=
  rfl

@[simp]
theorem take_receives :
    (stage.take kind completion).receives = stage.receives :=
  rfl

end Fields

end DriverStage

namespace RndisDriver

/-- A call of a message builder on the buffer and the driver's state. -/
def request
    (builder : Bytes → RndisState →
      Checked (Except TetherError Nat × Bytes × RndisState)) :
    DriverIo Nat := fun world =>
  match builder world.buf world.state with
  | .error panic => .error (.panicked panic) world
  | .ok (.error err, buf, state) =>
      .error (.returned err) ⟨world.store state, buf⟩
  | .ok (.ok len, buf, state) => .ok len ⟨world.store state, buf⟩

/-- `usb.send_ctrl(&buf[..len])?`. -/
def sendCtrl (pipe : ControlPipe) (len : Nat) : DriverIo Unit := fun world =>
  match range world.buf 0 len with
  | .error panic => .error (.panicked panic) world
  | .ok data =>
      match pipe.controlOut world.sends with
      | .error err => .error (.returned err) ⟨world.send data, world.buf⟩
      | .ok () => .ok () ⟨world.send data, world.buf⟩

/-- `usb.recv_ctrl(&mut buf)?`. -/
def recvCtrl (pipe : ControlPipe) : DriverIo Nat := fun world =>
  match pipe.controlIn world.receives with
  | .error err => .error (.returned err) ⟨world.receive, world.buf⟩
  | .ok response =>
      let n := min response.length world.buf.length
      match (do copyInto world.buf 0 (← range response 0 n)) with
      | .error panic => .error (.panicked panic) ⟨world.receive, world.buf⟩
      | .ok buf => .ok n ⟨world.receive, buf⟩

/-- `&buf[..n]`. -/
def received (n : Nat) : DriverIo Bytes := fun world =>
  match range world.buf 0 n with
  | .error panic => .error (.panicked panic) world
  | .ok reply => .ok reply world

/-- A step that does not touch the buffer. -/
def onStage {α : Type} (step : Conversation α) : DriverIo α := fun world =>
  match step world.toDriverStage with
  | .error stop stage => .error stop ⟨stage, world.buf⟩
  | .ok value stage => .ok value ⟨stage, world.buf⟩

/-- `rndis::parse_init_cmplt(&buf[..n], &mut self.state)?`. -/
def settleInit (reply : Bytes) : Conversation Unit := fun stage =>
  match parseInitCmplt reply stage.state with
  | .error panic => .error (.panicked panic) stage
  | .ok (.error err, state) => .error (.returned err) (stage.store state)
  | .ok (.ok (), state) => .ok () ((stage.store state).take .init reply)

/-- An array of six bytes that was filled as a slice. -/
def macOfSlice (mac : Bytes) : Checked MacAddr :=
  if lengthEq : mac.length = 6 then .ok ⟨mac, lengthEq⟩
  else .error .lengthMismatch

/-- The completion of a query is parsed into an array of zeros, which is
stored whenever the parser returns `Ok`. -/
def settleQuery (reply : Bytes) : Conversation Unit := fun stage =>
  match parseQueryCmplt reply MacAddr.zero.bytes with
  | .error panic => .error (.panicked panic) stage
  | .ok (.error _, _) => .ok () stage
  | .ok (.ok _, mac) =>
      match macOfSlice mac with
      | .error panic => .error (.panicked panic) stage
      | .ok mac =>
          .ok ()
            ((stage.store { stage.state with macAddr := mac }).take .query
              reply)

/-- The outcome of the SET is only written to the log. -/
def settleSet (reply : Bytes) : Conversation Unit := fun stage =>
  match parseSetCmplt reply with
  | .error panic => .error (.panicked panic) stage
  | .ok (.error _) => .ok () stage
  | .ok (.ok ()) => .ok () (stage.take .set reply)

def finish : Conversation Unit := fun stage =>
  .ok () (stage.store { stage.state with linkUp := true })

/-- The packet filter that `init` sets. -/
def filter : Nat :=
  rndisPacketTypeDirected ||| rndisPacketTypeMulticast |||
    rndisPacketTypeAllMulticast ||| rndisPacketTypeBroadcast

/-- `RndisDriver::init`. -/
def init (build : Build) (pipe : ControlPipe) : DriverIo Unit := do
  let len ← request (buildInit build)
  sendCtrl pipe len
  let n ← recvCtrl pipe
  let reply ← received n
  onStage (settleInit reply)
  forM [oid8023CurrentAddress, oid8023PermanentAddress] fun oid => do
    let len ← request fun buf state => buildQuery build buf oid state
    sendCtrl pipe len
    let n ← recvCtrl pipe
    let reply ← received n
    onStage (settleQuery reply)
  let len ← request fun buf state =>
    buildSet build buf oidGenCurrentPacketFilter (leBytes 4 filter) state
  sendCtrl pipe len
  let n ← recvCtrl pipe
  let reply ← received n
  onStage (settleSet reply)
  onStage finish

/-- The driver before the first transfer. -/
def start (state : RndisState) : DriverStage where
  state := state
  sends := 0
  receives := 0
  sent := []
  taken := []

/-- A run of `init` on a driver state, with the buffer that `init` makes. -/
def initRun (build : Build) (pipe : ControlPipe) (state : RndisState) :
    EStateM.Result DriverStop DriverWorld Unit :=
  init build pipe ⟨start state, List.replicate rndisBufSize 0⟩

end RndisDriver

/-- The number that ties a completion to its request. -/
def requestIdOf (message : Bytes) : Nat :=
  leWordAt message 8 4

/-- A request that `init` makes. -/
inductive Round
  | init
  | query (oid : Nat)
  | set (oid : Nat) (data : Bytes)
  deriving DecidableEq

namespace Round

def kind : Round → CompletionKind
  | init => .init
  | query _ => .query
  | set _ _ => .set

/-- The header words of the request with the given number. -/
def words (requestId : UInt32) : Round → List Nat
  | init =>
      [rndisMsgInit, 24, requestId.toNat, rndisMajorVersion,
        rndisMinorVersion, rndisMaxTransferSize]
  | query oid => [rndisMsgQuery, 28, requestId.toNat, oid, 0, 20, 0]
  | set oid data =>
      [rndisMsgSet, (28 + data.length) % 2 ^ 32, requestId.toNat, oid,
        data.length % 2 ^ 32, 20, 0]

def data : Round → Bytes
  | set _ data => data
  | _ => []

/-- The request as it is sent. -/
def message (requestId : UInt32) (round : Round) : Bytes :=
  wordBytes (round.words requestId) ++ round.data

def builder (build : Build) (buf : Bytes) (state : RndisState) :
    Round → Checked (Except TetherError Nat × Bytes × RndisState)
  | init => buildInit build buf state
  | query oid => buildQuery build buf oid state
  | set oid data => buildSet build buf oid data state

def settle (reply : Bytes) : Round → Conversation Unit
  | init => RndisDriver.settleInit reply
  | query _ => RndisDriver.settleQuery reply
  | set _ _ => RndisDriver.settleSet reply

theorem requestIdOf_message (requestId : UInt32) (round : Round) :
    requestIdOf (round.message requestId) = requestId.toNat := by
  have bound := requestId.toNat_lt
  have third : 2 < (round.words requestId).length := by
    cases round <;> simp [words]
  have word := leWordAt_wordBytes third round.data
  rw [requestIdOf, message, word]
  cases round <;> exact Nat.mod_eq_of_lt bound

theorem message_length (requestId : UInt32) (round : Round) :
    (round.message requestId).length =
      4 * (round.words requestId).length + round.data.length := by
  rw [message, List.length_append, wordBytes_length]

theorem message_length_le (requestId : UInt32) (round : Round) :
    (round.message requestId).length ≤ 28 + round.data.length := by
  rw [message_length]
  cases round <;> simp [words]

/-- Every builder puts its message in front of the buffer, unless the request
counter overflows. -/
theorem builder_eq {build : Build} {buf : Bytes} {state : RndisState}
    {round : Round} (fits : 28 + round.data.length ≤ buf.length) :
    round.builder build buf state = (do
      let requestId ← build.addU32 state.requestId.toNat 1
      return (.ok (round.message (.ofNat requestId)).length,
        round.message (.ofNat requestId) ++
          buf.drop (round.message (.ofNat requestId)).length,
        { state with requestId := .ofNat requestId })) := by
  simp only [message_length]
  cases round with
  | init =>
      exact @buildMessage_eq _ _ _ _ _ _ (fun requestId => words requestId init)
        (fun _ => rfl) (fun _ => rfl) (by simp [data] at fits ⊢; omega)
  | query oid =>
      exact @buildMessage_eq _ _ _ _ _ _
        (fun requestId => words requestId (query oid))
        (fun _ => rfl) (fun _ => rfl) (by simpa [data] using fits)
  | set oid data =>
      exact @buildMessage_eq _ _ _ _ _ _
        (fun requestId => words requestId (set oid data))
        (fun _ => rfl) (fun _ => rfl) fits

end Round

/-- The stage after the request of a round has been sent. -/
def DriverStage.asked (stage : DriverStage) (requestId : UInt32)
    (round : Round) : DriverStage :=
  (stage.store { stage.state with requestId := requestId }).send
    (round.message requestId)

namespace DriverStage

variable (stage : DriverStage) (requestId : UInt32) (round : Round)

@[simp]
theorem asked_state : (stage.asked requestId round).state =
    { stage.state with requestId := requestId } :=
  rfl

@[simp]
theorem asked_sends : (stage.asked requestId round).sends = stage.sends + 1 :=
  rfl

@[simp]
theorem asked_receives :
    (stage.asked requestId round).receives = stage.receives :=
  rfl

@[simp]
theorem asked_taken : (stage.asked requestId round).taken = stage.taken :=
  rfl

/-- A completion that is taken next stands beside the request. -/
@[simp]
theorem asked_take (state : RndisState) (kind : CompletionKind)
    (completion : Bytes) :
    (((stage.asked requestId round).receive.store state).take kind
        completion).taken =
      stage.taken ++ [⟨kind, completion, some (round.message requestId)⟩] := by
  simp [asked, take, receive, send, store]

end DriverStage

namespace RndisDriver

/-- One request of the conversation and the reply that is read next. -/
def ask (build : Build) (pipe : ControlPipe) (round : Round) :
    Conversation Bytes := fun stage =>
  match build.addU32 stage.state.requestId.toNat 1 with
  | .error panic => .error (.panicked panic) stage
  | .ok requestId =>
      let asked := stage.asked (.ofNat requestId) round
      match pipe.controlOut stage.sends with
      | .error err => .error (.returned err) asked
      | .ok () =>
          match pipe.controlIn stage.receives with
          | .error err => .error (.returned err) asked.receive
          | .ok response => .ok (response.take rndisBufSize) asked.receive

/-- One request, its reply and what is made of it. -/
def converse (build : Build) (pipe : ControlPipe) (round : Round) :
    Conversation Unit := do
  let reply ← ask build pipe round
  round.settle reply

/-- The rounds of `init`. -/
def initRounds : List Round :=
  [.init, .query oid8023CurrentAddress, .query oid8023PermanentAddress,
    .set oidGenCurrentPacketFilter (leBytes 4 filter)]

def initConversation (build : Build) (pipe : ControlPipe) :
    Conversation Unit := do
  forM initRounds (converse build pipe)
  finish

/-- The program and the conversation agree on everything but the buffer. -/
def SameStage (world : DriverWorld) (stage : DriverStage) : Prop :=
  world.toDriverStage = stage ∧ world.buf.length = rndisBufSize

/-- The four lines with which every round of `init` begins. -/
def exchange (build : Build) (pipe : ControlPipe) (round : Round) :
    DriverIo Bytes := do
  let len ← request fun buf state => round.builder build buf state
  sendCtrl pipe len
  let n ← recvCtrl pipe
  received n

theorem init_eq (build : Build) (pipe : ControlPipe) :
    init build pipe = (do
      forM initRounds fun round => do
        let reply ← exchange build pipe round
        onStage (round.settle reply)
      onStage finish) := by
  simp only [init, initRounds, exchange, List.forM_cons, List.forM_nil,
    bind_assoc, pure_bind]
  rfl

theorem onStage_simulates {α : Type} (step : Conversation α) :
    EStateM.Simulates SameStage (onStage step) step := by
  rintro world stage ⟨rfl, lengthEq⟩
  rw [onStage]
  cases step world.toDriverStage with
  | ok value after => exact .ok value ⟨rfl, lengthEq⟩
  | error stop after => exact .error stop ⟨rfl, lengthEq⟩

theorem received_after_copy {buf : Bytes} {room : Nat}
    (bufLength : buf.length = room) (response : Bytes) :
    ∃ after, (do
        copyInto buf 0 (← range response 0 (min response.length room))) =
          .ok after ∧
      range after 0 (min response.length room) = .ok (response.take room) ∧
      after.length = room := by
  have cut : (response.take (min response.length room)).length =
      min response.length room := by
    simp
  refine ⟨patch buf 0 (response.take (min response.length room)), ?_, ?_, ?_⟩
  · rw [range_eq_ok (Nat.zero_le _) (by omega), ok_bind, List.drop_zero,
      Nat.sub_zero, copyInto_eq_ok (by omega)]
  · rw [range_eq_ok (Nat.zero_le _) (by rw [patch_length] <;> omega),
      List.drop_zero, Nat.sub_zero, patch, List.take_zero, List.nil_append,
      List.take_left' cut, Except.ok.injEq, List.take_eq_take_iff]
    omega
  · rw [patch_length (by omega), bufLength]

/-- One exchange over the buffer is one question of the conversation. -/
theorem exchange_simulates {build : Build} {pipe : ControlPipe} {round : Round}
    (fits : 28 + round.data.length ≤ rndisBufSize) :
    EStateM.Simulates SameStage (exchange build pipe round)
      (ask build pipe round) := by
  rintro world stage ⟨rfl, lengthEq⟩
  rw [exchange, EStateM.bind_apply, request, Round.builder_eq (by omega), ask]
  cases counted : build.addU32 world.state.requestId.toNat 1 with
  | error panic => exact .error _ ⟨rfl, lengthEq⟩
  | ok requestId =>
      have bounded := round.message_length_le (.ofNat requestId)
      have asked : range (round.message (.ofNat requestId) ++
          world.buf.drop (round.message (.ofNat requestId)).length) 0
            (round.message (.ofNat requestId)).length =
          .ok (round.message (.ofNat requestId)) := by
        rw [range_eq_ok (Nat.zero_le _) (by simp), List.drop_zero,
          Nat.sub_zero, List.take_left]
      have bufLength : (round.message (.ofNat requestId) ++
          world.buf.drop (round.message (.ofNat requestId)).length).length =
          rndisBufSize := by
        simp
        omega
      simp only [ok_bind, pure_eq_ok]
      generalize round.message (.ofNat requestId) ++
        world.buf.drop (round.message (.ofNat requestId)).length = buf
        at asked bufLength ⊢
      simp only [EStateM.bind_apply, sendCtrl, asked,
        DriverStage.asked, DriverStage.store]
      cases pipe.controlOut world.sends with
      | error err => exact .error _ ⟨rfl, bufLength⟩
      | ok sent =>
          simp only [recvCtrl, DriverStage.send]
          cases pipe.controlIn world.receives with
          | error err => exact .error _ ⟨rfl, bufLength⟩
          | ok response =>
              obtain ⟨after, copied, cut, afterLength⟩ :=
                received_after_copy bufLength response
              simp only [bufLength, copied, received, cut]
              exact .ok _ ⟨rfl, afterLength⟩

/-- `init` is its conversation. -/
theorem init_simulates (build : Build) (pipe : ControlPipe) :
    EStateM.Simulates SameStage (init build pipe)
      (initConversation build pipe) := by
  have fits : ∀ round ∈ initRounds, 28 + round.data.length ≤ rndisBufSize := by
    simp [initRounds, Round.data, rndisBufSize]
  rw [init_eq, initConversation]
  refine .bind (.forM fun round member => ?_) fun _ => onStage_simulates finish
  exact .bind (exchange_simulates (fits round member)) fun reply =>
    onStage_simulates (round.settle reply)

theorem initRun_related (build : Build) (pipe : ControlPipe)
    (state : RndisState) :
    EStateM.Related SameStage (initRun build pipe state)
      (initConversation build pipe (start state)) :=
  init_simulates build pipe ⟨rfl, List.length_replicate⟩

end RndisDriver

end AndroidTether
