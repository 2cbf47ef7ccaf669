import AndroidTether.RndisAnswers
import AndroidTether.RndisOutcome
import AndroidTether.TransferSize

/-!
# The handshake with a device that follows the protocol

A device is a machine that turns control messages into completions: it checks
what kind of message it got, looks up or stores the object that is named, and
keeps its completions until they are fetched.  Driver and device together end
initialised, and each knows of the other what it should.
-/

namespace AndroidTether

open ByteWords Checked RndisDriver

/-- What distinguishes a device from others: how it completes INIT, the
objects it has information on, and the settings it accepts. -/
structure RndisDevice where
  announced : InitCmplt
  announced_short : announced.bytes.length ≤ rndisBufSize
  objects : Nat → Option Bytes
  objects_short : ∀ oid info, objects oid = some info →
    24 + info.length ≤ rndisBufSize
  accepts : Nat → Bytes → Bool

structure DeviceState where
  initialised : Bool
  settings : Nat → Option Bytes
  pending : List Bytes

/-- A device after it was plugged in. -/
def DeviceState.idle : DeviceState where
  initialised := false
  settings _ := none
  pending := []

def DeviceState.push (state : DeviceState) (completion : Bytes) :
    DeviceState :=
  { state with pending := state.pending ++ [completion] }

/-- The oldest completion is fetched. -/
def DeviceState.fetch (state : DeviceState) : DeviceState × Bytes :=
  ({ state with pending := state.pending.tail }, state.pending.headD [])

theorem DeviceState.fetch_push {state : DeviceState}
    (quiet : state.pending = []) (completion : Bytes) :
    (state.push completion).fetch = (state, completion) := by
  obtain ⟨initialised, settings, pending⟩ := state
  cases quiet
  rfl

/-- RNDIS_STATUS_NOT_SUPPORTED and RNDIS_STATUS_INVALID_DATA. -/
def rndisStatusNotSupported : Nat := 0xC00000BB
def rndisStatusInvalidData : Nat := 0xC0010015
def rndisMsgKeepaliveC : Nat := 0x80000008

def completion (msgType requestId status : Nat) (rest : Bytes) : Bytes :=
  wordBytes [msgType, 16 + rest.length, requestId, status] ++ rest

namespace RndisDevice

variable (device : RndisDevice)

def initCmplt (requestId : Nat) : Bytes :=
  { device.announced with requestId := .ofNat requestId }.bytes

def queryCmplt (requestId oid : Nat) : Bytes :=
  match device.objects oid with
  | some info =>
    completion rndisMsgQueryC requestId rndisStatusSuccess
      (wordBytes [info.length, 16] ++ info)
  | none =>
    completion rndisMsgQueryC requestId rndisStatusNotSupported
      (wordBytes [0, 0])

def setCmplt (requestId oid : Nat) (data : Bytes) : Bytes :=
  completion rndisMsgSetC requestId
    (if device.accepts oid data then rndisStatusSuccess
      else rndisStatusInvalidData) []

def store (state : DeviceState) (oid : Nat) (data : Bytes) : DeviceState :=
  if device.accepts oid data then
    { state with settings := Function.update state.settings oid (some data) }
  else state

/-- A control message arrives.  Only INIT is understood before INIT. -/
def receive (state : DeviceState) (message : Bytes) : DeviceState :=
  let msgType := leWordAt message 0 4
  let requestId := leWordAt message 8 4
  let oid := leWordAt message 12 4
  if msgType = rndisMsgInit then
    { state with initialised := true }.push (device.initCmplt requestId)
  else if state.initialised = false then state
  else if msgType = rndisMsgQuery then
    state.push (device.queryCmplt requestId oid)
  else if msgType = rndisMsgSet then
    let data := (message.drop (8 + leWordAt message 20 4)).take
      (leWordAt message 16 4)
    (device.store state oid data).push (device.setCmplt requestId oid data)
  else if msgType = rndisMsgKeepalive then
    state.push (completion rndisMsgKeepaliveC requestId rndisStatusSuccess [])
  else state

def serve (state : DeviceState) (message : Bytes) : DeviceState × Bytes :=
  (device.receive state message).fetch

/-- The device and its replies after messages in a row. -/
def session : DeviceState → List Bytes → DeviceState × List Bytes
  | state, [] => (state, [])
  | state, message :: messages =>
    let (served, reply) := device.serve state message
    let (after, replies) := session served messages
    (after, reply :: replies)

/-- What a device with nothing pending replies to the request of a round. -/
def reply (requestId : UInt32) : Round → Bytes
  | .init => device.initCmplt requestId.toNat
  | .query oid => device.queryCmplt requestId.toNat (oid % 2 ^ 32)
  | .set oid data => device.setCmplt requestId.toNat (oid % 2 ^ 32) data

/-- What the request of a round changes in the device. -/
def settled (state : DeviceState) : Round → DeviceState
  | .init => { state with initialised := true }
  | .query _ => state
  | .set oid data => device.store state (oid % 2 ^ 32) data

end RndisDevice

/-- The first six of the given bytes, filled up with zeros. -/
def addressOf (info : Bytes) : MacAddr :=
  ⟨(info ++ MacAddr.zero.bytes).take 6, by simp [MacAddr.length_eq]⟩

section Words

variable {msgType requestId status : Nat} {rest : Bytes}

theorem completion_length :
    (completion msgType requestId status rest).length = 16 + rest.length := by
  simp [completion]

theorem completion_words :
    leWordAt (completion msgType requestId status rest) 0 4 =
        msgType % 2 ^ 32 ∧
      leWordAt (completion msgType requestId status rest) 8 4 =
        requestId % 2 ^ 32 ∧
      leWordAt (completion msgType requestId status rest) 12 4 =
        status % 2 ^ 32 :=
  let words := [msgType, 16 + rest.length, requestId, status]
  have word (place : Nat) (inside : place < words.length) :=
    leWordAt_wordBytes inside rest
  ⟨word 0 (by simp [words]), word 2 (by simp [words]),
    word 3 (by simp [words])⟩

theorem completion_information {len offset : Nat} {info : Bytes} :
    leWordAt (completion msgType requestId status
        (wordBytes [len, offset] ++ info)) 16 4 = len % 2 ^ 32 ∧
      leWordAt (completion msgType requestId status
        (wordBytes [len, offset] ++ info)) 20 4 = offset % 2 ^ 32 ∧
      (completion msgType requestId status
        (wordBytes [len, offset] ++ info)).drop 24 = info := by
  have split : completion msgType requestId status
      (wordBytes [len, offset] ++ info) =
        wordBytes [msgType, 16 + (wordBytes [len, offset] ++ info).length,
          requestId, status, len, offset] ++ info := by
    simp [completion, wordBytes]
  rw [split]
  refine ⟨@leWordAt_wordBytes _ 4 (by simp) info,
    @leWordAt_wordBytes _ 5 (by simp) info, List.drop_left' (by simp)⟩

end Words

namespace Round

variable (requestId : UInt32) (round : Round)

theorem message_type :
    leWordAt (round.message requestId) 0 4 =
      match round with
      | init => rndisMsgInit
      | query _ => rndisMsgQuery
      | set _ _ => rndisMsgSet := by
  have first : 0 < (round.words requestId).length := by
    cases round <;> simp [words]
  have word := leWordAt_wordBytes first round.data
  rw [Nat.mul_zero] at word
  rw [message, word]
  cases round <;> rfl

theorem message_oid_query (oid : Nat) :
    leWordAt ((query oid).message requestId) 12 4 = oid % 2 ^ 32 :=
  @leWordAt_wordBytes ((query oid).words requestId) 3 (by simp [words]) []

theorem message_set (oid : Nat) (data : Bytes)
    (representable : data.length < 2 ^ 32) :
    leWordAt ((set oid data).message requestId) 12 4 = oid % 2 ^ 32 ∧
      ((((set oid data).message requestId).drop
        (8 + leWordAt ((set oid data).message requestId) 20 4)).take
          (leWordAt ((set oid data).message requestId) 16 4)) = data := by
  have oidEq := @leWordAt_wordBytes ((set oid data).words requestId) 3
    (by simp [words]) data
  have length := @leWordAt_wordBytes ((set oid data).words requestId) 4
    (by simp [words]) data
  have offset := @leWordAt_wordBytes ((set oid data).words requestId) 5
    (by simp [words]) data
  rw [message]
  simp only [Nat.reduceMul, words, List.getElem_cons_succ,
    List.getElem_cons_zero] at oidEq length offset
  refine ⟨oidEq, ?_⟩
  simp only [Round.data, words, length, offset]
  rw [List.drop_left' (by simp), Nat.mod_mod, Nat.mod_eq_of_lt representable,
    List.take_length]

end Round

namespace RndisDevice

variable {device : RndisDevice} {state : DeviceState} {round : Round}

theorem settled_pending (quiet : state.pending = []) :
    (device.settled state round).pending = [] := by
  cases round with
  | init => exact quiet
  | query oid => exact quiet
  | set oid data =>
      rw [settled, store]
      split <;> exact quiet

theorem settled_initialised
    (ready : round = .init ∨ state.initialised = true) :
    (device.settled state round).initialised = true := by
  cases round with
  | init => rfl
  | query oid => exact ready.resolve_left (by simp)
  | set oid data =>
      rw [settled, store]
      split <;> exact ready.resolve_left (by simp)

theorem serve_message (quiet : state.pending = [])
    (ready : round = .init ∨ state.initialised = true)
    (representable : round.data.length < 2 ^ 32) (requestId : UInt32) :
    device.serve state (round.message requestId) =
      (device.settled state round, device.reply requestId round) := by
  have typeEq := round.message_type requestId
  have idEq := round.requestIdOf_message requestId
  rw [requestIdOf] at idEq
  cases round with
  | init =>
      have received : device.receive state (Round.init.message requestId) =
          { state with initialised := true }.push
            (device.initCmplt requestId.toNat) := by
        rw [receive, idEq]
        exact if_pos typeEq
      rw [serve, received]
      exact DeviceState.fetch_push
        (@settled_pending device state .init quiet) _
  | query oid =>
      have initialised := ready.resolve_left (by simp)
      have received : device.receive state
          ((Round.query oid).message requestId) =
            state.push (device.queryCmplt requestId.toNat (oid % 2 ^ 32)) := by
        rw [receive, idEq, typeEq, Round.message_oid_query]
        simp [initialised, rndisMsgInit, rndisMsgQuery]
      rw [serve, received]
      exact DeviceState.fetch_push quiet _
  | set oid data =>
      have initialised := ready.resolve_left (by simp)
      obtain ⟨oidEq, dataEq⟩ := Round.message_set requestId oid data
        representable
      have received : device.receive state
          ((Round.set oid data).message requestId) =
            (device.store state (oid % 2 ^ 32) data).push
              (device.setCmplt requestId.toNat (oid % 2 ^ 32) data) := by
        rw [receive, idEq, typeEq, oidEq, dataEq]
        simp [initialised, rndisMsgInit, rndisMsgQuery, rndisMsgSet]
      rw [serve, received]
      exact DeviceState.fetch_push
        (@settled_pending device state (.set oid data) quiet) _

/-- The replies to numbered requests. -/
def replies (device : RndisDevice) : UInt32 → List Round → List Bytes
  | _, [] => []
  | last, round :: rounds =>
    device.reply (last + 1) round :: replies device (last + 1) rounds

theorem session_ready {rounds : List Round} {last : UInt32}
    (quiet : state.pending = []) (initialised : state.initialised = true)
    (representable : ∀ round ∈ rounds, round.data.length < 2 ^ 32) :
    device.session state (numberedMessages last rounds) =
      (rounds.foldl device.settled state, device.replies last rounds) := by
  induction rounds generalizing last state with
  | nil => rfl
  | cons round rounds ih =>
      obtain ⟨first, rest⟩ := List.forall_mem_cons.mp representable
      rw [numberedMessages, session,
        serve_message quiet (.inr initialised) first]
      have later := @ih (device.settled state round) (last + 1)
        (settled_pending quiet) (settled_initialised (.inr initialised)) rest
      simp only [later]
      rfl

/-- A device that begins with INIT is ready for what follows. -/
theorem session_init {rounds : List Round} {last : UInt32}
    (quiet : state.pending = [])
    (representable : ∀ round ∈ rounds, round.data.length < 2 ^ 32) :
    device.session state (numberedMessages last (.init :: rounds)) =
      ((Round.init :: rounds).foldl device.settled state,
        device.replies last (.init :: rounds)) := by
  have later := @session_ready device (device.settled state .init) rounds
    (last + 1) quiet rfl representable
  rw [numberedMessages, session,
    serve_message quiet (.inl rfl) (by simp [Round.data])]
  simp only [later]
  rfl

/-- A reply carries the number of its request. -/
theorem requestIdOf_reply (requestId : UInt32) :
    requestIdOf (device.reply requestId round) = requestId.toNat := by
  have bound := requestId.toNat_lt
  cases round with
  | init =>
      have word := InitCmplt.leWordAt_bytes
        { device.announced with requestId := .ofNat requestId.toNat }
        (show 2 < 13 by decide)
      rw [requestIdOf, reply, initCmplt, word]
      simp [InitCmplt.words]
  | query oid =>
      rw [requestIdOf, reply, queryCmplt]
      split <;> rw [completion_words.2.1, Nat.mod_eq_of_lt bound]
  | set oid data =>
      rw [requestIdOf, reply, setCmplt, completion_words.2.1,
        Nat.mod_eq_of_lt bound]

theorem reply_length (requestId : UInt32) :
    (device.reply requestId round).length ≤ rndisBufSize := by
  cases round with
  | init =>
      refine le_of_eq_of_le ?_ device.announced_short
      simp [reply, initCmplt, InitCmplt.bytes, InitCmplt.words]
  | query oid =>
      rw [reply, queryCmplt]
      split
      · have short := device.objects_short _ _ (by assumption)
        simp [completion_length]
        omega
      · simp [completion_length, rndisBufSize]
  | set oid data => simp [reply, setCmplt, completion_length, rndisBufSize]

theorem accepts_init (requestId : UInt32) :
    Round.init.Accepts (device.reply requestId .init) :=
  InitCmplt.isInitCmplt _

theorem accepts_query {oid : Nat} (representable : oid < 2 ^ 32)
    (requestId : UInt32) :
    (Round.query oid).Accepts (device.reply requestId (.query oid)) ↔
      (device.objects oid).isSome := by
  change IsQueryCmplt (device.queryCmplt _ _) ↔ _
  rw [Nat.mod_eq_of_lt representable, queryCmplt]
  cases known : device.objects oid with
  | none =>
      refine iff_of_false (fun completes => ?_) Bool.false_ne_true
      have status := completes.1.2.2
      rw [completion_words.2.2] at status
      exact absurd status (by decide)
  | some info =>
      have short := device.objects_short _ _ known
      refine iff_of_true ⟨⟨?_, ?_, ?_⟩, .inr ?_⟩ rfl
      · simp [completion_length]
        omega
      · exact completion_words.1
      · exact completion_words.2.2
      · rw [informationLength, completion_information.1,
          completion_information.2.1, completion_length]
        have room : info.length < 2 ^ 32 := by
          simp only [rndisBufSize] at short
          omega
        rw [Nat.mod_eq_of_lt room]
        simp
        omega

theorem answeredMac_reply {oid : Nat} {info : Bytes}
    (representable : oid < 2 ^ 32) (known : device.objects oid = some info)
    (requestId : UInt32) :
    answeredMac (device.reply requestId (.query oid)) = addressOf info := by
  have short := device.objects_short _ _ known
  have room : info.length < 2 ^ 32 := by
    simp only [rndisBufSize] at short
    omega
  have informationEq :
      information (device.reply requestId (.query oid)) = info := by
    rw [reply, queryCmplt, Nat.mod_eq_of_lt representable, known, information,
      informationLength]
    simp only [completion_information.1, completion_information.2.1,
      Nat.mod_eq_of_lt room]
    change List.take info.length (List.drop 24 _) = info
    rw [completion_information.2.2, List.take_length]
  exact congrArg addressOf informationEq

/-- What the driver knows after a round with the device. -/
def exchanged (device : RndisDevice) (stage : DriverStage) (round : Round) :
    DriverStage :=
  stage.exchanged round (device.reply (stage.state.requestId + 1) round)

/-- The pipe is the device's: all is sent, and what is read are the device's
replies. -/
def Replies (pipe : ControlPipe) (replies : List Bytes) (call : Nat) : Prop :=
  ∀ place reply, replies[place]? = some reply →
    pipe.controlOut (call + place) = .ok () ∧
      pipe.controlIn (call + place) = .ok reply

theorem replies_cons {pipe : ControlPipe} {first : Bytes}
    {rest : List Bytes} {call : Nat} (replies : Replies pipe (first :: rest) call) :
    (pipe.controlOut call = .ok () ∧ pipe.controlIn call = .ok first) ∧
      Replies pipe rest (call + 1) := by
  refine ⟨replies 0 first rfl, fun place reply replyEq => ?_⟩
  have later := replies (place + 1) reply replyEq
  rwa [← Nat.add_assoc, Nat.add_right_comm] at later

theorem converse_replies {build : Build} {pipe : ControlPipe}
    {rounds : List Round} {stage : DriverStage}
    (inStep : stage.sends = stage.receives)
    (counts : CountsOn build stage.state.requestId rounds.length)
    (replies : Replies pipe (device.replies stage.state.requestId rounds)
      stage.sends) :
    forM rounds (converse build pipe) stage =
      .ok ⟨⟩ (rounds.foldl device.exchanged stage) := by
  induction rounds generalizing stage with
  | nil => rfl
  | cons round rounds ih =>
      obtain ⟨first, rest⟩ := countsOn_succ.mp counts
      obtain ⟨⟨sends, receives⟩, later⟩ := replies_cons replies
      have whole : (device.reply (stage.state.requestId + 1) round).take
          rndisBufSize = device.reply (stage.state.requestId + 1) round :=
        List.take_of_length_le (reply_length _)
      rw [List.forM_cons, EStateM.bind_apply,
        converse_serves inStep first sends receives fun isInit => ?_, whole]
      · exact ih (by simp [inStep]) (by simpa [exchanged] using rest)
          (by simpa [exchanged] using later)
      · rw [whole]
        cases round with
        | init => exact accepts_init _
        | query oid => cases isInit
        | set oid data => cases isInit

/-- Whatever is taken from the device answers the request before it. -/
theorem exchanged_correlated {stage : DriverStage}
    (correlated : ∀ taken ∈ stage.taken, Correlated taken) :
    ∀ taken ∈ (device.exchanged stage round).taken, Correlated taken := by
  rw [exchanged, DriverStage.exchanged]
  split
  · rw [DriverStage.asked_take]
    intro taken member
    rcases List.mem_append.mp member with earlier | last
    · exact correlated taken earlier
    · cases List.mem_singleton.mp last
      refine ⟨_, rfl, ?_⟩
      rw [requestIdOf_reply, Round.requestIdOf_message]
  · exact correlated

theorem foldl_exchanged_correlated {rounds : List Round}
    {stage : DriverStage}
    (correlated : ∀ taken ∈ stage.taken, Correlated taken) :
    ∀ taken ∈ (rounds.foldl device.exchanged stage).taken,
      Correlated taken := by
  induction rounds generalizing stage with
  | nil => exact correlated
  | cons round rounds ih => exact ih (exchanged_correlated correlated)

theorem foldl_exchanged_sent {rounds : List Round} {stage : DriverStage} :
    (rounds.foldl device.exchanged stage).sent =
      stage.sent ++ numberedMessages stage.state.requestId rounds := by
  induction rounds generalizing stage with
  | nil => exact (List.append_nil _).symm
  | cons round rounds ih =>
      rw [List.foldl_cons, ih]
      simp [exchanged, numberedMessages]

/-- The address that the driver learns: the permanent one, or else the
current one. -/
def address (device : RndisDevice) (known : MacAddr) : MacAddr :=
  match (device.objects oid8023PermanentAddress).or
      (device.objects oid8023CurrentAddress) with
  | some info => addressOf info
  | none => known

/-- What `init` leaves in the driver's state.  The transfer size is read from
offset 40, where the device puts its alignment factor. -/
def learned (device : RndisDevice) (state : RndisState) : RndisState where
  requestId := state.requestId + 4
  maxTransferSize := device.announced.packetAlignmentFactor
  medium := device.announced.medium
  macAddr := device.address state.macAddr
  linkUp := true

theorem exchanged_state_init (stage : DriverStage) :
    (device.exchanged stage .init).state =
      { stage.state with
        requestId := stage.state.requestId + 1
        maxTransferSize := device.announced.packetAlignmentFactor
        medium := device.announced.medium } := by
  let requestId := stage.state.requestId + 1
  let message : InitCmplt :=
    { device.announced with requestId := .ofNat requestId.toNat }
  -- the parser and the round store the same
  have parsed := message.parse_eq (stage.asked requestId .init).receive.state
  rw [parseInitCmplt_ok message.isInitCmplt] at parsed
  have stored := (Prod.mk.inj (Except.ok.inj parsed)).2
  rw [exchanged, DriverStage.exchanged, if_pos (accepts_init _)]
  exact stored

theorem exchanged_state_query (stage : DriverStage) {oid : Nat}
    (representable : oid < 2 ^ 32) :
    (device.exchanged stage (.query oid)).state =
      { stage.state with
        requestId := stage.state.requestId + 1
        macAddr := (device.objects oid).elim stage.state.macAddr addressOf } := by
  have accepts := @accepts_query device oid representable
    (stage.state.requestId + 1)
  rw [exchanged, DriverStage.exchanged]
  cases known : device.objects oid with
  | none =>
      rw [known] at accepts
      rw [if_neg fun accepted => Bool.false_ne_true (accepts.mp accepted)]
      rfl
  | some info =>
      rw [known] at accepts
      rw [if_pos (accepts.mpr rfl)]
      exact congrArg (fun macAddr : MacAddr =>
        { stage.state with
          requestId := stage.state.requestId + 1
          macAddr := macAddr }) (answeredMac_reply representable known _)

theorem exchanged_state_set (stage : DriverStage) (oid : Nat) (data : Bytes) :
    (device.exchanged stage (.set oid data)).state =
      { stage.state with requestId := stage.state.requestId + 1 } := by
  rw [exchanged, DriverStage.exchanged]
  split <;> rfl

theorem foldl_exchanged_state (state : RndisState) :
    { (initRounds.foldl device.exchanged (start state)).state with
      linkUp := true } = device.learned state := by
  have current (stage : DriverStage) := @exchanged_state_query device stage
    oid8023CurrentAddress (by decide)
  have permanent (stage : DriverStage) := @exchanged_state_query device stage
    oid8023PermanentAddress (by decide)
  simp only [initRounds, List.foldl_cons, List.foldl_nil,
    exchanged_state_init, exchanged_state_set, current, permanent]
  rw [learned, address]
  have numbered : state.requestId + 1 + 1 + 1 + 1 = state.requestId + 4 := by
    simp only [UInt32.add_assoc]
    rfl
  cases device.objects oid8023PermanentAddress <;>
    cases device.objects oid8023CurrentAddress <;>
      simp only [start, numbered, Option.elim, Option.or]

/-- What `init` leaves in the device. -/
def initialised (device : RndisDevice) : DeviceState :=
  device.store { DeviceState.idle with initialised := true }
    oidGenCurrentPacketFilter (leBytes 4 filter)

theorem foldl_settled_idle :
    initRounds.foldl device.settled .idle = device.initialised := by
  have representable : oidGenCurrentPacketFilter % 2 ^ 32 =
      oidGenCurrentPacketFilter := by decide
  rw [initRounds, initialised]
  simp only [List.foldl_cons, List.foldl_nil, settled, representable]

end RndisDevice

/-- Driver and device end initialised: the messages went over in full, and each
completion that was taken answers the request before it.  The driver has stored
what it reads from the device's announcement (`learned`: the alignment factor
stands as the maximum transfer size, and a short address is filled up with
zeros), and the device has the filter that it was given. -/
structure HandshakeComplete (device : RndisDevice) (state : RndisState)
    (world : DriverWorld) : Prop where
  sent : world.sent = numberedMessages state.requestId initRounds
  correlated : ∀ taken ∈ world.taken, Correlated taken
  driver : world.state = device.learned state
  device : (device.session .idle world.sent).1 = device.initialised

theorem RndisDevice.session_initRounds (device : RndisDevice)
    (last : UInt32) :
    device.session .idle (numberedMessages last initRounds) =
      (device.initialised, device.replies last initRounds) := by
  have session := @session_init device .idle initRounds.tail last rfl
    (by decide)
  rw [← foldl_settled_idle]
  exact session

theorem initRun_replies {build : Build} {device : RndisDevice}
    {pipe : ControlPipe} {state : RndisState}
    (counts : CountsOn build state.requestId 4)
    (replies : RndisDevice.Replies pipe (device.session .idle
      (numberedMessages state.requestId initRounds)).2 0) :
    ∃ world, initRun build pipe state = .ok () world ∧
      world.sent = numberedMessages state.requestId initRounds ∧
      (∀ taken ∈ world.taken, Correlated taken) ∧
      world.state = device.learned state := by
  rw [device.session_initRounds] at replies
  have conversed := @RndisDevice.converse_replies device build pipe initRounds
    (start state) rfl counts replies
  have correlated := @RndisDevice.foldl_exchanged_correlated device
    initRounds (start state) fun _ member => absurd member List.not_mem_nil
  have learned := @RndisDevice.foldl_exchanged_state device state
  have sent := @RndisDevice.foldl_exchanged_sent device initRounds
    (start state)
  have related := initRun_related build pipe state
  rw [initConversation, EStateM.bind_apply, conversed] at related
  generalize initRounds.foldl device.exchanged (start state) = stage
    at correlated learned sent related
  obtain ⟨world, ends, same, -⟩ := related.ends
  refine ⟨world, ends, ?_, ?_, ?_⟩
  · rw [same]
    exact sent
  · rw [same]
    exact correlated
  · rw [same]
    exact learned

/-- `init` completes the handshake with every device that follows the
protocol. -/
theorem initRun_handshake {build : Build} {device : RndisDevice}
    {pipe : ControlPipe} {state : RndisState}
    (counts : CountsOn build state.requestId 4)
    (replies : RndisDevice.Replies pipe (device.session .idle
      (numberedMessages state.requestId initRounds)).2 0) :
    ∃ world, initRun build pipe state = .ok () world ∧
      HandshakeComplete device state world := by
  obtain ⟨world, ends, sent, correlated, driver⟩ :=
    initRun_replies counts replies
  refine ⟨world, ends, sent, correlated, driver, ?_⟩
  rw [sent, device.session_initRounds]

/-- A device with a permanent address. -/
def usualDevice : RndisDevice where
  announced := usualInitCmplt
  announced_short := by decide
  objects oid :=
    if oid = oid8023PermanentAddress then some [2, 0, 0, 0, 0, 9] else none
  objects_short oid info known := by
    split at known
    · cases known
      decide
    · cases known
  accepts oid _ := oid = oidGenCurrentPacketFilter

theorem answering_replies (replies : List Bytes) :
    RndisDevice.Replies (answering replies) replies 0 := by
  intro place reply replyEq
  refine ⟨rfl, ?_⟩
  rw [Nat.zero_add]
  exact congrArg Except.ok ((List.getD_eq_getElem?_getD).trans
    (congrArg (Option.getD · []) replyEq))

theorem usualDevice_handshake :
    ∃ world, initRun .release (answering (usualDevice.session .idle
        (numberedMessages 0 initRounds)).2) .default = .ok () world ∧
      HandshakeComplete usualDevice .default world :=
  initRun_handshake (fun isDebug => by cases isDebug) (answering_replies _)

end AndroidTether
