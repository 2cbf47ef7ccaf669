import AndroidTether.TxSequence
import AndroidTether.UsbIo

/-!
# The threads of a session

The four threads of `run_session` as one transition system.  The I/O thread
and the TX loop take the steps of their own machines and meet in the bounded
TX channel; the resolver thread serves the DNS channel; the main thread runs
its loop, stops the session and joins the others in turn.
-/

namespace AndroidTether

/-- Position of the resolver thread. -/
inductive DnsPc
  | loopTest
  | receiving
  /-- `try_recv` up to the end of the batch. -/
  | collecting
  /-- Workers resolve the batch and are joined. -/
  | resolving
  | finished
  deriving DecidableEq

/-- Position of the main thread in `run_session`. -/
inductive MainPc
  | loopTest
  | iteration
  | polling
  | leaving
  | joinIo
  | joinTx (ioPanicked : Bool)
  | joinDns (ioPanicked : Bool)
  | returned (wasDisconnected : Bool)
  deriving DecidableEq

inductive SessionThread
  | main
  | io
  | tx
  | dns
  deriving DecidableEq

/-- `running_bridge` and the gateway's hardware address are shared; the
machines of both threads carry a copy. -/
structure Session where
  usb : UsbState
  tx : TxState
  dns : DnsPc
  main : MainPc
  /-- `running`, which only the Ctrl-C handler clears. -/
  running : Bool

namespace Session

/-- The threads have been started; with the system's DNS there is no resolver
thread. -/
def initial (dnsMode : DnsMode) : Session where
  usb := .initial
  tx := .initial
  dns := if dnsMode = .system then .finished else .loopTest
  main := .loopTest
  running := true

/-- What the TX loop can see of the I/O thread. -/
def withUsb (s : Session) (usb : UsbState) : Session :=
  { s with
    usb := usb
    tx := { s.tx with
      running := usb.running
      gatewayMac := usb.io.gatewayMac } }

/-- The main thread stores `running_bridge`. -/
def stopBridge (s : Session) (main : MainPc) : Session :=
  { s with
    usb := { s.usb with running := false }
    tx := { s.tx with running := false }
    main := main }

/-- The same session with other channel contents. -/
def holding (s : Session) (queue : List Bytes)
    (dnsQueue : List (Bytes × Bytes)) : Session :=
  { s with
    usb := { s.usb with queue := queue }
    tx := { s.tx with dnsQueue := dnsQueue } }

/-- The thread's function has returned or panicked, or it was never started. -/
def Finished (s : Session) : SessionThread → Prop
  | .main => ∃ wasDisconnected, s.main = .returned wasDisconnected
  | .io => ¬ s.usb.pc.Serving
  | .tx => s.tx.pc = .finished
  | .dns => s.dns = .finished

end Session

/-- One step of a thread, or of the signal handler. -/
inductive SessionStep (rx : RxConfig) (config : TxConfig) :
    Session → Option SessionThread → Session → Prop
  | io {s : Session} {event : UsbEvent} {usb : UsbState}
      (step : UsbStep rx s.usb event usb)
      -- the steps of the other threads leave the I/O thread where it is
      (own : usb.pc ≠ s.usb.pc ∨ ∃ message, event = .submitted message) :
      SessionStep rx config s (some .io) (s.withUsb usb)
  | txPollTimeout {s : Session} (at_ : s.tx.pc = .polling)
      (on : s.tx.running) :
      SessionStep rx config s (some .tx) s
  | tx {s : Session} {event : TxEvent} {tx : TxState}
      (step : TxStep config s.tx event tx) (own : tx.pc ≠ s.tx.pc)
      (idle : ∀ count packet message,
        s.tx.pc ≠ .sending count packet message) :
      SessionStep rx config s (some .tx) { s with tx := tx }
  | txSend {s : Session} {count : Nat} {packet message : Bytes}
      {usb : UsbState} (at_ : s.tx.pc = .sending count packet message)
      -- `send` waits for room
      (accepted : UsbStep rx s.usb (.accepted message) usb) :
      SessionStep rx config s (some .tx)
        { s with usb := usb, tx := { s.tx with pc := .batch (count + 1) } }
  | txSendFails {s : Session} {count : Nat} {packet message : Bytes}
      (at_ : s.tx.pc = .sending count packet message)
      (dropped : ¬ s.usb.pc.Serving) :
      SessionStep rx config s (some .tx)
        { s with tx := { s.tx with pc := .polling } }
  | dnsLoop {s : Session} (at_ : s.dns = .loopTest) (on : s.tx.running) :
      SessionStep rx config s (some .dns) { s with dns := .receiving }
  | dnsEnds {s : Session} (at_ : s.dns = .loopTest)
      (off : s.tx.running = false) :
      SessionStep rx config s (some .dns)
        { s with dns := .finished, tx := { s.tx with dnsOpen := false } }
  | dnsTimeout {s : Session} (at_ : s.dns = .receiving)
      -- the main thread keeps a sender, so the channel is not disconnected
      (empty : s.tx.dnsQueue = []) :
      SessionStep rx config s (some .dns) { s with dns := .loopTest }
  | dnsTakes {s : Session} {item : Bytes × Bytes}
      {rest : List (Bytes × Bytes)}
      (at_ : s.dns = .receiving ∨ s.dns = .collecting)
      (queue : s.tx.dnsQueue = item :: rest) :
      SessionStep rx config s (some .dns)
        { s with
          dns := .collecting
          tx := { s.tx with
            dnsQueue := rest
            resolving := item :: s.tx.resolving } }
  | dnsCollected {s : Session} (at_ : s.dns = .collecting)
      (empty : s.tx.dnsQueue = []) :
      SessionStep rx config s (some .dns) { s with dns := .resolving }
  | dnsAnswers {s : Session} {item : Bytes × Bytes}
      (at_ : s.dns = .resolving) (taken : item ∈ s.tx.resolving) :
      SessionStep rx config s (some .dns)
        { s with
          tx := { s.tx with
            warm := true
            resolving := s.tx.resolving.erase item } }
  | dnsFails {s : Session} {item : Bytes × Bytes} (at_ : s.dns = .resolving)
      (taken : item ∈ s.tx.resolving) :
      SessionStep rx config s (some .dns)
        { s with
          tx := { s.tx with resolving := s.tx.resolving.erase item } }
  | dnsJoined {s : Session} (at_ : s.dns = .resolving)
      (settled : s.tx.resolving = []) :
      SessionStep rx config s (some .dns) { s with dns := .loopTest }
  | mainLoop {s : Session} (at_ : s.main = .loopTest) (running : s.running)
      (on : s.tx.running) :
      SessionStep rx config s (some .main) { s with main := .iteration }
  | mainEnds {s : Session} (at_ : s.main = .loopTest)
      (off : s.running = false ∨ s.tx.running = false) :
      SessionStep rx config s (some .main) { s with main := .leaving }
  | keepalive {s : Session} {message : Bytes} {usb : UsbState}
      (at_ : s.main = .iteration)
      (accepted : UsbStep rx s.usb (.accepted message) usb) :
      SessionStep rx config s (some .main)
        { s with usb := usb, main := .polling }
  | noKeepalive {s : Session} (at_ : s.main = .iteration) :
      -- none is due, or `try_send` fails
      SessionStep rx config s (some .main) { s with main := .polling }
  | ipcStops {s : Session} (at_ : s.main = .polling) :
      SessionStep rx config s (some .main) (s.stopBridge .leaving)
  | mainSlept {s : Session} (at_ : s.main = .polling) :
      SessionStep rx config s (some .main) { s with main := .loopTest }
  | mainStores {s : Session} (at_ : s.main = .leaving) :
      SessionStep rx config s (some .main) (s.stopBridge .joinIo)
  | joinsIo {s : Session} (at_ : s.main = .joinIo)
      (ended : ¬ s.usb.pc.Serving) :
      SessionStep rx config s (some .main)
        { s with main := .joinTx (s.usb.pc = .panicked) }
  | joinsTx {s : Session} {ioPanicked : Bool}
      (at_ : s.main = .joinTx ioPanicked) (ended : s.tx.pc = .finished) :
      SessionStep rx config s (some .main)
        { s with main := .joinDns ioPanicked }
  | joinsDns {s : Session} {ioPanicked : Bool}
      (at_ : s.main = .joinDns ioPanicked) (ended : s.dns = .finished) :
      SessionStep rx config s (some .main)
        { s with main := .returned (ioPanicked || s.usb.deviceGone) }
  | interrupt {s : Session} :
      SessionStep rx config s none { s with running := false }

/-- The batch loop of the TX thread is bounded. -/
def TxPc.InBatch : TxPc → Prop
  | .batch count => count ≤ 64
  | .received count _ | .intercepting count _ | .testingWarm count _
  | .forwarding count _ | .sending count _ _ => count < 64
  | .polling | .readable | .finished => True

theorem TxPc.InBatch.step {config : TxConfig} {s next : TxState}
    {event : TxEvent} (inBatch : s.pc.InBatch)
    (taken : TxStep config s event next) : next.pc.InBatch := by
  cases taken with
  | pollTimeout | resolverTakes | resolverAnswers | resolverFails
  | resolverStops | learnGateway | stop => exact inBatch
  | pollReadable | pollStopped | readableStopped | readNothing | batchDone
  | receivedStopped | interceptPanics | forwardPanics | sendFails =>
      trivial
  | readableGo => exact Nat.zero_le 64
  | readPacket packet atPc more => exact more
  | receivedGo atPc =>
      rw [atPc] at inBatch
      dsimp only
      split <;> exact inBatch
  | intercept atPc | pass atPc | coldForwards atPc | forward atPc =>
      rw [atPc] at inBatch
      exact inBatch
  | warmSkips atPc | reject atPc | send atPc =>
      rw [atPc] at inBatch
      exact inBatch

theorem TxPc.InBatch.of_run {config : TxConfig} {start final : TxState}
    {trace : List TxEvent} (inBatch : start.pc.InBatch)
    (run : Run (TxStep config) start trace final) : final.pc.InBatch :=
  run.invariant inBatch TxPc.InBatch.step

section Machines

variable {rx : RxConfig} {config : TxConfig} {s next : Session}
  {thread : Option SessionThread}

/-- The two copies of `running_bridge` agree. -/
def Session.Agrees (s : Session) : Prop :=
  s.tx.running = s.usb.running

theorem UsbStep.running {usb after : UsbState} {event : UsbEvent}
    (taken : UsbStep rx usb event after) :
    after.running = usb.running ∨ after.running = false := by
  cases taken <;> first | exact .inl rfl | exact .inr rfl

theorem TxStep.running {tx after : TxState} {event : TxEvent}
    (taken : TxStep config tx event after) :
    after.running = tx.running ∨
      after.running = false ∧ after.pc = tx.pc := by
  cases taken <;> first | exact .inl rfl | exact .inr ⟨rfl, rfl⟩

/-- What the I/O thread changes for the TX loop, the threads around the loop
can change in its own machine. -/
theorem run_withUsb (tx : TxState) (gatewayMac : MacAddr) {running : Bool}
    (flag : running = tx.running ∨ running = false) :
    ∃ trace, Run (TxStep config) tx trace
      { tx with running := running, gatewayMac := gatewayMac } := by
  have learned : Run (TxStep config) tx [.tau]
      { tx with gatewayMac := gatewayMac } := .single (.learnGateway gatewayMac)
  rcases flag with rfl | rfl
  · exact ⟨_, learned⟩
  · exact ⟨_, learned.snoc .stop⟩

/-- A session step is a run, mostly of one step or none, of each machine. -/
theorem SessionStep.machines (agrees : s.Agrees)
    (taken : SessionStep rx config s thread next) :
    (∃ trace, Run (UsbStep rx) s.usb trace next.usb) ∧
      (∃ trace, Run (TxStep config) s.tx trace next.tx) ∧ next.Agrees := by
  cases taken with
  | @io event usb step own =>
      have flag := step.running
      rw [← agrees] at flag
      exact ⟨⟨_, .single step⟩, run_withUsb s.tx usb.io.gatewayMac flag, rfl⟩
  | txPollTimeout => exact ⟨⟨_, .nil⟩, ⟨_, .nil⟩, agrees⟩
  | @tx event tx step own =>
      refine ⟨⟨_, .nil⟩, ⟨_, .single step⟩, ?_⟩
      rcases step.running with same | ⟨-, samePc⟩
      · exact same.trans agrees
      · exact absurd samePc own
  | txSend atPc accepted =>
      refine ⟨⟨_, .single accepted⟩, ⟨_, .single (.send atPc)⟩, ?_⟩
      cases accepted
      exact agrees
  | txSendFails atPc =>
      exact ⟨⟨_, .nil⟩, ⟨_, .single (.sendFails atPc)⟩, agrees⟩
  | dnsEnds => exact ⟨⟨_, .nil⟩, ⟨_, .single .resolverStops⟩, agrees⟩
  | dnsTakes atPc queue =>
      exact ⟨⟨_, .nil⟩, ⟨_, .single (.resolverTakes queue)⟩, agrees⟩
  | dnsAnswers atPc taken =>
      exact ⟨⟨_, .nil⟩, ⟨_, .single (.resolverAnswers taken)⟩, agrees⟩
  | dnsFails atPc taken =>
      exact ⟨⟨_, .nil⟩, ⟨_, .single (.resolverFails taken)⟩, agrees⟩
  | keepalive atPc accepted =>
      refine ⟨⟨_, .single accepted⟩, ⟨_, .nil⟩, ?_⟩
      cases accepted
      exact agrees
  | ipcStops | mainStores =>
      exact ⟨⟨_, .single .stop⟩, ⟨_, .single .stop⟩, rfl⟩
  | dnsLoop | dnsTimeout | dnsCollected | dnsJoined | mainLoop | mainEnds
  | noKeepalive | mainSlept | joinsIo | joinsTx | joinsDns | interrupt =>
      exact ⟨⟨_, .nil⟩, ⟨_, .nil⟩, agrees⟩

/-- Every run of the session is a run of the I/O thread's machine and a run of
the TX loop's. -/
theorem session_machines {start : Session}
    {trace : List (Option SessionThread)} (agrees : start.Agrees)
    (run : Run (SessionStep rx config) start trace s) :
    (∃ events, Run (UsbStep rx) start.usb events s.usb) ∧
      (∃ events, Run (TxStep config) start.tx events s.tx) ∧ s.Agrees := by
  induction run with
  | nil => exact ⟨⟨_, .nil⟩, ⟨_, .nil⟩, agrees⟩
  | snoc run taken ih =>
      obtain ⟨⟨_, usbRun⟩, ⟨_, txRun⟩, agreesNow⟩ := ih
      obtain ⟨⟨_, usbNext⟩, ⟨_, txNext⟩, agreesNext⟩ :=
        taken.machines agreesNow
      exact ⟨⟨_, usbRun.trans usbNext⟩, ⟨_, txRun.trans txNext⟩, agreesNext⟩

/-- `running_bridge` is not set again. -/
theorem SessionStep.stays_off (agrees : s.Agrees)
    (off : s.tx.running = false)
    (taken : SessionStep rx config s thread next) :
    next.tx.running = false := by
  cases taken with
  | io step =>
      rcases step.running with same | stopped
      · exact same.trans (agrees.symm.trans off)
      · exact stopped
  | tx step =>
      rcases step.running with same | ⟨stopped, -⟩
      · exact same.trans off
      · exact stopped
  | ipcStops | mainStores => rfl
  | txPollTimeout | txSend | txSendFails | dnsLoop | dnsEnds | dnsTimeout
  | dnsTakes | dnsCollected | dnsAnswers | dnsFails | dnsJoined | mainLoop
  | mainEnds | keepalive | noKeepalive | mainSlept | joinsIo | joinsTx
  | joinsDns | interrupt => exact off

/-- What is known of a session on its way down. -/
structure Session.Stopping (s : Session) : Prop where
  agrees : s.Agrees
  off : s.tx.running = false
  inBatch : s.tx.pc.InBatch

theorem Session.Stopping.step (stopping : s.Stopping)
    (taken : SessionStep rx config s thread next) : next.Stopping := by
  obtain ⟨-, ⟨events, txRun⟩, agrees⟩ := taken.machines stopping.agrees
  exact ⟨agrees, taken.stays_off stopping.agrees stopping.off,
    stopping.inBatch.of_run txRun⟩

theorem Session.Stopping.of_run {stopped : Session} {dnsMode : DnsMode}
    {earlier later : List (Option SessionThread)}
    (before : Run (SessionStep rx config) (.initial dnsMode) earlier stopped)
    (off : stopped.tx.running = false)
    (after : Run (SessionStep rx config) stopped later s) : s.Stopping := by
  have agreesAtStart : (Session.initial dnsMode).Agrees := rfl
  have inBatchAtStart : (Session.initial dnsMode).tx.pc.InBatch := trivial
  obtain ⟨-, ⟨events, txRun⟩, agrees⟩ := session_machines agreesAtStart before
  have stopping : stopped.Stopping :=
    ⟨agrees, off, inBatchAtStart.of_run txRun⟩
  exact after.invariant stopping Session.Stopping.step

end Machines

/-- The thread can take a step that changes something. -/
def Session.Enabled (rx : RxConfig) (config : TxConfig) (s : Session)
    (thread : SessionThread) : Prop :=
  ∃ next, SessionStep rx config s (some thread) next ∧ next ≠ s

/-- For which threads a thread may have to wait: the main thread for those it
joins, the TX loop for room in the channel. -/
def SessionThread.WaitsFor : SessionThread → SessionThread → Prop
  | .main, other => other ≠ .main
  | .tx, other => other = .io
  | .io, _ | .dns, _ => False

def SessionThread.rank : SessionThread → Nat
  | .io | .dns => 0
  | .tx => 1
  | .main => 2

theorem SessionThread.waitsFor_wellFounded :
    WellFounded fun first second : SessionThread => second.WaitsFor first := by
  refine Subrelation.wf (r := fun first second => first.rank < second.rank)
    ?_ (measure SessionThread.rank).wf
  intro first second waits
  cases second with
  | main => cases first <;> first | exact absurd rfl waits | decide
  | tx =>
      cases waits
      decide
  | io | dns => exact absurd waits id

section Moves

variable {rx : RxConfig} {config : TxConfig}

/-- The I/O thread never waits for another thread. -/
theorem usb_moves {usb : UsbState} (serving : usb.pc.Serving) :
    ∃ event next, UsbStep rx usb event next ∧
      (next.pc ≠ usb.pc ∨
        (∃ message, event = .submitted message) ∧ next.queue ≠ usb.queue) := by
  cases atPc : usb.pc with
  | priming left =>
      cases left with
      | zero => exact ⟨_, _, .primed atPc, .inl (by simp)⟩
      | succ left => exact ⟨_, _, .submitIn atPc, .inl (by simp)⟩
  | refilling =>
      by_cases room : usb.io.outPending < maxOutUrbs
      · cases queue : usb.queue with
        | nil => exact ⟨_, _, .refillEmpty atPc room queue, .inl (by simp)⟩
        | cons message rest =>
            exact ⟨_, _, .refill atPc room queue,
              .inr ⟨⟨_, rfl⟩, by simp [UsbState.submitNext]⟩⟩
      · exact ⟨_, _, .refillFull atPc (by omega), .inl (by simp)⟩
  | loopTest =>
      cases on : usb.running with
      | true => exact ⟨_, _, .loop atPc on, .inl (by simp)⟩
      | false => exact ⟨_, _, .loopEnds atPc on, .inl (by simp [UsbState.leave])⟩
  | waiting =>
      rcases Nat.eq_zero_or_pos usb.io.inPending with idle | pending
      · exact ⟨_, _, .waitPanics (.inl atPc) idle,
          .inl (by simp [UsbState.leave])⟩
      · exact ⟨_, _, .nothingIn (.inl atPc) pending, .inl (by simp)⟩
  | drainTest =>
      rcases Nat.eq_zero_or_pos usb.io.inPending with idle | pending
      · exact ⟨_, _, .drained atPc idle, .inl (by simp)⟩
      · exact ⟨_, _, .drain atPc pending, .inl (by simp)⟩
  | drainWait =>
      rcases Nat.eq_zero_or_pos usb.io.inPending with idle | pending
      · exact ⟨_, _, .waitPanics (.inr atPc) idle,
          .inl (by simp [UsbState.leave])⟩
      · exact ⟨_, _, .nothingIn (.inr atPc) pending, .inl (by simp)⟩
  | checking =>
      by_cases lost : usb.activeRx = 0
      · exact ⟨_, _, .gone atPc lost, .inl (by simp [UsbState.leave])⟩
      · exact ⟨_, _, .present atPc lost, .inl (by simp)⟩
  | outTest =>
      rcases Nat.eq_zero_or_pos usb.io.outPending with idle | pending
      · exact ⟨_, _, .outIdle atPc idle, .inl (by simp)⟩
      · exact ⟨_, _, .drainOut atPc pending, .inl (by simp)⟩
  | outWait =>
      rcases Nat.eq_zero_or_pos usb.io.outPending with idle | pending
      · exact ⟨_, _, .outWaitPanics atPc idle, .inl (by simp [UsbState.leave])⟩
      · exact ⟨_, _, .nothingOut atPc pending, .inl (by simp)⟩
  | outTake =>
      cases queue : usb.queue with
      | nil => exact ⟨_, _, .replaceEmpty atPc queue, .inl (by simp)⟩
      | cons message rest =>
          exact ⟨_, _, .replace atPc queue, .inl (by simp)⟩
  | ended => exact absurd atPc serving.1
  | panicked => exact absurd atPc serving.2

/-- Outside `send`, the TX loop is on its way to the end. -/
theorem tx_moves {tx : TxState} (off : tx.running = false)
    (inBatch : tx.pc.InBatch) (unfinished : tx.pc ≠ .finished)
    (idle : ∀ count packet message, tx.pc ≠ .sending count packet message) :
    ∃ event next, TxStep config tx event next ∧ next.pc ≠ tx.pc := by
  cases atPc : tx.pc with
  | polling => exact ⟨_, _, .pollStopped atPc off, by simp⟩
  | readable => exact ⟨_, _, .readableStopped atPc off, by simp⟩
  | batch count =>
      rw [atPc] at inBatch
      rcases Nat.lt_or_eq_of_le inBatch with more | rfl
      · exact ⟨_, _, .readNothing atPc more, by simp⟩
      · exact ⟨_, _, .batchDone atPc, by simp⟩
  | received count tlen => exact ⟨_, _, .receivedStopped atPc off, by simp⟩
  | intercepting count tlen =>
      cases isQuery : interceptedQuery config tx.tbuf tlen with
      | error panic => exact ⟨_, _, .interceptPanics atPc isQuery, by simp⟩
      | ok query =>
          cases query with
          | none => exact ⟨_, _, .pass atPc isQuery, by simp⟩
          | some query => exact ⟨_, _, .intercept atPc isQuery, by simp⟩
  | testingWarm count tlen =>
      cases warm : tx.warm with
      | true => exact ⟨_, _, .warmSkips atPc warm, by simp⟩
      | false => exact ⟨_, _, .coldForwards atPc warm, by simp⟩
  | forwarding count tlen =>
      cases framed : frameMessage config tx.gatewayMac (tx.tbuf.take tlen)
          tx.ebuf tx.rbuf with
      | error panic => exact ⟨_, _, .forwardPanics atPc framed, by simp⟩
      | ok result =>
          obtain ⟨message, ebuf, rbuf⟩ := result
          cases message with
          | none => exact ⟨_, _, .reject atPc framed, by simp⟩
          | some message => exact ⟨_, _, .forward atPc framed, by simp⟩
  | sending count packet message =>
      exact absurd atPc (idle count packet message)
  | finished => exact absurd atPc unfinished

variable {s : Session}

theorem io_enabled (unfinished : ¬ s.Finished .io) : s.Enabled rx config .io := by
  obtain ⟨event, usb, step, moved⟩ := @usb_moves rx s.usb (not_not.mp unfinished)
  refine ⟨_, .io step (moved.imp_right And.left), fun same => ?_⟩
  have usbSame : usb = s.usb := congrArg Session.usb same
  rcases moved with pcMoved | ⟨-, queueMoved⟩
  · exact pcMoved (congrArg UsbState.pc usbSame)
  · exact queueMoved (congrArg UsbState.queue usbSame)

theorem tx_enabled_or_waits (stopping : s.Stopping)
    (unfinished : ¬ s.Finished .tx) :
    s.Enabled rx config .tx ∨ ¬ s.Finished .io := by
  by_cases sending : ∃ count packet message,
      s.tx.pc = .sending count packet message
  · obtain ⟨count, packet, message, atPc⟩ := sending
    by_cases ended : s.Finished .io
    · refine .inl ⟨_, .txSendFails atPc ended, fun same => ?_⟩
      have pcSame := congrArg (fun session => session.tx.pc) same
      rw [atPc] at pcSame
      cases pcSame
    · exact .inr ended
  · push Not at sending
    obtain ⟨event, tx, step, moved⟩ := @tx_moves config s.tx stopping.off
      stopping.inBatch unfinished sending
    refine .inl ⟨_, .tx step moved sending, fun same => moved ?_⟩
    exact congrArg (fun session => session.tx.pc) same

theorem dns_enabled (off : s.tx.running = false)
    (unfinished : ¬ s.Finished .dns) : s.Enabled rx config .dns := by
  have moved {next : Session} (ne : next.dns ≠ s.dns) : next ≠ s :=
    fun same => ne (congrArg Session.dns same)
  cases atPc : s.dns with
  | loopTest => exact ⟨_, .dnsEnds atPc off, moved (by simp [atPc])⟩
  | receiving =>
      cases queue : s.tx.dnsQueue with
      | nil => exact ⟨_, .dnsTimeout atPc queue, moved (by simp [atPc])⟩
      | cons item rest =>
          exact ⟨_, .dnsTakes (.inl atPc) queue, moved (by simp [atPc])⟩
  | collecting =>
      cases queue : s.tx.dnsQueue with
      | nil => exact ⟨_, .dnsCollected atPc queue, moved (by simp [atPc])⟩
      | cons item rest =>
          refine ⟨_, .dnsTakes (.inr atPc) queue, fun same => ?_⟩
          have queueSame := congrArg (fun session => session.tx.dnsQueue) same
          rw [queue] at queueSame
          simp at queueSame
  | resolving =>
      cases taken : s.tx.resolving with
      | nil => exact ⟨_, .dnsJoined atPc taken, moved (by simp [atPc])⟩
      | cons item rest =>
          have member : item ∈ s.tx.resolving := by simp [taken]
          refine ⟨_, .dnsFails atPc member, fun same => ?_⟩
          have takenSame := congrArg (fun session => session.tx.resolving) same
          rw [taken] at takenSame
          simp at takenSame
  | finished => exact absurd atPc unfinished

theorem main_enabled_or_waits (off : s.tx.running = false)
    (unfinished : ¬ s.Finished .main) :
    s.Enabled rx config .main ∨
      ∃ other, other ≠ SessionThread.main ∧ ¬ s.Finished other := by
  have moved {next : Session} (ne : next.main ≠ s.main) : next ≠ s :=
    fun same => ne (congrArg Session.main same)
  cases atPc : s.main with
  | loopTest => exact .inl ⟨_, .mainEnds atPc (.inr off), moved (by simp [atPc])⟩
  | iteration => exact .inl ⟨_, .noKeepalive atPc, moved (by simp [atPc])⟩
  | polling => exact .inl ⟨_, .mainSlept atPc, moved (by simp [atPc])⟩
  | leaving =>
      exact .inl ⟨_, .mainStores atPc, moved (by simp [atPc, Session.stopBridge])⟩
  | joinIo =>
      by_cases ended : s.Finished .io
      · exact .inl ⟨_, .joinsIo atPc ended, moved (by simp [atPc])⟩
      · exact .inr ⟨.io, by decide, ended⟩
  | joinTx ioPanicked =>
      by_cases ended : s.Finished .tx
      · exact .inl ⟨_, .joinsTx atPc ended, moved (by simp [atPc])⟩
      · exact .inr ⟨.tx, by decide, ended⟩
  | joinDns ioPanicked =>
      by_cases ended : s.Finished .dns
      · exact .inl ⟨_, .joinsDns atPc ended, moved (by simp [atPc])⟩
      · exact .inr ⟨.dns, by decide, ended⟩
  | returned wasDisconnected => exact absurd ⟨_, atPc⟩ unfinished

end Moves

/-- The session can be torn down from here. -/
structure TearsDown (rx : RxConfig) (config : TxConfig) (s : Session) :
    Prop where
  progress : ∀ thread, ¬ s.Finished thread →
    ∃ other, ¬ s.Finished other ∧ s.Enabled rx config other
  /-- A finished I/O thread unblocks a TX loop that waits in `send`. -/
  unblocks : s.Finished .io → ∀ count packet message,
    s.tx.pc = .sending count packet message →
      ∃ next, SessionStep rx config s (some .tx) next ∧ next.tx.pc = .polling

/-- After `running_bridge` is stored, no reachable state is a deadlock, no
matter what the channels hold. -/
theorem tearsDown {rx : RxConfig} {config : TxConfig} {stopped s : Session}
    {earlier later : List (Option SessionThread)}
    (before : Run (SessionStep rx config) (.initial config.dnsMode) earlier
      stopped)
    (off : stopped.tx.running = false)
    (after : Run (SessionStep rx config) stopped later s)
    (queue : List Bytes) (dnsQueue : List (Bytes × Bytes)) :
    TearsDown rx config (s.holding queue dnsQueue) := by
  have reached := Session.Stopping.of_run before off after
  have stopping : (s.holding queue dnsQueue).Stopping :=
    ⟨reached.agrees, reached.off, reached.inBatch⟩
  refine ⟨fun thread unfinished => ?_, fun ended _ _ _ atPc =>
    ⟨_, .txSendFails atPc ended, rfl⟩⟩
  refine exists_enabled_of_waitsFor SessionThread.waitsFor_wellFounded ?_
    unfinished
  intro thread unfinished
  cases thread with
  | main => exact main_enabled_or_waits stopping.off unfinished
  | io => exact .inl (io_enabled unfinished)
  | tx =>
      rcases tx_enabled_or_waits stopping unfinished with enabled | ioLeft
      · exact .inl enabled
      · exact .inr ⟨.io, rfl, ioLeft⟩
  | dns => exact .inl (dns_enabled stopping.off unfinished)

/-- The TX loop waits with a first packet while the main thread, which has
been interrupted, waits for the I/O thread. -/
theorem run_sending (rx : RxConfig) {config : TxConfig}
    (system : config.dnsMode = .system) {packet : Bytes} {ethertype : Nat}
    (etherTypeEq : packetEtherType packet = .ok (some ethertype))
    (long : 5 ≤ packet.length) (short : packet.length ≤ 1504) :
    ∃ trace s message, Run (SessionStep rx config)
      (.initial config.dnsMode) trace s ∧ s.main = .joinIo ∧
        s.tx.running = false ∧ s.tx.pc = .sending 0 packet message := by
  have ebufSize : TxState.initial.ebuf.length = 2048 := List.length_replicate
  have rbufSize : TxState.initial.rbuf.length = 32768 := List.length_replicate
  have tbufSize : TxState.initial.tbuf.length = 2304 := List.length_replicate
  obtain ⟨ebuf, rbuf, framed, -⟩ := @frameMessage_eq config .broadcast packet
    TxState.initial.ebuf TxState.initial.rbuf ethertype etherTypeEq long
    (by omega) (by omega)
  have front : (packet ++ TxState.initial.tbuf.drop packet.length).take
      packet.length = packet := List.take_left
  rw [← front] at framed
  have nonempty : packet ≠ [] := List.length_pos_iff.mp (by omega)
  have readable : Run (SessionStep rx config) (.initial config.dnsMode) _ _ :=
    .single (.tx (.pollReadable rfl rfl) nofun nofun)
  have batch := readable.snoc (.tx (.readableGo rfl rfl) nofun nofun)
  have received := batch.snoc (.tx (.readPacket packet rfl (by decide)
    nonempty (show _ ≤ TxState.initial.tbuf.length by omega)) nofun nofun)
  have forwarding := received.snoc (.tx (.receivedGo rfl rfl) (by
    rw [if_pos system]
    nofun) nofun)
  rw [if_pos system] at forwarding
  have sending := forwarding.snoc (.tx (.forward rfl framed) nofun nofun)
  have interrupted := (sending.snoc .interrupt).snoc (.mainEnds rfl (.inl rfl))
  exact ⟨_, _, _, interrupted.snoc (.mainStores rfl), rfl, rfl,
    congrArg (TxPc.sending 0 · _) front⟩

/-- That state with a full channel is not a deadlock. -/
theorem fullChannel_tearsDown :
    ∃ s : Session, s.main = .joinIo ∧ s.usb.queue.length = txCapacity ∧
      (∃ message, s.tx.pc = .sending 0 shortDatagram message) ∧
      TearsDown neighbourConfig plainConfig s := by
  obtain ⟨trace, s, message, run, joins, off, sending⟩ :=
    @run_sending neighbourConfig plainConfig rfl shortDatagram 0x0800
      (by decide) (by decide) (by decide)
  exact ⟨s.holding (List.replicate txCapacity []) [], joins,
    List.length_replicate, ⟨message, sending⟩,
    tearsDown run off .nil _ _⟩

end AndroidTether
