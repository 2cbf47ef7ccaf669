import AndroidTether.RxPath
import AndroidTether.Transition

/-!
# The USB I/O thread

`UsbIo::run` of `usb_io.rs` as a transition system: the initial transfers, the
loop over IN completions, and the two places that move messages from the TX
channel to OUT transfers.  The transport completes transfers in any order and
number; the TX thread and the main thread put messages into the channel in
between.
-/

namespace AndroidTether

/-- `NUM_RX_BUFS` -/
def numRxBufs : Nat := 16

/-- `MAX_OUT_URBS` -/
def maxOutUrbs : Nat := 32

/-- The bound of the TX channel. -/
def txCapacity : Nat := 4096

/-- Position of the I/O thread. -/
inductive UsbPc
  | priming (left : Nat)
  | refilling
  | loopTest
  | waiting
  | drainTest
  | drainWait
  | checking
  | outTest
  | outWait
  | outTake
  | ended
  | panicked
  deriving DecidableEq

/-- The thread still holds the receiving end of the TX channel. -/
def UsbPc.Serving (pc : UsbPc) : Prop :=
  pc ≠ .ended ∧ pc ≠ .panicked

structure UsbState where
  pc : UsbPc
  io : RxState
  activeRx : Nat
  /-- What the TX channel holds. -/
  queue : List Bytes
  txPkts : UInt64
  txBytes : UInt64
  running : Bool
  deviceGone : Bool

namespace UsbState

def initial : UsbState where
  pc := .priming numRxBufs
  io := .initial
  activeRx := numRxBufs
  queue := []
  txPkts := 0
  txBytes := 0
  running := true
  deviceGone := false

/-- A message that was taken from the channel is submitted and counted. -/
def submitNext (s : UsbState) (message : Bytes) (rest : List Bytes) :
    UsbState :=
  { s with
    io := s.io.submitOut message
    queue := rest
    txPkts := s.txPkts + 1
    txBytes := s.txBytes + UInt64.ofNat message.length }

/-- `wait_next_complete` on the IN endpoint has returned a transfer. -/
def takeIn (s : UsbState) : RxState :=
  { s.io with inPending := s.io.inPending - 1 }

/-- The same on the OUT endpoint. -/
def takeOut (s : UsbState) : UsbState :=
  { s with io := { s.io with outPending := s.io.outPending - 1 } }

/-- `run` is left: the receiver is dropped with everything in the channel. -/
def leave (s : UsbState) (pc : UsbPc) : UsbState :=
  { s with pc := pc, queue := [] }

end UsbState

/-- What can be observed of a step. -/
inductive UsbEvent
  | tau
  /-- An IN completion has been consumed and handled. -/
  | completed (comp : Completion)
  /-- The handling of an IN completion panicked. -/
  | crashed (comp : Completion)
  /-- A message went from the TX channel to the OUT endpoint. -/
  | submitted (message : Bytes)
  /-- The TX channel has accepted a message. -/
  | accepted (message : Bytes)
  | refused (message : Bytes)
  | declaredGone

/-- One step of the I/O thread or of the threads around it. -/
inductive UsbStep (config : RxConfig) : UsbState → UsbEvent → UsbState → Prop
  | submitIn {s : UsbState} {left : Nat} (at_ : s.pc = .priming (left + 1)) :
      UsbStep config s .tau
        { s with pc := .priming left, io := s.io.submitIn }
  | primed {s : UsbState} (at_ : s.pc = .priming 0) :
      UsbStep config s .tau { s with pc := .refilling }
  | refill {s : UsbState} {message : Bytes} {rest : List Bytes}
      (at_ : s.pc = .refilling) (room : s.io.outPending < maxOutUrbs)
      (next : s.queue = message :: rest) :
      UsbStep config s (.submitted message) (s.submitNext message rest)
  | refillEmpty {s : UsbState} (at_ : s.pc = .refilling)
      (room : s.io.outPending < maxOutUrbs) (empty : s.queue = []) :
      UsbStep config s .tau { s with pc := .loopTest }
  | refillFull {s : UsbState} (at_ : s.pc = .refilling)
      (full : maxOutUrbs ≤ s.io.outPending) :
      UsbStep config s .tau { s with pc := .loopTest }
  | loop {s : UsbState} (at_ : s.pc = .loopTest) (on : s.running) :
      UsbStep config s .tau { s with pc := .waiting }
  | loopEnds {s : UsbState} (at_ : s.pc = .loopTest)
      (off : s.running = false) :
      UsbStep config s .tau (s.leave .ended)
  | complete {s : UsbState} {io : RxState} {ok : Bool} (comp : Completion)
      (at_ : s.pc = .waiting ∨ s.pc = .drainWait)
      (pending : 0 < s.io.inPending)
      (processed : processRxCompletion config comp s.takeIn = .ok (ok, io)) :
      UsbStep config s (.completed comp)
        { s with
          pc := .drainTest
          io := io
          activeRx := if ok then s.activeRx else s.activeRx - 1 }
  | crash {s : UsbState} {panic : Panic} (comp : Completion)
      (at_ : s.pc = .waiting ∨ s.pc = .drainWait)
      (pending : 0 < s.io.inPending)
      (panics : processRxCompletion config comp s.takeIn = .error panic) :
      UsbStep config s (.crashed comp) (s.leave .panicked)
  | nothingIn {s : UsbState} (at_ : s.pc = .waiting ∨ s.pc = .drainWait)
      (pending : 0 < s.io.inPending) :
      UsbStep config s .tau { s with pc := .checking }
  | waitPanics {s : UsbState} (at_ : s.pc = .waiting ∨ s.pc = .drainWait)
      -- the transport must not be asked to wait for nothing
      (idle : s.io.inPending = 0) :
      UsbStep config s .tau (s.leave .panicked)
  | drain {s : UsbState} (at_ : s.pc = .drainTest)
      (pending : 0 < s.io.inPending) :
      UsbStep config s .tau { s with pc := .drainWait }
  | drained {s : UsbState} (at_ : s.pc = .drainTest)
      (idle : s.io.inPending = 0) :
      UsbStep config s .tau { s with pc := .checking }
  | gone {s : UsbState} (at_ : s.pc = .checking) (lost : s.activeRx = 0) :
      UsbStep config s .declaredGone
        { s.leave .ended with running := false, deviceGone := true }
  | present {s : UsbState} (at_ : s.pc = .checking) (left : s.activeRx ≠ 0) :
      UsbStep config s .tau { s with pc := .outTest }
  | drainOut {s : UsbState} (at_ : s.pc = .outTest)
      (pending : 0 < s.io.outPending) :
      UsbStep config s .tau { s with pc := .outWait }
  | outIdle {s : UsbState} (at_ : s.pc = .outTest)
      (idle : s.io.outPending = 0) :
      UsbStep config s .tau { s with pc := .refilling }
  | completeOut {s : UsbState} (at_ : s.pc = .outWait)
      (pending : 0 < s.io.outPending) :
      UsbStep config s .tau { s.takeOut with pc := .outTake }
  | nothingOut {s : UsbState} (at_ : s.pc = .outWait)
      (pending : 0 < s.io.outPending) :
      UsbStep config s .tau { s with pc := .refilling }
  | outWaitPanics {s : UsbState} (at_ : s.pc = .outWait)
      (idle : s.io.outPending = 0) :
      UsbStep config s .tau (s.leave .panicked)
  | replace {s : UsbState} {message : Bytes} {rest : List Bytes}
      (at_ : s.pc = .outTake) (next : s.queue = message :: rest) :
      UsbStep config s (.submitted message)
        { s.submitNext message rest with pc := .outTest }
  | replaceEmpty {s : UsbState} (at_ : s.pc = .outTake)
      (empty : s.queue = []) :
      UsbStep config s .tau { s with pc := .outTest }
  | accept {s : UsbState} (message : Bytes) (serving : s.pc.Serving)
      (room : s.queue.length < txCapacity) :
      UsbStep config s (.accepted message)
        { s with queue := s.queue ++ [message] }
  | refuse {s : UsbState} (message : Bytes)
      -- `try_send` on a full channel, or any send without a receiver
      (closed : txCapacity ≤ s.queue.length ∨ ¬ s.pc.Serving) :
      UsbStep config s (.refused message) s
  | stop {s : UsbState} : UsbStep config s .tau { s with running := false }

/-- A failed IN transfer, whose buffer is not submitted again. -/
def UsbEvent.isFailure : UsbEvent → Bool
  | .completed comp => comp.failed
  | .tau | .crashed _ | .submitted _ | .accepted _ | .refused _
  | .declaredGone => false

/-- The number of failed completions that have been consumed. -/
def failures (trace : List UsbEvent) : Nat :=
  trace.countP UsbEvent.isFailure

theorem failures_concat (trace : List UsbEvent) (event : UsbEvent) :
    failures (trace ++ [event]) =
      failures trace + (if event.isFailure then 1 else 0) := by
  rw [failures, List.countP_append, List.countP_singleton]
  rfl

/-- What holds of the IN endpoint at each position. -/
def UsbPc.Accounted (s : UsbState) : UsbPc → Prop
  | .priming left =>
      s.io.inPending + left = numRxBufs ∧ s.activeRx = numRxBufs
  | .refilling | .loopTest | .waiting | .drainWait | .outTest | .outTake =>
      s.io.inPending = s.activeRx ∧ s.activeRx ≠ 0
  | .outWait =>
      s.io.inPending = s.activeRx ∧ s.activeRx ≠ 0 ∧ 0 < s.io.outPending
  | .drainTest | .checking => s.io.inPending = s.activeRx
  | .ended => s.activeRx = 0 → s.deviceGone = true
  | .panicked => s.activeRx ≠ 0

structure RxInvariant (trace : List UsbEvent) (s : UsbState) : Prop where
  active : s.activeRx + failures trace = numRxBufs
  accounted : s.pc.Accounted s
  gone : s.deviceGone = true →
    s.pc = .ended ∧ s.activeRx = 0 ∧ s.running = false

namespace RxInvariant

variable {config : RxConfig} {trace : List UsbEvent} {s next : UsbState}
  {event : UsbEvent}

theorem initial : RxInvariant [] .initial where
  active := rfl
  accounted := ⟨rfl, rfl⟩
  gone isGone := absurd isGone (by decide)

/-- A step of the thread that fails no transfer and does not leave the
loop. -/
theorem move (inv : RxInvariant trace s) (quiet : event.isFailure = false)
    (activeEq : next.activeRx = s.activeRx)
    (goneEq : next.deviceGone = s.deviceGone) (inside : s.pc ≠ .ended)
    (accounted : next.pc.Accounted next) :
    RxInvariant (trace ++ [event]) next where
  active := by
    rw [failures_concat, quiet, activeEq]
    exact inv.active
  accounted := accounted
  gone isGone := absurd (inv.gone (goneEq ▸ isGone)).1 inside

theorem environment (inv : RxInvariant trace s)
    (quiet : event.isFailure = false) (pcEq : next.pc = s.pc)
    (ioEq : next.io = s.io) (activeEq : next.activeRx = s.activeRx)
    (goneEq : next.deviceGone = s.deviceGone)
    (stays : s.running = false → next.running = false) :
    RxInvariant (trace ++ [event]) next where
  active := by
    rw [failures_concat, quiet, activeEq]
    exact inv.active
  accounted := by
    have accounted := inv.accounted
    rw [pcEq]
    cases pc : s.pc <;> rw [pc] at accounted <;>
      simpa only [UsbPc.Accounted, ioEq, activeEq, goneEq] using accounted
  gone isGone := by
    obtain ⟨ended, lost, off⟩ := inv.gone (goneEq ▸ isGone)
    exact ⟨pcEq.trans ended, activeEq.trans lost, stays off⟩

/-- Where a transfer is waited for, one is pending. -/
theorem waits (inv : RxInvariant trace s)
    (atPc : s.pc = .waiting ∨ s.pc = .drainWait) :
    s.io.inPending = s.activeRx ∧ s.activeRx ≠ 0 := by
  have accounted := inv.accounted
  rcases atPc with atPc | atPc <;> rw [atPc] at accounted <;> exact accounted

theorem waits_ne_ended (atPc : s.pc = .waiting ∨ s.pc = .drainWait) :
    s.pc ≠ .ended := by
  rcases atPc with atPc | atPc <;> simp [atPc]

theorem submittedIn (inv : RxInvariant trace s) {left : Nat}
    (atPc : s.pc = .priming (left + 1)) :
    RxInvariant (trace ++ [.tau])
      { s with pc := .priming left, io := s.io.submitIn } := by
  have accounted := inv.accounted
  rw [atPc] at accounted
  obtain ⟨total, full⟩ := accounted
  refine inv.move rfl rfl rfl (by simp [atPc]) ⟨?_, full⟩
  simp only [RxState.submitIn]
  omega

theorem primed (inv : RxInvariant trace s) (atPc : s.pc = .priming 0) :
    RxInvariant (trace ++ [.tau]) { s with pc := .refilling } := by
  have accounted := inv.accounted
  rw [atPc] at accounted
  obtain ⟨total, full⟩ := accounted
  exact inv.move rfl rfl rfl (by simp [atPc])
    ⟨total.trans full.symm, full ▸ by decide⟩

/-- A failed transfer is not submitted again, and its buffer not counted
any more. -/
theorem completedFailed (inv : RxInvariant trace s) {comp : Completion}
    {io : RxState} (atPc : s.pc = .waiting ∨ s.pc = .drainWait)
    (failed : comp.failed = true)
    (inPending : io.inPending = s.io.inPending - 1) :
    RxInvariant (trace ++ [.completed comp])
      { s with
        pc := .drainTest
        io := io
        activeRx := s.activeRx - 1 } := by
  obtain ⟨pendingEq, alive⟩ := inv.waits atPc
  have total := inv.active
  refine ⟨?_, ?_, fun isGone =>
    absurd (inv.gone isGone).1 (waits_ne_ended atPc)⟩
  · rw [failures_concat, UsbEvent.isFailure, if_pos failed]
    change s.activeRx - 1 + (failures trace + 1) = numRxBufs
    omega
  · change io.inPending = s.activeRx - 1
    rw [inPending, pendingEq]

theorem completed (inv : RxInvariant trace s) {comp : Completion}
    {io : RxState} {ok : Bool} (atPc : s.pc = .waiting ∨ s.pc = .drainWait)
    (pending : 0 < s.io.inPending)
    (processed : processRxCompletion config comp s.takeIn = .ok (ok, io)) :
    RxInvariant (trace ++ [.completed comp])
      { s with
        pc := .drainTest
        io := io
        activeRx := if ok then s.activeRx else s.activeRx - 1 } := by
  rcases processRxCompletion_cases config comp s.takeIn with
    ⟨panic, panics⟩ | ⟨after, handled, inPending, -⟩
  · rw [panics] at processed
    cases processed
  rw [handled] at processed
  cases processed
  simp only [UsbState.takeIn] at inPending
  cases failed : comp.failed with
  | true =>
      refine inv.completedFailed atPc failed ?_
      rw [inPending, failed]
      rfl
  | false =>
      refine inv.move failed rfl rfl (waits_ne_ended atPc) ?_
      have pendingEq := (inv.waits atPc).1
      rw [failed, if_neg Bool.false_ne_true] at inPending
      change io.inPending = s.activeRx
      omega

theorem awaitedOut (inv : RxInvariant trace s) (atPc : s.pc = .outWait) :
    s.io.inPending = s.activeRx ∧ s.activeRx ≠ 0 := by
  have accounted := inv.accounted
  rw [atPc] at accounted
  exact ⟨accounted.1, accounted.2.1⟩

theorem step (inv : RxInvariant trace s)
    (taken : UsbStep config s event next) :
    RxInvariant (trace ++ [event]) next := by
  have accounted := inv.accounted
  cases taken with
  | submitIn atPc => exact inv.submittedIn atPc
  | primed atPc => exact inv.primed atPc
  | refill atPc =>
      rw [atPc] at accounted
      refine inv.move rfl rfl rfl (by simp [atPc]) ?_
      simp only [UsbState.submitNext, atPc]
      exact accounted
  | refillEmpty atPc | refillFull atPc | loop atPc | drained atPc
  | outIdle atPc | replace atPc | replaceEmpty atPc =>
      rw [atPc] at accounted
      exact inv.move rfl rfl rfl (by simp [atPc]) accounted
  | loopEnds atPc =>
      rw [atPc] at accounted
      refine inv.move rfl rfl rfl (by simp [atPc]) ?_
      exact fun lost => absurd lost accounted.2
  | complete comp atPc pending processed =>
      exact inv.completed atPc pending processed
  | crash comp atPc =>
      exact inv.move rfl rfl rfl (waits_ne_ended atPc) (inv.waits atPc).2
  | nothingIn atPc =>
      exact inv.move rfl rfl rfl (waits_ne_ended atPc) (inv.waits atPc).1
  | waitPanics atPc idle =>
      obtain ⟨pendingEq, alive⟩ := inv.waits atPc
      exact absurd (pendingEq.symm.trans idle) alive
  | drain atPc pending =>
      rw [atPc] at accounted
      exact inv.move rfl rfl rfl (by simp [atPc])
        ⟨accounted, accounted ▸ pending.ne'⟩
  | gone atPc lost =>
      refine ⟨?_, fun _ => rfl, fun _ => ⟨rfl, lost, rfl⟩⟩
      rw [failures_concat]
      exact inv.active
  | present atPc left =>
      rw [atPc] at accounted
      exact inv.move rfl rfl rfl (by simp [atPc]) ⟨accounted, left⟩
  | drainOut atPc pending =>
      rw [atPc] at accounted
      exact inv.move rfl rfl rfl (by simp [atPc])
        ⟨accounted.1, accounted.2, pending⟩
  | completeOut atPc | nothingOut atPc =>
      exact inv.move rfl rfl rfl (by simp [atPc]) (inv.awaitedOut atPc)
  | outWaitPanics atPc =>
      exact inv.move rfl rfl rfl (by simp [atPc]) (inv.awaitedOut atPc).2
  | accept | refuse =>
      exact inv.environment rfl rfl rfl rfl rfl id
  | stop => exact inv.environment rfl rfl rfl rfl rfl fun _ => rfl

theorem of_run (run : Run (UsbStep config) .initial trace s) :
    RxInvariant trace s :=
  run.history initial fun inv taken => inv.step taken

end RxInvariant

/-- The accounting of the IN buffers at some point of a run. -/
structure RxAccounted (config : RxConfig) (trace : List UsbEvent)
    (s : UsbState) : Prop where
  loopHead : s.pc = .loopTest → s.activeRx = s.io.inPending ∧
    s.activeRx = numRxBufs - failures trace
  total : s.activeRx + failures trace = numRxBufs
  /-- The subtraction does not saturate. -/
  unsaturated : ∀ comp next, UsbStep config s (.completed comp) next →
    comp.failed = true → next.activeRx + 1 = s.activeRx
  /-- The transport is never asked to wait for nothing. -/
  pendingWait : s.pc = .waiting ∨ s.pc = .drainWait → 0 < s.io.inPending
  declared : s.deviceGone = true →
    failures trace = numRxBufs ∧ s.running = false
  /-- After the last failure the thread declares the device gone, or is on
  its way there. -/
  declares : failures trace = numRxBufs → s.deviceGone = true ∨
    (s.pc = .drainTest ∨ s.pc = .checking) ∧ s.io.inPending = 0 ∧
      s.activeRx = 0
  /-- It does so at no other point. -/
  sixteenth : ∀ earlier later, trace = earlier ++ .declaredGone :: later →
    failures earlier = numRxBufs
  /-- No completion is looked at after the last failure. -/
  consumed : ∀ earlier later comp,
    trace = earlier ++ .completed comp :: later ∨
      trace = earlier ++ .crashed comp :: later →
    failures earlier < numRxBufs

theorem RxInvariant.declares {trace : List UsbEvent} {s : UsbState}
    (inv : RxInvariant trace s) (all : failures trace = numRxBufs) :
    s.deviceGone = true ∨
      (s.pc = .drainTest ∨ s.pc = .checking) ∧ s.io.inPending = 0 ∧
        s.activeRx = 0 := by
  have lost : s.activeRx = 0 := by
    have total := inv.active
    omega
  have accounted := inv.accounted
  cases atPc : s.pc with
  | priming left =>
      rw [atPc] at accounted
      exact absurd (accounted.2.symm.trans lost) (by decide)
  | refilling | loopTest | waiting | drainWait | outTest | outTake =>
      rw [atPc] at accounted
      exact absurd lost accounted.2
  | outWait =>
      rw [atPc] at accounted
      exact absurd lost accounted.2.1
  | drainTest =>
      rw [atPc] at accounted
      exact .inr ⟨.inl rfl, accounted.trans lost, lost⟩
  | checking =>
      rw [atPc] at accounted
      exact .inr ⟨.inr rfl, accounted.trans lost, lost⟩
  | ended =>
      rw [atPc] at accounted
      exact .inl (accounted lost)
  | panicked =>
      rw [atPc] at accounted
      exact absurd lost accounted

/-- In every run the count of active buffers is the number of pending
transfers, and the device is declared gone after the sixteenth failure. -/
theorem rxAccounted {config : RxConfig} {trace : List UsbEvent}
    {s : UsbState} (run : Run (UsbStep config) .initial trace s) :
    RxAccounted config trace s := by
  have inv := RxInvariant.of_run run
  have total := inv.active
  refine
    { loopHead := ?_
      total := total
      unsaturated := ?_
      pendingWait := ?_
      declared := ?_
      declares := inv.declares
      sixteenth := ?_
      consumed := ?_ }
  · intro atPc
    have accounted := inv.accounted
    rw [atPc] at accounted
    exact ⟨accounted.1.symm, by omega⟩
  · intro comp next taken failed
    have later := (inv.step taken).active
    rw [failures_concat, UsbEvent.isFailure, failed, if_pos rfl] at later
    omega
  · intro atPc
    obtain ⟨pendingEq, alive⟩ := inv.waits atPc
    omega
  · intro isGone
    obtain ⟨-, lost, off⟩ := inv.gone isGone
    exact ⟨by omega, off⟩
  · rintro earlier later rfl
    obtain ⟨state, next, before, taken, -⟩ := run.split
    have beforeTotal := (RxInvariant.of_run before).active
    cases taken with
    | gone atPc lost => omega
  · intro earlier later comp split
    rcases split with rfl | rfl
    · obtain ⟨state, next, before, taken, -⟩ := run.split
      have beforeInv := RxInvariant.of_run before
      have beforeTotal := beforeInv.active
      cases taken with
      | complete comp atPc =>
          have alive := (beforeInv.waits atPc).2
          omega
    · obtain ⟨state, next, before, taken, -⟩ := run.split
      have beforeInv := RxInvariant.of_run before
      have beforeTotal := beforeInv.active
      cases taken with
      | crash comp atPc =>
          have alive := (beforeInv.waits atPc).2
          omega

section Runs

variable (config : RxConfig)

/-- All buffers are pending and nothing has happened yet. -/
def UsbState.primed : UsbState :=
  { UsbState.initial with
    pc := .loopTest
    io := { RxState.initial with
      inPending := numRxBufs
      calls := List.replicate numRxBufs .submitIn } }

theorem run_priming {count left : Nat} (total : count + left = numRxBufs) :
    Run (UsbStep config) .initial (List.replicate count .tau)
      { UsbState.initial with
        pc := .priming left
        io := { RxState.initial with
          inPending := count
          calls := List.replicate count .submitIn } } := by
  induction count generalizing left with
  | zero =>
      obtain rfl : numRxBufs = left := by omega
      exact .nil
  | succ count ih =>
      have next := (@ih (left + 1) (by omega)).snoc (.submitIn rfl)
      rw [List.replicate_succ', List.replicate_succ']
      exact next

theorem run_primed :
    Run (UsbStep config) .initial
      (List.replicate numRxBufs .tau ++ [.tau] ++ [.tau]) .primed :=
  ((run_priming config (Nat.add_zero numRxBufs)).snoc (.primed rfl)).snoc
    (.refillEmpty rfl (show 0 < maxOutUrbs by decide) rfl)

/-- A transfer that ended with an error. -/
def failedCompletion : Completion where
  failed := true
  buffer := []
  actualLen := 0
  fits := le_rfl

/-- The thread has that many buffers left when it looks for more
completions. -/
def UsbState.losing (left : Nat) : UsbState :=
  { UsbState.primed with
    pc := .drainTest
    activeRx := left
    io := { UsbState.primed.io with inPending := left } }

theorem run_losing {lost left : Nat} (total : lost + left + 1 = numRxBufs) :
    ∃ trace, Run (UsbStep config) .initial trace (.losing left) := by
  induction lost generalizing left with
  | zero =>
      obtain rfl : left = 15 := by
        rw [numRxBufs] at total
        omega
      exact ⟨_, ((run_primed config).snoc (.loop rfl rfl)).snoc
        (.complete failedCompletion (.inl rfl) (show 0 < 16 by decide) rfl)⟩
  | succ lost ih =>
      obtain ⟨trace, run⟩ := @ih (left + 1) (by omega)
      exact ⟨_, (run.snoc (.drain rfl (Nat.succ_pos left))).snoc
        (.complete failedCompletion (.inr rfl) (Nat.succ_pos left) rfl)⟩

/-- All sixteen transfers have failed. -/
def UsbState.lost : UsbState :=
  { UsbState.losing 0 with pc := .ended, running := false, deviceGone := true }

theorem run_lost : ∃ trace, Run (UsbStep config) .initial trace .lost := by
  obtain ⟨trace, run⟩ := @run_losing config 15 0 rfl
  exact ⟨_, (run.snoc (.drained rfl rfl)).snoc (.gone rfl rfl)⟩

end Runs

theorem lost_accounted :
    ∃ trace, RxAccounted neighbourConfig trace .lost ∧
      failures trace = numRxBufs := by
  obtain ⟨trace, run⟩ := run_lost neighbourConfig
  have accounted := rxAccounted run
  exact ⟨trace, accounted, (accounted.declared rfl).1⟩

end AndroidTether
