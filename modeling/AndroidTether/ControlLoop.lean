import AndroidTether.Transition

/-!
# Control of the main thread

`main` and the main loop of `run_session` as one transition system, with the
signal handlers and the I/O thread taking their steps in between.  Flags that
a guard reads one after the other only ever go from true to false while it
matters, so a guard is one step.
-/

namespace AndroidTether

inductive IpcCommand
  | none
  | stop
  | disable
  | enable
  | status
  deriving DecidableEq

inductive PollPlace
  | watchLoop
  | session
  deriving DecidableEq

inductive StopSource
  | ctrlC
  | sigterm
  | deviceGone
  deriving DecidableEq

inductive ControlEvent
  | tau
  | polled (place : PollPlace) (command : IpcCommand)
  /-- `run_session` is called. -/
  | sessionStarts
  /-- The guard of the session loop; if it holds, an iteration starts. -/
  | tested (holds : Bool)
  /-- A source outside the main thread has taken effect. -/
  | stopped (source : StopSource)
  /-- Control is behind the session loop. -/
  | left
  | joined
  | restored
  deriving DecidableEq

/-- Position of the main thread. -/
inductive ControlPc
  | start
  | watchTest
  | watchPoll
  | starting
  | setup
  | loopTest
  | iteration
  | polling
  | sleeping
  | leaving
  | joining
  | restoring
  | returned (reconnected : Bool)
  | trailing
  | finished
  deriving DecidableEq

inductive IoThread
  | idle
  | looping
  /-- `device_gone` is stored, `running_bridge` not yet. -/
  | declaring
  | ended (panicked : Bool)
  deriving DecidableEq

structure ControlState where
  pc : ControlPc
  running : Bool
  globalRunning : Bool
  runningBridge : Bool
  deviceGone : Bool
  /-- The Ctrl-C handler is between its two stores. -/
  handling : Bool
  io : IoThread
  deriving DecidableEq

namespace ControlState

def initial : ControlState where
  pc := .start
  running := true
  globalRunning := true
  runningBridge := false
  deviceGone := false
  handling := false
  io := .idle

/-- `is_running` -/
def isRunning (s : ControlState) : Bool :=
  s.running && s.globalRunning

end ControlState

/-- One step; `watch` is the watch mode, the only one with an IPC server. -/
inductive ControlStep (watch : Bool) :
    ControlState → ControlEvent → ControlState → Prop
  | startWatch {s : ControlState} (at_ : s.pc = .start) (mode : watch) :
      ControlStep watch s .tau { s with pc := .watchTest }
  | startOnce {s : ControlState} (at_ : s.pc = .start) (mode : watch = false) :
      ControlStep watch s .tau { s with pc := .starting }
  | watchGo {s : ControlState} (at_ : s.pc = .watchTest) (on : s.isRunning) :
      ControlStep watch s .tau { s with pc := .watchPoll }
  | watchDone {s : ControlState} (at_ : s.pc = .watchTest)
      (off : s.isRunning = false) :
      ControlStep watch s .tau { s with pc := .finished }
  | watchDisable {s : ControlState} (at_ : s.pc = .watchPoll) :
      ControlStep watch s (.polled .watchLoop .disable)
        { s with pc := .watchTest }
  | watchOther {s : ControlState} {command : IpcCommand}
      (at_ : s.pc = .watchPoll) (other : command ≠ .disable) :
      -- a `Stop` changes nothing here
      ControlStep watch s (.polled .watchLoop command)
        { s with pc := .starting }
  | runSession {s : ControlState} (at_ : s.pc = .starting) :
      ControlStep watch s .sessionStarts { s with pc := .setup }
  | setupFails {s : ControlState} (at_ : s.pc = .setup) :
      ControlStep watch s .tau { s with pc := .returned false }
  | setupDone {s : ControlState} (at_ : s.pc = .setup) :
      ControlStep watch s .tau
        { s with
          pc := .loopTest
          runningBridge := true
          deviceGone := false
          io := .looping }
  | iterate {s : ControlState} (at_ : s.pc = .loopTest) (on : s.running)
      (bridge : s.runningBridge) :
      ControlStep watch s (.tested true) { s with pc := .iteration }
  | loopEnds {s : ControlState} (at_ : s.pc = .loopTest)
      (off : (s.running && s.runningBridge) = false) :
      ControlStep watch s (.tested false) { s with pc := .leaving }
  | noPoll {s : ControlState} (at_ : s.pc = .iteration) :
      ControlStep watch s .tau { s with pc := .sleeping }
  | pollDue {s : ControlState} (at_ : s.pc = .iteration) (mode : watch) :
      ControlStep watch s .tau { s with pc := .polling }
  | sessionStop {s : ControlState} {command : IpcCommand}
      (at_ : s.pc = .polling) (ends : command = .stop ∨ command = .disable) :
      ControlStep watch s (.polled .session command)
        { s with pc := .leaving, runningBridge := false }
  | sessionOther {s : ControlState} {command : IpcCommand}
      (at_ : s.pc = .polling)
      (other : ¬ (command = .stop ∨ command = .disable)) :
      ControlStep watch s (.polled .session command)
        { s with pc := .sleeping }
  | slept {s : ControlState} (at_ : s.pc = .sleeping) :
      ControlStep watch s .tau { s with pc := .loopTest }
  | leave {s : ControlState} (at_ : s.pc = .leaving) :
      ControlStep watch s .left
        { s with pc := .joining, runningBridge := false }
  | join {s : ControlState} {panicked : Bool} (at_ : s.pc = .joining)
      (ended : s.io = .ended panicked) :
      ControlStep watch s .joined
        { s with
          pc := .restoring
          deviceGone := s.deviceGone || panicked
          io := .idle }
  | restore {s : ControlState} (at_ : s.pc = .restoring) :
      ControlStep watch s .restored { s with pc := .returned s.deviceGone }
  | watchAgain {s : ControlState} {reconnected : Bool}
      (at_ : s.pc = .returned reconnected) (mode : watch) :
      -- the pauses of the watch loop read the flags and change nothing
      ControlStep watch s .tau { s with pc := .watchTest }
  | trail {s : ControlState} {reconnected : Bool}
      (at_ : s.pc = .returned reconnected) (mode : watch = false) :
      ControlStep watch s .tau { s with pc := .trailing }
  | trailGo {s : ControlState} (at_ : s.pc = .trailing) (on : s.isRunning) :
      ControlStep watch s .tau s
  | trailDone {s : ControlState} (at_ : s.pc = .trailing)
      (off : s.isRunning = false) :
      ControlStep watch s .tau { s with pc := .finished }
  | ctrlC {s : ControlState} :
      ControlStep watch s (.stopped .ctrlC)
        { s with running := false, handling := true }
  | ctrlCGlobal {s : ControlState} (at_ : s.handling) :
      ControlStep watch s .tau
        { s with globalRunning := false, handling := false }
  | sigterm {s : ControlState} :
      ControlStep watch s (.stopped .sigterm) { s with globalRunning := false }
  | deviceLost {s : ControlState} (at_ : s.io = .looping) :
      ControlStep watch s .tau { s with deviceGone := true, io := .declaring }
  | deviceGone {s : ControlState} (at_ : s.io = .declaring) :
      ControlStep watch s (.stopped .deviceGone)
        { s with runningBridge := false, io := .ended false }
  | ioEnds {s : ControlState} (at_ : s.io = .looping)
      (off : s.runningBridge = false) :
      ControlStep watch s .tau { s with io := .ended false }
  | ioPanics {s : ControlState} (at_ : s.io = .looping ∨ s.io = .declaring) :
      ControlStep watch s .tau { s with io := .ended true }

end AndroidTether
