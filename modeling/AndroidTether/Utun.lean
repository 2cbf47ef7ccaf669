import AndroidTether.NetTypes
import AndroidTether.StateSimulation

/-!
# Creating the tunnel interface

`Utun::create` and the `Drop` of `utun.rs` as the system calls they make, with
arbitrary results.  A run leaves a log, from which the descriptors that are
still open and the connections that were made can be read off.
-/

namespace AndroidTether

open ByteWords

def pfSystem : Int32 := 32
def afSystem : Int32 := 32
def sockDgram : Int32 := 2
def solSocket : Int32 := 0xFFFF
def soSndbuf : Int32 := 0x1001
def soRcvbuf : Int32 := 0x1002
def fGetfl : Int32 := 3
def fSetfl : Int32 := 4
def oNonblock : Int32 := 4
def ctliocginfo : Nat := 0xC0644E03

def utunControlName : String :=
  "com.apple.net.utun_control\x00"

structure CtlInfo where
  ctlId : UInt32
  ctlName : Bytes

structure SockaddrCtl where
  scLen : UInt8
  scFamily : UInt8
  ssSysaddr : UInt16
  scId : UInt32
  scUnit : UInt32
  scReserved : List UInt32

/-- `size_of::<SockaddrCtl>()`. -/
def sockaddrCtlSize : Nat := 32

/-- The system calls of `create` and `drop`, with their arguments. -/
inductive SysCall
  | socket (domain kind protocol : Int32)
  | ioctl (fd : Int32) (request : Nat) (info : CtlInfo)
  | connect (fd : Int32) (address : SockaddrCtl) (size : Nat)
  | setsockopt (fd level option value : Int32)
  | fcntl (fd command argument : Int32)
  | close (fd : Int32)

/-- A system call that was made, with its result. -/
structure SysEvent where
  call : SysCall
  result : Int32

/-- How the system answers: the result of the `n`th call, and the number that
`CTLIOCGINFO` fills in. -/
structure Kernel where
  result : Nat → Int32
  ctlId : UInt32

abbrev SysIo := EStateM TetherError (List SysEvent)

def sysCall (kernel : Kernel) (call : SysCall) : SysIo Int32 := fun log =>
  let result := kernel.result log.length
  .ok result (log ++ [⟨call, result⟩])

structure Utun where
  fd : Int32
  unit : UInt32
  ifname : String

namespace Utun

/-- The name in the request, cut off before the last byte. -/
def controlInfo : CtlInfo :=
  let nameBytes := utunControlName.toUTF8.toList
  let copyLen := min nameBytes.length 95
  { ctlId := 0
    ctlName := patch (List.replicate 96 0) 0 (nameBytes.take copyLen) }

def address (ctlId unit : UInt32) : SockaddrCtl where
  scLen := UInt8.ofNat sockaddrCtlSize
  scFamily := afSystem.toUInt32.toUInt8
  ssSysaddr := 2
  scId := ctlId
  scUnit := unit + 1
  scReserved := [0, 0, 0, 0, 0]

/-- The loop over the units, which stops at the first that can be
connected. -/
def connectUnit (kernel : Kernel) (fd : Int32) :
    List UInt32 → SysIo (Option UInt32)
  | [] => return none
  | unit :: units => do
      let ret ← sysCall kernel
        (.connect fd (address kernel.ctlId unit) sockaddrCtlSize)
      if ret = 0 then return some unit
      connectUnit kernel fd units

/-- `0..256u32`. -/
def units : List UInt32 :=
  (List.range 256).map UInt32.ofNat

/-- The socket options and the flags, whose results only matter for the
flags. -/
def setOptions (kernel : Kernel) (fd : Int32) : SysIo Unit := do
  let bufsize := 4 * 1024 * 1024
  let _ ← sysCall kernel (.setsockopt fd solSocket soRcvbuf bufsize)
  let _ ← sysCall kernel (.setsockopt fd solSocket soSndbuf bufsize)
  let flags ← sysCall kernel (.fcntl fd fGetfl 0)
  if 0 ≤ flags then
    let _ ← sysCall kernel (.fcntl fd fSetfl (flags ||| oNonblock))

def create (kernel : Kernel) : SysIo Utun := do
  let fd ← sysCall kernel (.socket pfSystem sockDgram 2)
  if fd < 0 then
    throw (.network "failed to create utun socket")
  let ret ← sysCall kernel (.ioctl fd ctliocginfo controlInfo)
  if ret < 0 then
    let _ ← sysCall kernel (.close fd)
    throw (.network "CTLIOCGINFO failed")
  match ← connectUnit kernel fd units with
  | none => throw (.network "no available utun unit")
  | some unit =>
      let ifname := "utun" ++ toString unit
      setOptions kernel fd
      return ⟨fd, unit, ifname⟩

/-- `Drop for Utun`. -/
def drop (kernel : Kernel) (utun : Utun) : SysIo Unit := do
  if 0 ≤ utun.fd then
    let _ ← sysCall kernel (.close utun.fd)

end Utun

/-- What a call does to the descriptors that are open. -/
def SysEvent.descriptors (opened : List Int32) (event : SysEvent) :
    List Int32 :=
  match event.call with
  | .socket _ _ _ =>
      if event.result < 0 then opened else opened ++ [event.result]
  | .close fd => opened.filter (· ≠ fd)
  | _ => opened

/-- The descriptors that the calls of a log have opened and not closed. -/
def openDescriptors (log : List SysEvent) : List Int32 :=
  log.foldl SysEvent.descriptors []

/-- The unit of a call that connected one. -/
def SysEvent.connection (event : SysEvent) : Option (Int32 × UInt32) :=
  match event.call with
  | .connect fd address _ =>
      if event.result = 0 then some (fd, address.scUnit) else none
  | _ => none

/-- The descriptors that the calls of a log have connected, with the units. -/
def connections (log : List SysEvent) : List (Int32 × UInt32) :=
  log.filterMap SysEvent.connection

/-- A failed creation leaves nothing open, a successful one only what it
returns. -/
def LeaksNothing : EStateM.Result TetherError (List SysEvent) Utun → Prop
  | .error _ log => openDescriptors log = []
  | .ok utun log => openDescriptors log = [utun.fd] ∧
      connections log = [(utun.fd, utun.unit + 1)]

section Log

variable (log events : List SysEvent)

@[simp]
theorem openDescriptors_append :
    openDescriptors (log ++ events) =
      events.foldl SysEvent.descriptors (openDescriptors log) :=
  List.foldl_append

@[simp]
theorem connections_append :
    connections (log ++ events) = connections log ++ connections events :=
  List.filterMap_append

end Log

namespace Utun

/-- The loop opens and closes nothing, and connects the unit it returns, if
one of its calls succeeds. -/
theorem connectUnit_spec (kernel : Kernel) (fd : Int32)
    (units : List UInt32) (log : List SysEvent) :
    ∃ found after, connectUnit kernel fd units log = .ok found after ∧
      openDescriptors after = openDescriptors log ∧
      connections after = connections log ++
        (found.map fun unit => (fd, unit + 1)).toList ∧
      (found.isSome ↔
        ∃ attempt < units.length, kernel.result (log.length + attempt) = 0) := by
  induction units generalizing log with
  | nil => exact ⟨none, log, rfl, rfl, by simp, by simp⟩
  | cons unit units ih =>
      by_cases connected : kernel.result log.length = 0
      · refine ⟨some unit, log ++ [⟨.connect fd (address kernel.ctlId unit)
          sockaddrCtlSize, 0⟩], ?_, by simp [SysEvent.descriptors], ?_, ?_⟩
        · simp only [connectUnit, EStateM.bind_apply, sysCall, connected,
            if_pos]
          rfl
        · simp [connections, SysEvent.connection, address]
        · simp only [Option.isSome_some, true_iff]
          exact ⟨0, by simp, connected⟩
      · obtain ⟨found, after, returned, opened, made, succeeds⟩ :=
          ih (log ++ [⟨.connect fd (address kernel.ctlId unit)
            sockaddrCtlSize, kernel.result log.length⟩])
        refine ⟨found, after, ?_, ?_, ?_, ?_⟩
        · simp only [connectUnit, EStateM.bind_apply, sysCall, connected,
            if_false]
          exact returned
        · simpa [SysEvent.descriptors] using opened
        · simpa [connections, SysEvent.connection, connected] using made
        · rw [succeeds, List.length_append, List.length_singleton]
          constructor
          · rintro ⟨attempt, inside, answered⟩
            refine ⟨attempt + 1, by simpa using inside, ?_⟩
            rwa [Nat.add_assoc, Nat.add_comm 1] at answered
          · rintro ⟨attempt, inside, answered⟩
            cases attempt with
            | zero => exact absurd answered connected
            | succ attempt =>
                refine ⟨attempt, by simpa using inside, ?_⟩
                rwa [Nat.add_assoc, Nat.add_comm 1]

section Create

variable {kernel : Kernel}

theorem create_noSocket (failed : kernel.result 0 < 0) :
    ∃ err log, create kernel [] = .error err log ∧
      openDescriptors log = [] := by
  refine ⟨.network "failed to create utun socket",
    [⟨.socket pfSystem sockDgram 2, kernel.result 0⟩], ?_, ?_⟩
  · simp only [create, EStateM.bind_apply, sysCall, List.length_nil, failed,
      if_true]
    rfl
  · simp [openDescriptors, SysEvent.descriptors, failed]

theorem create_noInfo (opened : ¬ kernel.result 0 < 0)
    (failed : kernel.result 1 < 0) :
    ∃ err log, create kernel [] = .error err log ∧
      openDescriptors log = [] := by
  refine ⟨.network "CTLIOCGINFO failed",
    [⟨.socket pfSystem sockDgram 2, kernel.result 0⟩,
      ⟨.ioctl (kernel.result 0) ctliocginfo controlInfo, kernel.result 1⟩,
      ⟨.close (kernel.result 0), kernel.result 2⟩], ?_, ?_⟩
  · simp only [create, EStateM.bind_apply, sysCall, List.length_nil, opened,
      if_false, List.nil_append, List.length_singleton, failed, if_true]
    rfl
  · simp [openDescriptors, SysEvent.descriptors, opened]

/-- The log when the loop over the units begins. -/
def beforeConnect (kernel : Kernel) : List SysEvent :=
  [⟨.socket pfSystem sockDgram 2, kernel.result 0⟩,
    ⟨.ioctl (kernel.result 0) ctliocginfo controlInfo, kernel.result 1⟩]

section Connecting

variable {after : List SysEvent}

theorem create_unavailable (opened : ¬ kernel.result 0 < 0)
    (informed : ¬ kernel.result 1 < 0)
    (looped : connectUnit kernel (kernel.result 0) units
      (beforeConnect kernel) = .ok none after) :
    create kernel [] =
      .error (.network "no available utun unit") after := by
  rw [beforeConnect] at looped
  simp only [create, EStateM.bind_apply, sysCall, List.length_nil, opened,
    if_false, List.nil_append, List.length_singleton, informed,
    List.singleton_append, looped]
  rfl

theorem create_connected (opened : ¬ kernel.result 0 < 0)
    (informed : ¬ kernel.result 1 < 0) {unit : UInt32}
    (looped : connectUnit kernel (kernel.result 0) units
      (beforeConnect kernel) = .ok (some unit) after) :
    create kernel [] = (do
      setOptions kernel (kernel.result 0)
      return ⟨kernel.result 0, unit, "utun" ++ toString unit⟩ : SysIo Utun)
        after := by
  rw [beforeConnect] at looped
  simp only [create, EStateM.bind_apply, sysCall, List.length_nil, opened,
    if_false, List.nil_append, List.length_singleton, informed,
    List.singleton_append, looped]

end Connecting

theorem setOptions_spec (fd : Int32) (log : List SysEvent) :
    ∃ after, setOptions kernel fd log = .ok () after ∧
      openDescriptors after = openDescriptors log ∧
      connections after = connections log := by
  simp only [setOptions, EStateM.bind_apply, sysCall]
  split
  case isTrue =>
    exact ⟨_, rfl, by simp [SysEvent.descriptors],
      by simp [connections, SysEvent.connection]⟩
  case isFalse =>
    exact ⟨_, rfl, by simp [SysEvent.descriptors],
      by simp [connections, SysEvent.connection]⟩

/-- All that a creation can end in. -/
theorem create_cases (kernel : Kernel) :
    ((kernel.result 0 < 0 ∨ kernel.result 1 < 0) ∧
      ∃ err log, create kernel [] = .error err log ∧
        openDescriptors log = []) ∨
    ¬ kernel.result 0 < 0 ∧ ¬ kernel.result 1 < 0 ∧
      (((∀ attempt < 256, kernel.result (2 + attempt) ≠ 0) ∧
        ∃ err log, create kernel [] = .error err log ∧
          openDescriptors log = [kernel.result 0]) ∨
      ((∃ attempt < 256, kernel.result (2 + attempt) = 0) ∧
        ∃ utun log, create kernel [] = .ok utun log ∧
          utun.fd = kernel.result 0 ∧ openDescriptors log = [utun.fd] ∧
          connections log = [(utun.fd, utun.unit + 1)])) := by
  by_cases failed : kernel.result 0 < 0
  · exact .inl ⟨.inl failed, create_noSocket failed⟩
  by_cases uninformed : kernel.result 1 < 0
  · exact .inl ⟨.inr uninformed, create_noInfo failed uninformed⟩
  obtain ⟨found, after, looped, opened, made, succeeds⟩ :=
    connectUnit_spec kernel (kernel.result 0) units (beforeConnect kernel)
  have before : openDescriptors (beforeConnect kernel) =
      [kernel.result 0] := by
    simp [beforeConnect, openDescriptors, SysEvent.descriptors, failed]
  have unconnected : connections (beforeConnect kernel) = [] := rfl
  have count : units.length = 256 := by
    rw [units, List.length_map, List.length_range]
  have start : (beforeConnect kernel).length = 2 := rfl
  rw [before] at opened
  rw [unconnected, List.nil_append] at made
  rw [count, start] at succeeds
  refine .inr ⟨failed, uninformed, ?_⟩
  cases found with
  | none =>
      refine .inl ⟨fun attempt inside connected => ?_, _, after,
        create_unavailable failed uninformed looped, opened⟩
      exact absurd (succeeds.mpr ⟨attempt, inside, connected⟩) (by simp)
  | some unit =>
      obtain ⟨log, configured, sameOpened, sameMade⟩ :=
        @setOptions_spec kernel (kernel.result 0) after
      refine .inr ⟨succeeds.mp rfl, ⟨kernel.result 0, unit,
        "utun" ++ toString unit⟩, log, ?_, rfl,
        sameOpened.trans opened, sameMade.trans made⟩
      rw [create_connected failed uninformed looped, EStateM.bind_apply,
        configured]
      rfl

/-- When every unit is taken, the socket stays open. -/
theorem create_leaks (opened : ¬ kernel.result 0 < 0)
    (informed : ¬ kernel.result 1 < 0)
    (fails : ∀ attempt < 256, kernel.result (2 + attempt) ≠ 0) :
    (∃ err log, create kernel [] = .error err log ∧
      openDescriptors log = [kernel.result 0]) ∧
      ¬ LeaksNothing (create kernel []) := by
  rcases create_cases kernel with
    ⟨early, -⟩ | ⟨-, -, ⟨-, err, log, returned, left⟩ |
      ⟨⟨attempt, inside, connected⟩, -⟩⟩
  · exact absurd early (by simp [opened, informed])
  · refine ⟨⟨err, log, returned, left⟩, ?_⟩
    rw [returned]
    exact fun closed => List.cons_ne_nil _ _ (left.symm.trans closed)
  · exact absurd connected (fails attempt inside)

/-- Nothing leaks, unless the loop over the units is reached and finds
none. -/
theorem create_leaksNothing_iff (kernel : Kernel) :
    LeaksNothing (create kernel []) ↔
      kernel.result 0 < 0 ∨ kernel.result 1 < 0 ∨
        ∃ attempt < 256, kernel.result (2 + attempt) = 0 := by
  rw [← or_assoc]
  rcases create_cases kernel with
    ⟨early, err, log, returned, closed⟩ |
      ⟨opened, informed, ⟨fails, -⟩ |
        ⟨succeeds, utun, log, returned, -, left, connected⟩⟩
  · rw [returned]
    exact iff_of_true closed (.inl early)
  · refine iff_of_false (create_leaks opened informed fails).2 ?_
    rintro ((failed | failed) | ⟨attempt, inside, connected⟩)
    · exact opened failed
    · exact informed failed
    · exact fails attempt inside connected
  · rw [returned]
    exact iff_of_true ⟨left, connected⟩ (.inr succeeds)

/-- The `Drop` closes what a successful creation has left open. -/
theorem drop_closes {utun : Utun} {log : List SysEvent}
    (created : create kernel [] = .ok utun log) :
    ∃ after, utun.drop kernel log = .ok () after ∧
      openDescriptors after = [] := by
  rcases create_cases kernel with
    ⟨-, err, other, returned, -⟩ |
      ⟨opened, -, ⟨-, err, other, returned, -⟩ |
        ⟨-, known, other, returned, fdEq, left, -⟩⟩
  · exact nomatch created.symm.trans returned
  · exact nomatch created.symm.trans returned
  · obtain ⟨rfl, rfl⟩ := EStateM.Result.ok.inj (created.symm.trans returned)
    have valid : 0 ≤ utun.fd := by
      rw [fdEq]
      exact Int32.not_lt.mp opened
    refine ⟨log ++ [⟨.close utun.fd, kernel.result log.length⟩], ?_, ?_⟩
    · simp only [drop, EStateM.bind_apply, sysCall, valid, if_true]
      rfl
    · simp [left, SysEvent.descriptors]

/-- A system on which no unit is free. -/
def allUnitsTaken : Kernel where
  result
    | 0 => 3
    | 1 => 0
    | _ => -1
  ctlId := 7

theorem allUnitsTaken_leaks :
    (∃ err log, create allUnitsTaken [] = .error err log ∧
      openDescriptors log = [3]) ∧
      ¬ LeaksNothing (create allUnitsTaken []) := by
  refine create_leaks (by decide) (by decide) fun attempt _ => ?_
  rw [Nat.add_comm]
  exact show (-1 : Int32) ≠ 0 by decide

end Create

end Utun

end AndroidTether
