import AndroidTether.UsbEndpoints
import Mathlib.Data.List.Nodup

/-!
# Functions of a composite device

A composite phone has several functions, each with a control interface and,
directly behind it, a data interface of its own; other interfaces stand alone
between them.  The scan remembers the last RNDIS interface and the last data
interface, so that the two belong together exactly when the function that comes
last is the one for RNDIS.
-/

namespace AndroidTether

open Checked

/-- The alternate settings of one interface. -/
structure UsbInterface where
  number : UInt8
  alts : List AltSetting
  numbered : ∀ alt ∈ alts, alt.interfaceNumber = number

/-- A control interface with the data interface that belongs to it. -/
structure UsbFunction where
  control : UsbInterface
  data : UsbInterface
  data_ne_nil : data.alts ≠ []
  data_class : ∀ alt ∈ data.alts, alt.isData

/-- Whether `find_rndis` takes the control interface. -/
def UsbFunction.isRndis (function : UsbFunction) : Bool :=
  function.control.alts.any AltSetting.isRndis

/-- What a configuration is made of: functions, and interfaces that stand
alone, such as the one of a debugger. -/
inductive UsbPart
  | function (whole : UsbFunction)
  | single (interface : UsbInterface)
      (foreign : ∀ alt ∈ interface.alts,
        alt.isRndis = false ∧ alt.isData = false)

namespace UsbPart

/-- A control interface is directly followed by its data interface. -/
def interfaces : UsbPart → List UsbInterface
  | .function whole => [whole.control, whole.data]
  | .single interface _ => [interface]

def toFunction : UsbPart → Option UsbFunction
  | .function whole => some whole
  | .single _ _ => none

end UsbPart

/-- The parts in the order of the descriptors.  No two interfaces have the
same number. -/
structure CompositeDevice where
  parts : List UsbPart
  distinct : ((parts.flatMap UsbPart.interfaces).map UsbInterface.number).Nodup

namespace CompositeDevice

def configuration (composite : CompositeDevice) : Configuration :=
  (composite.parts.flatMap UsbPart.interfaces).map UsbInterface.alts

def functions (composite : CompositeDevice) : List UsbFunction :=
  composite.parts.filterMap UsbPart.toFunction

end CompositeDevice

/-- The two numbers are those of one function, and of one only. -/
structure OwnData (composite : CompositeDevice) (comm data : UInt8) :
    Prop where
  following : ∃ function ∈ composite.functions,
    function.control.number = comm ∧ function.data.number = data
  noOther : ∀ function ∈ composite.functions, function.data.number = data →
    function.control.number = comm

/-- Of the functions the one for RNDIS comes last. -/
def CompositeDevice.EndsWithRndis (composite : CompositeDevice) : Prop :=
  ∃ last, composite.functions.getLast? = some last ∧ last.isRndis

namespace UsbDevice

/-- The interfaces that the loop over the devices goes on to claim. -/
def claimedNumbers (build : Build) (device : DeviceInfo) :
    Checked (Option (UInt8 × UInt8)) := do
  if ¬ device.opens then return none
  match device.activeConfiguration with
  | none => return none
  | some config =>
      let found := scanInterfaces config
      match found.comm with
      | none => return none
      | some comm =>
          let data ← dataIfaceOf build comm found.data
          return some (comm, data)

/-- The rest of the loop body. -/
def openClaimed (device : DeviceInfo) (config : Configuration)
    (comm data : UInt8) : Option UsbDevice :=
  if ¬ device.detachesAndClaims comm then none
  else if ¬ device.claims data then none
  else
    let (scan, selected) := chooseEndpoints device config comm data
    if scan.epIn ≠ 0 ∧ scan.epOut ≠ 0 then
      some
        { config := config
          ifaceComm := ⟨comm, 0⟩
          ifaceData := some ⟨data, selected⟩
          epInAddr := scan.epIn
          epOutAddr := scan.epOut
          epIntAddr := scan.epInt
          commIface := comm
          dataIface := data }
    else none

/-- The loop body claims the two interfaces and then looks for endpoints on
them. -/
theorem tryDevice_eq (build : Build) (device : DeviceInfo) :
    tryDevice build device = (do
      match ← claimedNumbers build device with
      | none => return none
      | some (comm, data) =>
          return openClaimed device (device.activeConfiguration.getD []) comm
            data) := by
  rw [tryDevice, claimedNumbers]
  split
  case isTrue => rfl
  case isFalse =>
    cases active : device.activeConfiguration with
    | none => rfl
    | some config =>
        simp only
        cases (scanInterfaces config).comm with
        | none => rfl
        | some comm =>
            simp only
            cases dataIfaceOf build comm (scanInterfaces config).data with
            | error panic => rfl
            | ok data =>
                simp only [ok_bind, Option.getD_some, pure_eq_ok, openClaimed]
                repeat' split
                all_goals rfl

theorem openClaimed_some {device : DeviceInfo} {config : Configuration}
    {comm data : UInt8} {usb : UsbDevice}
    (opened : openClaimed device config comm data = some usb) :
    usb.commIface = comm ∧ usb.ifaceComm.number = comm ∧
      usb.dataIface = data ∧
      usb.ifaceData.map Interface.number = some data := by
  rw [openClaimed] at opened
  split at opened
  · cases opened
  · split at opened
    · cases opened
    · simp only at opened
      split at opened
      · obtain rfl := Option.some.inj opened
        exact ⟨rfl, rfl, rfl, rfl⟩
      · cases opened

theorem claimedNumbers_some {build : Build} {device : DeviceInfo}
    {config : Configuration} {comm data : UInt8}
    (active : device.activeConfiguration = some config)
    (claimed : claimedNumbers build device = .ok (some (comm, data))) :
    config.commInterface = some comm ∧ data = config.dataInterface comm := by
  rw [claimedNumbers] at claimed
  split at claimed
  case isTrue => cases claimed
  case isFalse =>
    simp only [active] at claimed
    cases commEq : (scanInterfaces config).comm with
    | none => simp [commEq] at claimed
    | some number =>
        simp only [commEq] at claimed
        obtain ⟨noted, numbered, claimed⟩ := bind_eq_ok.mp claimed
        cases claimed
        rw [scanInterfaces_comm] at commEq
        exact ⟨commEq, dataInterface_of_scan numbered⟩

end UsbDevice

/-- An interface is for data or for control, never for both. -/
theorem AltSetting.not_isRndis_of_isData {alt : AltSetting}
    (isData : alt.isData) : alt.isRndis = false := by
  have classEq : alt.classCode = 0x0A := by
    simpa [AltSetting.isData, UsbDevice.isDataInterface] using isData
  simp [AltSetting.isRndis, UsbDevice.isRndisInterface, classEq]

theorem getLast?_of_forall_eq {α : Type*} {items : List α} {value : α}
    (some_item : items ≠ []) (same : ∀ item ∈ items, item = value) :
    items.getLast? = some value := by
  rw [List.getLast?_eq_some_getLast some_item,
    same _ (List.getLast_mem some_item)]

theorem UsbInterface.getLast?_numberIf {accepts : AltSetting → Bool}
    {interface : UsbInterface} (accepted : interface.alts.any accepts) :
    (interface.alts.filterMap (numberIf accepts)).getLast? =
      some interface.number := by
  obtain ⟨alt, member, accepted⟩ := List.any_eq_true.mp accepted
  apply getLast?_of_forall_eq
  · refine List.ne_nil_of_mem (a := alt.interfaceNumber) ?_
    exact List.mem_filterMap.mpr ⟨alt, member, by simp [numberIf, accepted]⟩
  · intro number noted
    obtain ⟨other, otherMember, numberEq⟩ := List.mem_filterMap.mp noted
    rw [numberIf] at numberEq
    split at numberEq
    · exact (Option.some.inj numberEq).symm.trans
        (interface.numbered other otherMember)
    · cases numberEq

namespace UsbFunction

variable (function : UsbFunction)

theorem data_any_isData : function.data.alts.any AltSetting.isData := by
  obtain ⟨alt, member⟩ := List.exists_mem_of_ne_nil _ function.data_ne_nil
  exact List.any_eq_true.mpr ⟨alt, member, function.data_class alt member⟩

theorem data_numberIf_isRndis :
    function.data.alts.filterMap (numberIf AltSetting.isRndis) = [] := by
  refine List.filterMap_eq_nil_iff.mpr fun alt member => ?_
  simp [numberIf, AltSetting.not_isRndis_of_isData
    (function.data_class alt member)]

end UsbFunction

namespace CompositeDevice

variable {composite : CompositeDevice} {comm : UInt8}

/-- The interfaces of one kind, one for each function, have distinct
numbers. -/
theorem numbers_nodup (kind : UsbFunction → UsbInterface)
    (own : ∀ function : UsbFunction,
      [kind function].Sublist [function.control, function.data])
    (composite : CompositeDevice) :
    (composite.functions.map fun function => (kind function).number).Nodup := by
  have interfaces (parts : List UsbPart) :
      ((parts.filterMap UsbPart.toFunction).map kind).Sublist
        (parts.flatMap UsbPart.interfaces) := by
    induction parts with
    | nil => exact List.Sublist.refl _
    | cons part parts ih =>
        cases part with
        | function function => exact (own function).append ih
        | single interface foreign => exact ih.cons interface
  have numbers := (interfaces composite.parts).map UsbInterface.number
  rw [List.map_map] at numbers
  exact composite.distinct.sublist numbers

theorem same_of_control {first second : UsbFunction}
    (firstMem : first ∈ composite.functions)
    (secondMem : second ∈ composite.functions)
    (numberEq : first.control.number = second.control.number) :
    first = second :=
  List.inj_on_of_nodup_map
    (numbers_nodup UsbFunction.control (fun _ => by simp) composite)
    firstMem secondMem numberEq

theorem same_of_data {first second : UsbFunction}
    (firstMem : first ∈ composite.functions)
    (secondMem : second ∈ composite.functions)
    (numberEq : first.data.number = second.data.number) :
    first = second :=
  List.inj_on_of_nodup_map
    (numbers_nodup UsbFunction.data (fun _ => by simp) composite)
    firstMem secondMem numberEq

/-- Behind the data interface of the last function no alternate setting is
for control or data. -/
theorem configuration_flatten {front : List UsbFunction} {last : UsbFunction}
    (functionsEq : composite.functions = front ++ [last]) :
    ∃ before after, composite.configuration.flatten =
        (before ++ last.control.alts) ++ (last.data.alts ++ after) ∧
      ∀ alt ∈ after, alt.isRndis = false ∧ alt.isData = false := by
  obtain ⟨early, rest, partsEq, -, restEq⟩ :=
    List.filterMap_eq_append_iff.mp functionsEq
  obtain ⟨between, part, late, rfl, -, partEq, lateEq⟩ :=
    List.filterMap_eq_cons_iff.mp restEq
  have lateSingle := List.filterMap_eq_nil_iff.mp lateEq
  cases part with
  | single interface foreign => cases partEq
  | function function =>
      obtain rfl := Option.some.inj partEq
      refine ⟨((early ++ between).flatMap UsbPart.interfaces).flatMap
        UsbInterface.alts, (late.flatMap UsbPart.interfaces).flatMap
          UsbInterface.alts, ?_, fun alt member => ?_⟩
      · rw [configuration, ← List.flatMap_def, partsEq]
        simp only [List.flatMap_append, List.flatMap_cons,
          UsbPart.interfaces, List.append_assoc, List.cons_append,
          List.nil_append]
      · obtain ⟨interface, interfaceMem, member⟩ := List.mem_flatMap.mp member
        obtain ⟨part, partMem, interfaceMem⟩ := List.mem_flatMap.mp interfaceMem
        cases part with
        | function function => cases lateSingle _ partMem
        | single alone foreign =>
            obtain rfl := List.mem_singleton.mp interfaceMem
            exact foreign alt member

/-- The communication interface controls an RNDIS function. -/
theorem commInterface_mem
    (selected : composite.configuration.commInterface = some comm) :
    ∃ function ∈ composite.functions, function.isRndis ∧
      function.control.number = comm := by
  have noted := List.mem_of_getLast? selected
  obtain ⟨alt, member, numberEq⟩ := List.mem_filterMap.mp noted
  rw [numberIf] at numberEq
  split at numberEq
  case isFalse => cases numberEq
  case isTrue isRndis =>
    obtain rfl := Option.some.inj numberEq
    obtain ⟨alts, altsMem, member⟩ := List.mem_flatten.mp member
    obtain ⟨interface, interfaceMem, rfl⟩ := List.mem_map.mp altsMem
    obtain ⟨part, partMem, interfaceMem⟩ := List.mem_flatMap.mp interfaceMem
    cases part with
    | single alone foreign =>
        obtain rfl := List.mem_singleton.mp interfaceMem
        simp [(foreign alt member).1] at isRndis
    | function function =>
        rcases List.mem_pair.mp interfaceMem with rfl | rfl
        · exact ⟨function, List.mem_filterMap.mpr ⟨_, partMem, rfl⟩,
            List.any_eq_true.mpr ⟨alt, member, isRndis⟩,
            (function.control.numbered alt member).symm⟩
        · have dataClass := function.data_class alt member
          simp [AltSetting.not_isRndis_of_isData dataClass] at isRndis

variable {front : List UsbFunction} {last : UsbFunction}

theorem commInterface_of_last
    (functionsEq : composite.functions = front ++ [last])
    (isRndis : last.isRndis) :
    composite.configuration.commInterface = some last.control.number := by
  obtain ⟨before, after, flat, foreign⟩ := configuration_flatten functionsEq
  have afterNumbers : after.filterMap (numberIf AltSetting.isRndis) = [] :=
    List.filterMap_eq_nil_iff.mpr fun alt member => by
      simp [numberIf, (foreign alt member).1]
  rw [Configuration.commInterface, flat, List.filterMap_append,
    List.filterMap_append, List.filterMap_append, last.data_numberIf_isRndis,
    afterNumbers, List.append_nil, List.append_nil, List.getLast?_append,
    UsbInterface.getLast?_numberIf isRndis, Option.some_or]

/-- The data interface is always that of the function that comes last. -/
theorem dataInterface_of_last
    (functionsEq : composite.functions = front ++ [last])
    (selected : composite.configuration.commInterface = some comm) :
    composite.configuration.dataInterface comm = last.data.number := by
  obtain ⟨before, after, flat, foreign⟩ := configuration_flatten functionsEq
  have afterNumbers : after.filterMap (numberIf AltSetting.isData) = [] :=
    List.filterMap_eq_nil_iff.mpr fun alt member => by
      simp [numberIf, (foreign alt member).2]
  have noted := List.mem_of_getLast? selected
  obtain ⟨alt, member, numberEq⟩ := List.mem_filterMap.mp noted
  have isRndis : alt.isRndis := by
    by_contra notRndis
    simp [numberIf, notRndis] at numberEq
  have kept : ((before ++ last.control.alts).dropWhile
      (! ·.isRndis)).isEmpty = false := by
    rw [flat] at member
    rw [List.isEmpty_eq_false_iff, ne_eq, List.dropWhile_eq_nil_iff]
    intro passed
    rcases List.mem_append.mp member with early | late
    · simpa [isRndis] using passed alt early
    · rcases List.mem_append.mp late with inData | behind
      · have dataClass := last.data_class alt inData
        simp [AltSetting.not_isRndis_of_isData dataClass] at isRndis
      · simp [(foreign alt behind).1] at isRndis
  rw [Configuration.dataInterface, flat, List.dropWhile_append, kept,
    if_neg Bool.false_ne_true, List.filterMap_append, List.filterMap_append,
    afterNumbers, List.append_nil, List.getLast?_append,
    UsbInterface.getLast?_numberIf last.data_any_isData, Option.some_or,
    Option.getD_some]

end CompositeDevice

/-- The interfaces that are claimed belong together exactly when the RNDIS
function comes last. -/
theorem claimedNumbers_ownData_iff {build : Build}
    {composite : CompositeDevice} {device : DeviceInfo}
    (active : device.activeConfiguration = some composite.configuration)
    {comm data : UInt8}
    (claimed : UsbDevice.claimedNumbers build device =
      .ok (some (comm, data))) :
    OwnData composite comm data ↔ composite.EndsWithRndis := by
  obtain ⟨selected, dataEq⟩ := UsbDevice.claimedNumbers_some active claimed
  obtain ⟨function, functionMem, isRndis, commEq⟩ :=
    composite.commInterface_mem selected
  obtain ⟨front, last, functionsEq⟩ :=
    (List.eq_nil_or_concat' composite.functions).resolve_left
      (List.ne_nil_of_mem functionMem)
  have lastMem : last ∈ composite.functions := by
    rw [functionsEq]
    simp
  have lastEq : composite.functions.getLast? = some last := by
    rw [functionsEq, List.getLast?_concat]
  rw [composite.dataInterface_of_last functionsEq selected] at dataEq
  subst dataEq
  constructor
  · intro own
    -- the last function owns the data interface, so it owns the control
    -- interface as well, which is one of an RNDIS function
    have lastComm := own.noOther last lastMem rfl
    have same := composite.same_of_control functionMem lastMem
      (commEq.trans lastComm.symm)
    exact ⟨last, lastEq, same ▸ isRndis⟩
  · rintro ⟨final, finalEq, finalRndis⟩
    obtain rfl := Option.some.inj (lastEq.symm.trans finalEq)
    rw [composite.commInterface_of_last functionsEq finalRndis] at selected
    obtain rfl := Option.some.inj selected
    refine ⟨⟨last, lastMem, rfl, rfl⟩, fun other otherMem numberEq => ?_⟩
    rw [composite.same_of_data otherMem lastMem numberEq]

theorem UsbDevice.claimedNumbers_of_tryDevice {build : Build}
    {device : DeviceInfo} {usb : UsbDevice}
    (taken : tryDevice build device = .ok (some usb)) :
    device.activeConfiguration = some usb.config ∧
      claimedNumbers build device =
        .ok (some (usb.commIface, usb.dataIface)) ∧
      usb.ifaceComm.number = usb.commIface ∧
      usb.ifaceData.map Interface.number = some usb.dataIface := by
  obtain ⟨config, comm, scan, selected, active, -, -, -, -, rfl⟩ :=
    tryDevice_some taken
  rw [tryDevice_eq] at taken
  obtain ⟨claimed, claimedEq, taken⟩ := bind_eq_ok.mp taken
  cases claimed with
  | none => cases taken
  | some numbers =>
      obtain ⟨commEq, -, dataEq, -⟩ := openClaimed_some (Except.ok.inj taken)
      refine ⟨active, ?_, rfl, rfl⟩
      rw [claimedEq, commEq, dataEq]

/-- What `find_rndis` claims of a composite device, whether it goes on to
return it or not, belongs together exactly when the RNDIS function comes
last. -/
theorem findRndis_ownData_iff (build : Build) (composite : CompositeDevice) :
    (∀ device comm data,
      device.activeConfiguration = some composite.configuration →
      UsbDevice.claimedNumbers build device = .ok (some (comm, data)) →
        (OwnData composite comm data ↔ composite.EndsWithRndis)) ∧
    ∀ deviceList usb, UsbDevice.findRndis build deviceList = .ok (.ok usb) →
      usb.config = composite.configuration →
        (OwnData composite usb.commIface usb.dataIface ↔
          composite.EndsWithRndis) ∧
        usb.ifaceComm.number = usb.commIface ∧
        usb.ifaceData.map Interface.number = some usb.dataIface := by
  refine ⟨fun device comm data active claimed =>
    claimedNumbers_ownData_iff active claimed,
    fun deviceList usb found configEq => ?_⟩
  obtain ⟨-, -, device, -, taken⟩ := UsbDevice.findRndis_some found
  obtain ⟨active, claimed, held⟩ :=
    UsbDevice.claimedNumbers_of_tryDevice taken
  rw [configEq] at active
  exact ⟨claimedNumbers_ownData_iff active claimed, held⟩

/-- An RNDIS function, a debugger and a serial port. -/
def tetherWithSerial : CompositeDevice where
  parts :=
    [.function
      { control := ⟨0, [⟨0, 0, 0xE0, 0x01, 0x03, [⟨0x82, .interrupt⟩]⟩],
          by decide⟩
        data := ⟨1, [⟨1, 0, 0x0A, 0x00, 0x00,
          [⟨0x81, .bulk⟩, ⟨0x01, .bulk⟩]⟩], by decide⟩
        data_ne_nil := by decide
        data_class := by decide },
      .single ⟨2, [⟨2, 0, 0xFF, 0x42, 0x01,
        [⟨0x83, .bulk⟩, ⟨0x02, .bulk⟩]⟩], by decide⟩ (by decide),
      .function
      { control := ⟨3, [⟨3, 0, 0x02, 0x02, 0x01, [⟨0x85, .interrupt⟩]⟩],
          by decide⟩
        data := ⟨4, [⟨4, 0, 0x0A, 0x00, 0x00,
          [⟨0x84, .bulk⟩, ⟨0x03, .bulk⟩]⟩], by decide⟩
        data_ne_nil := by decide
        data_class := by decide }]
  distinct := by decide

theorem tetherWithSerial_claimed :
    UsbDevice.claimedNumbers .release
        (plainDevice tetherWithSerial.configuration) = .ok (some (0, 4)) ∧
      (OwnData tetherWithSerial 0 4 ↔ tetherWithSerial.EndsWithRndis) ∧
      ∃ usb, UsbDevice.findRndis .release
        (.ok [plainDevice tetherWithSerial.configuration]) = .ok (.ok usb) ∧
        (OwnData tetherWithSerial usb.commIface usb.dataIface ↔
          tetherWithSerial.EndsWithRndis) ∧
        usb.ifaceComm.number = usb.commIface ∧
        usb.ifaceData.map Interface.number = some usb.dataIface := by
  have both := findRndis_ownData_iff .release tetherWithSerial
  refine ⟨rfl, both.1 (plainDevice tetherWithSerial.configuration) 0 4 rfl rfl,
    ?_⟩
  obtain ⟨usb, found, configEq⟩ : ∃ usb, UsbDevice.findRndis .release
      (.ok [plainDevice tetherWithSerial.configuration]) = .ok (.ok usb) ∧
        usb.config = tetherWithSerial.configuration :=
    ⟨_, rfl, rfl⟩
  exact ⟨usb, found, both.2 _ usb found configEq⟩

/-- The serial port's data interface is taken for the tether's. -/
theorem tetherWithSerial_not_ownData :
    ∃ usb, UsbDevice.findRndis .release
        (.ok [plainDevice tetherWithSerial.configuration]) = .ok (.ok usb) ∧
      usb.config = tetherWithSerial.configuration ∧
      usb.commIface = 0 ∧ usb.dataIface = 4 ∧
      ¬ OwnData tetherWithSerial usb.commIface usb.dataIface := by
  refine ⟨_, rfl, rfl, rfl, rfl, fun own => ?_⟩
  exact absurd own.following (by decide)

end AndroidTether
