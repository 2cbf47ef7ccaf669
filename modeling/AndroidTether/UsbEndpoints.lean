import AndroidTether.UsbDevice
import Mathlib.Data.List.TakeWhile

/-!
# Usable endpoints

Which addresses `find_rndis` stores, and when `take_endpoints` can open them.
The scans are read as "the last match", so that the addresses stored are a
function of the descriptors; what remains is to compare the alternate setting
they come from with the one that is selected.
-/

namespace AndroidTether

open Checked

/-- The address of a bulk endpoint of a direction. -/
def EndpointDescriptor.bulkAddress (dir : Direction)
    (endpoint : EndpointDescriptor) : Option UInt8 :=
  if endpoint.transferType = .bulk ∧ endpoint.address &&& 0x80 = dir.bit then
    some endpoint.address
  else none

/-- The bulk endpoints of a direction in the given alternate settings. -/
def bulkAddresses (dir : Direction) (alts : List AltSetting) : List UInt8 :=
  (alts.flatMap (·.endpoints)).filterMap (·.bulkAddress dir)

/-- The number of an interface that `accepts` takes. -/
def numberIf (accepts : AltSetting → Bool) (alt : AltSetting) : Option UInt8 :=
  if accepts alt then some alt.interfaceNumber else none

namespace Configuration

/-- The alternate settings of the communication and the data interface. -/
def ofInterfaces (config : Configuration) (comm data : UInt8) :
    List AltSetting :=
  config.flatten.filter fun alt =>
    alt.interfaceNumber = comm ∨ alt.interfaceNumber = data

/-- An alternate setting of an interface. -/
def settings (config : Configuration) (number setting : UInt8) :
    List AltSetting :=
  config.flatten.filter fun alt =>
    alt.interfaceNumber = number ∧ alt.alternateSetting = setting

/-- The communication interface: the last one that looks like RNDIS. -/
def commInterface (config : Configuration) : Option UInt8 :=
  (config.flatten.filterMap (numberIf AltSetting.isRndis)).getLast?

/-- The data interface: the last one of its class that comes behind an RNDIS
interface, or the number behind the communication interface. -/
def dataInterface (config : Configuration) (comm : UInt8) : UInt8 :=
  ((config.flatten.dropWhile (! ·.isRndis)).filterMap
    (numberIf AltSetting.isData)).getLast?.getD (comm + 1)

/-- The last bulk endpoint of a direction on the two interfaces, whatever the
alternate setting. -/
def lastBulk (config : Configuration) (comm data : UInt8) (dir : Direction) :
    Option UInt8 :=
  (bulkAddresses dir (config.ofInterfaces comm data)).getLast?

end Configuration

/-- The scanned address of a direction. -/
def EndpointScan.get (scan : EndpointScan) : Direction → UInt8
  | .input => scan.epIn
  | .output => scan.epOut

theorem direction_cases (address : UInt8) :
    address &&& 0x80 = 0x80 ∨ address &&& 0x80 = 0x00 := by
  have bit := BitVec.and_twoPow address.toBitVec 7
  split at bit
  · exact .inl (UInt8.eq_of_toBitVec_eq bit)
  · exact .inr (UInt8.eq_of_toBitVec_eq bit)

theorem EndpointScan.visit_get (isComm : Bool) (scan : EndpointScan)
    (endpoint : EndpointDescriptor) (dir : Direction) :
    (scan.visit isComm endpoint).get dir =
      (endpoint.bulkAddress dir).getD (scan.get dir) := by
  obtain ⟨address, transferType⟩ := endpoint
  rcases direction_cases address with isInput | isOutput
  · cases dir <;> cases transferType <;> cases isComm <;>
      simp [visit, EndpointDescriptor.bulkAddress, get, Direction.bit, isInput]
  · cases dir <;> cases transferType <;> cases isComm <;>
      simp [visit, EndpointDescriptor.bulkAddress, get, Direction.bit, isOutput]

theorem EndpointScan.revisit_get (scan : EndpointScan)
    (endpoint : EndpointDescriptor) (dir : Direction) :
    (scan.revisit endpoint).get dir =
      (endpoint.bulkAddress dir).getD (scan.get dir) := by
  obtain ⟨address, transferType⟩ := endpoint
  rcases direction_cases address with isInput | isOutput
  · cases dir <;> cases transferType <;>
      simp [revisit, EndpointDescriptor.bulkAddress, get, Direction.bit,
        isInput]
  · cases dir <;> cases transferType <;>
      simp [revisit, EndpointDescriptor.bulkAddress, get, Direction.bit,
        isOutput]

theorem foldl_guarded {σ : Type} (skips : AltSetting → Prop)
    [DecidablePred skips] (scan : AltSetting → σ → EndpointDescriptor → σ)
    (config : Configuration) (state : σ) :
    config.foldl
        (fun state ifaces => ifaces.foldl
          (fun state alt =>
            if skips alt then state else alt.endpoints.foldl (scan alt) state)
          state)
        state =
      (config.flatten.filter fun alt => ¬ skips alt).foldl
        (fun state alt => alt.endpoints.foldl (scan alt) state) state := by
  rw [List.foldl_filter, List.foldl_flatten]
  congr 1
  funext state ifaces
  congr 1
  funext state alt
  by_cases skipped : skips alt <;> simp [skipped]

/-- The first scan ends with the last bulk endpoints of both interfaces. -/
theorem scanEndpoints_get (config : Configuration) (comm data : UInt8)
    (dir : Direction) :
    (scanEndpoints config comm data).get dir =
      (config.lastBulk comm data dir).getD 0 := by
  have visited : (config.flatten.filter fun alt =>
      ¬ (alt.interfaceNumber ≠ comm ∧ alt.interfaceNumber ≠ data)) =
      config.ofInterfaces comm data :=
    List.filter_congr fun alt _ => by
      simp only [ne_eq, not_and_or, not_not]
  have start : EndpointScan.get ⟨0, 0, 0⟩ dir = 0 := by
    cases dir <;> rfl
  have last := @foldl_foldl_eq_lastAssigned _ _ _ (·.bulkAddress dir) _
    (EndpointScan.get · dir) (fun alt => .visit (alt.interfaceNumber = comm))
    AltSetting.endpoints
    (fun alt scan endpoint => scan.visit_get _ endpoint dir) ⟨0, 0, 0⟩
    (config.ofInterfaces comm data)
  rw [start] at last
  rw [scanEndpoints, foldl_guarded, visited]
  exact last

/-- The second scan prefers those of the alternate setting 1. -/
theorem rescanEndpoints_get (config : Configuration) (data : UInt8)
    (scan : EndpointScan) (dir : Direction) :
    (rescanEndpoints config data scan).get dir =
      (bulkAddresses dir (config.settings data 1)).getLast?.getD
        (scan.get dir) := by
  have visited : (config.flatten.filter fun alt =>
      ¬ (alt.interfaceNumber ≠ data ∨ alt.alternateSetting ≠ 1)) =
      config.settings data 1 :=
    List.filter_congr fun alt _ => by
      simp only [ne_eq, not_or, not_not]
  rw [rescanEndpoints, foldl_guarded, visited]
  exact @foldl_foldl_eq_lastAssigned _ _ _ (·.bulkAddress dir) _
    (EndpointScan.get · dir) (fun _ => .revisit) AltSetting.endpoints
    (fun _ scan endpoint => scan.revisit_get endpoint dir) scan
    (config.settings data 1)

namespace InterfaceScan

theorem visit_comm (scan : InterfaceScan) (alt : AltSetting) :
    (scan.visit alt).comm = (numberIf AltSetting.isRndis alt).or scan.comm := by
  by_cases isRndis : alt.isRndis <;> simp [visit, numberIf, isRndis]

theorem visit_data {scan : InterfaceScan} {alt : AltSetting}
    (found : (scan.visit alt).comm.isSome) :
    (scan.visit alt).data = (numberIf AltSetting.isData alt).or scan.data := by
  have noted : (scan.visit alt).data =
      if alt.isData ∧ (scan.visit alt).comm.isSome then
        some alt.interfaceNumber
      else scan.data := rfl
  rw [noted]
  by_cases isData : alt.isData <;> simp [numberIf, isData, found]

theorem visit_found {scan : InterfaceScan} (alt : AltSetting)
    (found : scan.comm.isSome) : (scan.visit alt).comm.isSome := by
  rw [visit_comm]
  simp [found]

theorem foldl_visit_comm (scan : InterfaceScan) (alts : List AltSetting) :
    (alts.foldl .visit scan).comm =
      (alts.filterMap (numberIf AltSetting.isRndis)).getLast?.or scan.comm :=
  @foldl_eq_getLast? _ _ _ _ InterfaceScan.comm _ (fun _ => True)
    (fun _ _ _ => trivial) (fun scan alt _ => scan.visit_comm alt) scan
    trivial alts

theorem foldl_visit_data {scan : InterfaceScan} (found : scan.comm.isSome)
    (alts : List AltSetting) :
    (alts.foldl .visit scan).data =
      (alts.filterMap (numberIf AltSetting.isData)).getLast?.or scan.data :=
  @foldl_eq_getLast? _ _ _ _ InterfaceScan.data _ (·.comm.isSome)
    (fun _ alt found => visit_found alt found)
    (fun _ alt found => visit_data (visit_found alt found)) scan found alts

theorem foldl_visit_before {alts : List AltSetting}
    (before : ∀ alt ∈ alts, alt.isRndis = false) :
    alts.foldl .visit (⟨none, none⟩ : InterfaceScan) = ⟨none, none⟩ := by
  induction alts with
  | nil => rfl
  | cons alt alts ih =>
      have first := before alt List.mem_cons_self
      have passed : visit ⟨none, none⟩ alt = ⟨none, none⟩ := by
        simp [visit, first]
      rw [List.foldl_cons, passed]
      exact ih fun later member => before later (List.mem_cons_of_mem alt member)

end InterfaceScan

theorem scanInterfaces_eq (config : Configuration) :
    scanInterfaces config = config.flatten.foldl .visit ⟨none, none⟩ :=
  List.foldl_flatten.symm

theorem scanInterfaces_comm (config : Configuration) :
    (scanInterfaces config).comm = config.commInterface := by
  rw [scanInterfaces_eq, InterfaceScan.foldl_visit_comm, Option.or_none]
  rfl

/-- The scan notes the data interface that the descriptors name. -/
theorem scanInterfaces_data (config : Configuration) (comm : UInt8) :
    (scanInterfaces config).data.getD (comm + 1) =
      config.dataInterface comm := by
  have cut : config.flatten.takeWhile (! ·.isRndis) ++
      config.flatten.dropWhile (! ·.isRndis) = config.flatten :=
    List.takeWhile_append_dropWhile
  have before : ∀ alt ∈ config.flatten.takeWhile (! ·.isRndis),
      alt.isRndis = false := by
    intro alt member
    simpa using List.mem_takeWhile_imp member
  rw [scanInterfaces_eq, ← cut, List.foldl_append,
    InterfaceScan.foldl_visit_before before, Configuration.dataInterface]
  refine congrArg (Option.getD · (comm + 1)) ?_
  cases behind : config.flatten.dropWhile (! ·.isRndis) with
  | nil => rfl
  | cons first alts =>
      have isRndis : first.isRndis = true := by
        have stopped := List.head?_dropWhile_not (! ·.isRndis) config.flatten
        rw [behind] at stopped
        simpa using stopped
      have found : (InterfaceScan.visit ⟨none, none⟩ first).comm.isSome := by
        simp [InterfaceScan.visit_comm, numberIf, isRndis]
      rw [List.foldl_cons, InterfaceScan.foldl_visit_data found,
        InterfaceScan.visit_data found, Option.or_none,
        getLast?_filterMap_cons]

namespace UsbDevice

/-- The number of the data interface is that of the scan or the next one. -/
theorem dataInterface_of_scan {build : Build} {config : Configuration}
    {comm data : UInt8}
    (numbered : dataIfaceOf build comm (scanInterfaces config).data =
      .ok data) :
    data = config.dataInterface comm := by
  rw [← scanInterfaces_data config comm]
  cases noted : (scanInterfaces config).data with
  | none =>
      rw [noted] at numbered
      exact Build.addU8_eq_ok numbered
  | some number =>
      rw [noted] at numbered
      exact (Except.ok.inj numbered).symm

/-- What a device that is taken looks like. -/
theorem tryDevice_some {build : Build} {device : DeviceInfo} {usb : UsbDevice}
    (taken : tryDevice build device = .ok (some usb)) :
    ∃ config comm scan selected,
      device.activeConfiguration = some config ∧
      config.commInterface = some comm ∧
      chooseEndpoints device config comm (config.dataInterface comm) =
        (scan, selected) ∧
      scan.epIn ≠ 0 ∧ scan.epOut ≠ 0 ∧
      usb =
        { config := config
          ifaceComm := ⟨comm, 0⟩
          ifaceData := some ⟨config.dataInterface comm, selected⟩
          epInAddr := scan.epIn
          epOutAddr := scan.epOut
          epIntAddr := scan.epInt
          commIface := comm
          dataIface := config.dataInterface comm } := by
  rw [tryDevice] at taken
  split at taken
  case isTrue => cases taken
  case isFalse =>
    cases active : device.activeConfiguration with
    | none => simp [active] at taken
    | some config =>
        simp only [active] at taken
        cases commEq : (scanInterfaces config).comm with
        | none => simp [commEq] at taken
        | some comm =>
            simp only [commEq] at taken
            obtain ⟨data, numbered, taken⟩ := bind_eq_ok.mp taken
            obtain rfl := dataInterface_of_scan numbered
            split at taken
            case isTrue => cases taken
            case isFalse =>
              split at taken
              case isTrue => cases taken
              case isFalse =>
                cases chosen : chooseEndpoints device config comm
                  (config.dataInterface comm) with
                | mk scan selected =>
                    simp only [chosen] at taken
                    split at taken
                    case isFalse => cases taken
                    case isTrue nonzero =>
                      cases taken
                      rw [scanInterfaces_comm] at commEq
                      exact ⟨config, comm, scan, selected, rfl, commEq, chosen,
                        nonzero.1, nonzero.2, rfl⟩

/-- The device that is returned is one of the list. -/
theorem findRndis_some {build : Build}
    {deviceList : Except TetherError (List DeviceInfo)} {usb : UsbDevice}
    (found : findRndis build deviceList = .ok (.ok usb)) :
    ∃ devices, deviceList = .ok devices ∧
      ∃ device ∈ devices, tryDevice build device = .ok (some usb) := by
  cases deviceList with
  | error err => cases found
  | ok devices =>
      refine ⟨devices, rfl, ?_⟩
      change tryDevices build devices = _ at found
      induction devices with
      | nil => cases found
      | cons device devices ih =>
          obtain ⟨tried, triedEq, found⟩ := bind_eq_ok.mp found
          cases tried with
          | some chosen =>
              cases found
              exact ⟨device, List.mem_cons_self, triedEq⟩
          | none =>
              obtain ⟨later, member, taken⟩ := ih found
              exact ⟨later, List.mem_cons_of_mem device member, taken⟩

end UsbDevice

theorem mem_bulkAddresses {dir : Direction} {alts : List AltSetting}
    {address : UInt8} :
    address ∈ bulkAddresses dir alts ↔
      ∃ alt ∈ alts, ∃ endpoint ∈ alt.endpoints,
        endpoint.transferType = .bulk ∧
        endpoint.address &&& 0x80 = dir.bit ∧ endpoint.address = address := by
  simp only [bulkAddresses, List.mem_filterMap, List.mem_flatMap,
    EndpointDescriptor.bulkAddress, Option.ite_none_right_eq_some,
    Option.some.injEq, and_assoc]
  constructor
  · rintro ⟨endpoint, ⟨alt, altMem, endpointMem⟩, bulk⟩
    exact ⟨alt, altMem, endpoint, endpointMem, bulk⟩
  · rintro ⟨alt, altMem, endpoint, endpointMem, bulk⟩
    exact ⟨endpoint, ⟨alt, altMem, endpointMem⟩, bulk⟩

/-- `Interface::endpoint` opens exactly the unused bulk endpoints of the
alternate setting that is selected. -/
def OpensSelected
    (endpoint :
      Configuration → Interface → List UInt8 → Direction → UInt8 → Bool) :
    Prop :=
  ∀ config iface used dir address,
    endpoint config iface used dir address = true ↔
      address ∈ bulkAddresses dir (config.settings iface.number iface.selected) ∧
        address ∉ used

/-- What the data path relies on: the stored addresses are bulk endpoints of
the claimed data interface in the alternate setting that is selected, and
`take_endpoints` opens them. -/
structure EndpointsUsable
    (endpoint :
      Configuration → Interface → List UInt8 → Direction → UInt8 → Bool)
    (usb : UsbDevice) : Prop where
  claimed : usb.bulkIface.number = usb.dataIface
  epIn : usb.epInAddr ∈ bulkAddresses .input
    (usb.config.settings usb.bulkIface.number usb.bulkIface.selected)
  epOut : usb.epOutAddr ∈ bulkAddresses .output
    (usb.config.settings usb.bulkIface.number usb.bulkIface.selected)
  taken : usb.takeEndpoints endpoint = .ok (usb.epInAddr, usb.epOutAddr)

/-- Descriptors for which the scan finds endpoints of the alternate setting
that will be selected: the last bulk endpoints of the two interfaces belong to
setting 0 of the data interface.  If the last bulk OUT endpoint has the
(illegal) address 0, setting 1 is selected and has to have a bulk IN
endpoint. -/
def EndpointsPlaced (config : Configuration) : Prop :=
  ∀ comm ∈ config.commInterface,
    if config.lastBulk comm (config.dataInterface comm) .output = some 0 then
      bulkAddresses .input
        (config.settings (config.dataInterface comm) 1) ≠ []
    else
      ∀ dir, ∀ address ∈ config.lastBulk comm (config.dataInterface comm) dir,
        address ∈ bulkAddresses dir
          (config.settings (config.dataInterface comm) 0)

theorem mem_bulkAddresses_bit {dir : Direction} {alts : List AltSetting}
    {address : UInt8} (member : address ∈ bulkAddresses dir alts) :
    address &&& 0x80 = dir.bit := by
  obtain ⟨alt, -, endpoint, -, -, bit, rfl⟩ := mem_bulkAddresses.mp member
  exact bit

theorem bulkAddresses_settings_subset (config : Configuration)
    (comm data setting : UInt8) (dir : Direction) :
    bulkAddresses dir (config.settings data setting) ⊆
      bulkAddresses dir (config.ofInterfaces comm data) := by
  intro address member
  obtain ⟨alt, altMem, bulk⟩ := mem_bulkAddresses.mp member
  obtain ⟨present, matching⟩ := List.mem_filter.mp altMem
  refine mem_bulkAddresses.mpr ⟨alt, List.mem_filter.mpr ⟨present, ?_⟩, bulk⟩
  simp only [decide_eq_true_eq] at matching ⊢
  exact .inr matching.1

theorem settings_nil_of_lastBulk_none {config : Configuration}
    {comm data : UInt8} {dir : Direction}
    (missing : config.lastBulk comm data dir = none) (setting : UInt8) :
    bulkAddresses dir (config.settings data setting) = [] := by
  have nothing := List.getLast?_eq_none_iff.mp missing
  have subset := bulkAddresses_settings_subset config comm data setting dir
  rw [nothing] at subset
  exact List.eq_nil_of_subset_nil subset

theorem lastBulk_of_get_ne_zero {config : Configuration} {comm data : UInt8}
    {dir : Direction} (nonzero : (scanEndpoints config comm data).get dir ≠ 0) :
    config.lastBulk comm data dir =
      some ((scanEndpoints config comm data).get dir) := by
  rw [scanEndpoints_get] at nonzero ⊢
  cases last : config.lastBulk comm data dir with
  | none => simp [last] at nonzero
  | some address => rfl

/-- A direction that the first scan misses has to be found by the second
one. -/
theorem settings_ne_nil_of_rescan {config : Configuration} {data : UInt8}
    {scan : EndpointScan} {dir : Direction} (missing : scan.get dir = 0)
    (nonzero : (rescanEndpoints config data scan).get dir ≠ 0) :
    bulkAddresses dir (config.settings data 1) ≠ [] := by
  intro nothing
  rw [rescanEndpoints_get, nothing] at nonzero
  exact nonzero missing

theorem rescan_mem {config : Configuration} {data : UInt8}
    {scan : EndpointScan} {dir : Direction}
    (present : bulkAddresses dir (config.settings data 1) ≠ []) :
    (rescanEndpoints config data scan).get dir ∈
      bulkAddresses dir (config.settings data 1) := by
  rw [rescanEndpoints_get, List.getLast?_eq_some_getLast present]
  exact List.getLast_mem present

/-- What the first scan missed although the second one finds it is the
address 0, which is no input address. -/
theorem lastBulk_of_missing {config : Configuration} {comm data : UInt8}
    {dir : Direction} (missing : (scanEndpoints config comm data).get dir = 0)
    (nonzero : (rescanEndpoints config data
      (scanEndpoints config comm data)).get dir ≠ 0) :
    dir = .output ∧ config.lastBulk comm data dir = some 0 := by
  have present := settings_ne_nil_of_rescan missing nonzero
  rw [scanEndpoints_get] at missing
  cases last : config.lastBulk comm data dir with
  | none => exact absurd (settings_nil_of_lastBulk_none last 1) present
  | some address =>
      rw [last] at missing
      obtain rfl : address = 0 := missing
      have bit := mem_bulkAddresses_bit (List.mem_of_getLast? last)
      cases dir with
      | input => exact absurd bit (by decide)
      | output => exact ⟨rfl, rfl⟩

/-- The endpoints that are chosen lie in the alternate setting that is
selected exactly for the descriptors that are placed so. -/
theorem chosen_mem_iff {device : DeviceInfo} {config : Configuration}
    {comm data selected : UInt8} {scan : EndpointScan}
    (chosen : chooseEndpoints device config comm data = (scan, selected))
    (nonzero : ∀ dir, scan.get dir ≠ 0) :
    (∀ dir, scan.get dir ∈
        bulkAddresses dir (config.settings data selected)) ↔
      if config.lastBulk comm data .output = some 0 then
        bulkAddresses .input (config.settings data 1) ≠ []
      else
        ∀ dir, ∀ address ∈ config.lastBulk comm data dir,
          address ∈ bulkAddresses dir (config.settings data 0) := by
  rw [chooseEndpoints] at chosen
  split at chosen
  case isFalse found =>
    -- both directions were found: setting 0 stays selected
    simp only [Prod.mk.injEq] at chosen
    obtain ⟨rfl, rfl⟩ := chosen
    have last (dir : Direction) := lastBulk_of_get_ne_zero (nonzero dir)
    have legal : config.lastBulk comm data .output ≠ some 0 := by
      rw [last .output]
      exact fun zero => nonzero .output (Option.some.inj zero)
    rw [if_neg legal]
    refine forall_congr' fun dir => ?_
    rw [last dir]
    simp
  case isTrue missing =>
    have notFirst : scan ≠ scanEndpoints config comm data := by
      rintro rfl
      exact missing.elim (nonzero .input) (nonzero .output)
    split at chosen
    case isFalse => exact absurd (Prod.mk.inj chosen).1.symm notFirst
    case isTrue =>
      split at chosen
      case isFalse => exact absurd (Prod.mk.inj chosen).1.symm notFirst
      case isTrue =>
        simp only [Prod.mk.injEq] at chosen
        obtain ⟨rfl, rfl⟩ := chosen
        have illegal : config.lastBulk comm data .output = some 0 := by
          rcases missing with noInput | noOutput
          · cases (@lastBulk_of_missing _ comm _ .input noInput
              (nonzero .input)).1
          · exact (@lastBulk_of_missing _ comm _ .output noOutput
              (nonzero .output)).2
        have noOutput : (scanEndpoints config comm data).get .output = 0 := by
          rw [scanEndpoints_get, illegal]
          rfl
        rw [if_pos illegal]
        constructor
        · intro selected
          exact List.ne_nil_of_mem (selected .input)
        · intro present dir
          cases dir with
          | input => exact rescan_mem present
          | output =>
              exact rescan_mem
                (settings_ne_nil_of_rescan noOutput (nonzero .output))

theorem expectEndpoint_eq_ok {opened : Bool} {address taken : UInt8} :
    UsbDevice.expectEndpoint opened address = .ok taken ↔
      opened = true ∧ address = taken := by
  cases opened <;> simp [UsbDevice.expectEndpoint]

theorem takeEndpoints_eq_ok_iff
    {endpoint :
      Configuration → Interface → List UInt8 → Direction → UInt8 → Bool}
    (opens : OpensSelected endpoint) {usb : UsbDevice} :
    usb.takeEndpoints endpoint = .ok (usb.epInAddr, usb.epOutAddr) ↔
      usb.epInAddr ∈ bulkAddresses .input (usb.config.settings
          usb.bulkIface.number usb.bulkIface.selected) ∧
        usb.epOutAddr ∈ bulkAddresses .output (usb.config.settings
          usb.bulkIface.number usb.bulkIface.selected) := by
  have opened : usb.takeEndpoints endpoint =
        .ok (usb.epInAddr, usb.epOutAddr) ↔
      endpoint usb.config usb.bulkIface [] .input usb.epInAddr = true ∧
        endpoint usb.config usb.bulkIface [usb.epInAddr] .output
          usb.epOutAddr = true := by
    simp [UsbDevice.takeEndpoints, bind_eq_ok, expectEndpoint_eq_ok]
  rw [opened, opens, opens]
  constructor
  · rintro ⟨⟨inputMem, -⟩, outputMem, -⟩
    exact ⟨inputMem, outputMem⟩
  · rintro ⟨inputMem, outputMem⟩
    refine ⟨⟨inputMem, List.not_mem_nil⟩, outputMem, fun used => ?_⟩
    -- the direction bits tell the two addresses apart
    have inputBit := mem_bulkAddresses_bit inputMem
    rw [← List.mem_singleton.mp used, mem_bulkAddresses_bit outputMem]
      at inputBit
    exact absurd inputBit (by decide)

/-- The endpoints that `find_rndis` stores can be used exactly when the
descriptors of the device place them so. -/
theorem endpointsUsable_iff
    {endpoint :
      Configuration → Interface → List UInt8 → Direction → UInt8 → Bool}
    (opens : OpensSelected endpoint) {build : Build}
    {deviceList : Except TetherError (List DeviceInfo)} {usb : UsbDevice}
    (found : UsbDevice.findRndis build deviceList = .ok (.ok usb)) :
    (∃ devices, deviceList = .ok devices ∧
        ∃ device ∈ devices, device.activeConfiguration = some usb.config) ∧
      (EndpointsUsable endpoint usb ↔ EndpointsPlaced usb.config) := by
  obtain ⟨devices, listed, device, member, tried⟩ :=
    UsbDevice.findRndis_some found
  obtain ⟨config, comm, scan, selected, active, commEq, chosen, inNonzero,
    outNonzero, rfl⟩ := UsbDevice.tryDevice_some tried
  have nonzero (dir : Direction) : scan.get dir ≠ 0 := by
    cases dir with
    | input => exact inNonzero
    | output => exact outNonzero
  have members := chosen_mem_iff chosen nonzero
  refine ⟨⟨devices, listed, device, member, active⟩, ?_⟩
  constructor
  · intro usable found commEq'
    rw [commEq] at commEq'
    cases commEq'
    refine members.mp fun dir => ?_
    cases dir with
    | input => exact usable.epIn
    | output => exact usable.epOut
  · intro placed
    have memberOf := members.mpr (placed comm commEq)
    exact
      { claimed := rfl
        epIn := memberOf .input
        epOut := memberOf .output
        taken := (takeEndpoints_eq_ok_iff opens).mpr
          ⟨memberOf .input, memberOf .output⟩ }

/-- The opening function that the contract describes. -/
def openSelected (config : Configuration) (iface : Interface)
    (used : List UInt8) (dir : Direction) (address : UInt8) : Bool :=
  address ∈ bulkAddresses dir (config.settings iface.number iface.selected) ∧
    address ∉ used

theorem openSelected_opens : OpensSelected openSelected := by
  intro config iface used dir address
  simp [openSelected]

/-- A device on which every call succeeds. -/
def plainDevice (config : Configuration) : DeviceInfo where
  opens := true
  activeConfiguration := some config
  detachesAndClaims _ := true
  claims _ := true
  setsAltSetting _ _ := true
  configurationAgain := true

/-- A phone whose RNDIS function has its bulk endpoints in the only alternate
setting. -/
def rndisPhone : Configuration :=
  [[⟨0, 0, 0xE0, 0x01, 0x03, [⟨0x82, .interrupt⟩]⟩],
    [⟨1, 0, 0x0A, 0x00, 0x00, [⟨0x81, .bulk⟩, ⟨0x01, .bulk⟩]⟩]]

theorem rndisPhone_usable :
    ∃ usb, UsbDevice.findRndis .debug (.ok [plainDevice rndisPhone]) =
        .ok (.ok usb) ∧ EndpointsUsable openSelected usb := by
  have returned : ∃ usb, UsbDevice.findRndis .debug
      (.ok [plainDevice rndisPhone]) = .ok (.ok usb) ∧
        usb.config = rndisPhone :=
    ⟨_, rfl, rfl⟩
  obtain ⟨usb, found, configEq⟩ := returned
  refine ⟨usb, found, (endpointsUsable_iff openSelected_opens found).2.mpr ?_⟩
  rw [configEq]
  rintro comm ⟨⟩
  rw [if_neg (by decide)]
  rintro (_ | _) address ⟨⟩ <;> decide

/-- A phone with an NCM function, whose data interface has its endpoints in
the alternate setting 1, as the class demands. -/
def ncmPhone : Configuration :=
  [[⟨0, 0, 0x02, 0x0D, 0x00, [⟨0x82, .interrupt⟩]⟩],
    [⟨1, 0, 0x0A, 0x00, 0x01, []⟩,
      ⟨1, 1, 0x0A, 0x00, 0x01, [⟨0x81, .bulk⟩, ⟨0x01, .bulk⟩]⟩]]

/-- Its endpoints are found in the setting that is never selected, and
`take_endpoints` panics. -/
theorem ncmPhone_not_usable :
    OpensSelected openSelected ∧
      ∃ usb, UsbDevice.findRndis .debug (.ok [plainDevice ncmPhone]) =
          .ok (.ok usb) ∧
        usb.takeEndpoints openSelected = .error .unwrapNone ∧
        ¬ EndpointsUsable openSelected usb := by
  refine ⟨openSelected_opens, _, rfl, by decide, fun usable => ?_⟩
  exact absurd usable.taken (by decide)

end AndroidTether
