import AndroidTether.LastWins
import AndroidTether.NetTypes

/-!
# Finding the device

`UsbDevice::find_rndis` and `take_endpoints` of `usb_device.rs` over arbitrary
device lists and configuration descriptors.  Interfaces and endpoints are
found by loops that overwrite a variable at every match, over all alternate
settings; which alternate setting is selected is decided afterwards.
-/

namespace AndroidTether

open Checked

inductive TransferType
  | control
  | isochronous
  | bulk
  | interrupt
  deriving DecidableEq

/-- The type parameters `In` and `Out` of an endpoint. -/
inductive Direction
  | input
  | output
  deriving DecidableEq

/-- The direction bit of an address. -/
def Direction.bit : Direction → UInt8
  | input => 0x80
  | output => 0x00

structure EndpointDescriptor where
  address : UInt8
  transferType : TransferType
  deriving DecidableEq

structure AltSetting where
  interfaceNumber : UInt8
  alternateSetting : UInt8
  classCode : UInt8
  subclass : UInt8
  protocol : UInt8
  endpoints : List EndpointDescriptor
  deriving DecidableEq

/-- The interfaces of a configuration, each with its alternate settings. -/
abbrev Configuration := List (List AltSetting)

/-- A device of the list: its active configuration, and which of the calls on
it succeed. -/
structure DeviceInfo where
  opens : Bool
  activeConfiguration : Option Configuration
  /-- `detach_and_claim_interface` -/
  detachesAndClaims : UInt8 → Bool
  /-- `claim_interface` -/
  claims : UInt8 → Bool
  /-- `set_alt_setting` on an interface -/
  setsAltSetting : UInt8 → UInt8 → Bool
  /-- Whether the configuration can be read once more. -/
  configurationAgain : Bool

/-- A claimed interface with the alternate setting that is selected. -/
structure Interface where
  number : UInt8
  selected : UInt8
  deriving DecidableEq

structure UsbDevice where
  /-- The configuration of `_device`. -/
  config : Configuration
  ifaceComm : Interface
  ifaceData : Option Interface
  epInAddr : UInt8
  epOutAddr : UInt8
  epIntAddr : UInt8
  commIface : UInt8
  dataIface : UInt8
  deriving DecidableEq

namespace UsbDevice

def isRndisInterface (classCode subclass protocol : UInt8) : Bool :=
  [(0xE0, 0x01, 0x03), (0x02, 0x02, 0x03), (0x02, 0xFF, 0x03),
    (0xFF, 0x01, 0x03), (0x02, 0x0D, 0x00), (0x02, 0x06, 0x00)].contains
    (classCode, subclass, protocol)

def isDataInterface (classCode _subclass _protocol : UInt8) : Bool :=
  classCode = 0x0A

end UsbDevice

namespace AltSetting

def isRndis (alt : AltSetting) : Bool :=
  UsbDevice.isRndisInterface alt.classCode alt.subclass alt.protocol

def isData (alt : AltSetting) : Bool :=
  UsbDevice.isDataInterface alt.classCode alt.subclass alt.protocol

end AltSetting

/-- `comm_iface` and `data_iface` during the scan of the interfaces. -/
structure InterfaceScan where
  comm : Option UInt8
  data : Option UInt8

def InterfaceScan.visit (scan : InterfaceScan) (alt : AltSetting) :
    InterfaceScan :=
  let comm := if alt.isRndis then some alt.interfaceNumber else scan.comm
  let data :=
    if alt.isData ∧ comm.isSome then some alt.interfaceNumber else scan.data
  ⟨comm, data⟩

def scanInterfaces (config : Configuration) : InterfaceScan :=
  config.foldl (fun scan ifaces => ifaces.foldl .visit scan) ⟨none, none⟩

/-- The endpoint addresses during the scan of the endpoints. -/
structure EndpointScan where
  epIn : UInt8
  epOut : UInt8
  epInt : UInt8
  deriving DecidableEq

namespace EndpointScan

/-- One endpoint of the communication or of the data interface. -/
def visit (isComm : Bool) (scan : EndpointScan) (endpoint : EndpointDescriptor) :
    EndpointScan :=
  let dir := endpoint.address &&& 0x80
  if endpoint.transferType = .interrupt ∧ isComm then
    { scan with epInt := endpoint.address }
  else if endpoint.transferType = .bulk ∧ dir = 0x80 then
    { scan with epIn := endpoint.address }
  else if endpoint.transferType = .bulk ∧ dir = 0x00 then
    { scan with epOut := endpoint.address }
  else scan

/-- One endpoint of the alternate setting that was selected. -/
def revisit (scan : EndpointScan) (endpoint : EndpointDescriptor) :
    EndpointScan :=
  let dir := endpoint.address &&& 0x80
  if endpoint.transferType = .bulk then
    if dir = 0x80 then { scan with epIn := endpoint.address }
    else { scan with epOut := endpoint.address }
  else scan

end EndpointScan

/-- The first scan of the endpoints. -/
def scanEndpoints (config : Configuration) (comm data : UInt8) : EndpointScan :=
  config.foldl
    (fun scan ifaces => ifaces.foldl
      (fun scan alt =>
        if alt.interfaceNumber ≠ comm ∧ alt.interfaceNumber ≠ data then scan
        else alt.endpoints.foldl (.visit (alt.interfaceNumber = comm)) scan)
      scan)
    ⟨0, 0, 0⟩

/-- The second scan, after `set_alt_setting(1)`. -/
def rescanEndpoints (config : Configuration) (data : UInt8)
    (scan : EndpointScan) : EndpointScan :=
  config.foldl
    (fun scan ifaces => ifaces.foldl
      (fun scan alt =>
        if alt.interfaceNumber ≠ data ∨ alt.alternateSetting ≠ 1 then scan
        else alt.endpoints.foldl .revisit scan)
      scan)
    scan

/-- The endpoints of a claimed device and the alternate setting that its data
interface is left in. -/
def chooseEndpoints (device : DeviceInfo) (config : Configuration)
    (comm data : UInt8) : EndpointScan × UInt8 :=
  let scan := scanEndpoints config comm data
  if scan.epIn = 0 ∨ scan.epOut = 0 then
    if device.setsAltSetting data 1 then
      if device.configurationAgain then (rescanEndpoints config data scan, 1)
      else (scan, 1)
    else (scan, 0)
  else (scan, 0)

namespace UsbDevice

/-- Without a data interface the number behind `comm_iface` is taken. -/
def dataIfaceOf (build : Build) (comm : UInt8) : Option UInt8 → Checked UInt8
  | some data => .ok data
  | none => build.addU8 comm 1

/-- The body of the loop over the devices; `none` is a `continue`. -/
def tryDevice (build : Build) (device : DeviceInfo) :
    Checked (Option UsbDevice) := do
  if ¬ device.opens then return none
  match device.activeConfiguration with
  | none => return none
  | some config =>
      let found := scanInterfaces config
      match found.comm with
      | none => return none
      | some comm =>
          let data ← dataIfaceOf build comm found.data
          if ¬ device.detachesAndClaims comm then return none
          if ¬ device.claims data then return none
          let (scan, selected) := chooseEndpoints device config comm data
          if scan.epIn ≠ 0 ∧ scan.epOut ≠ 0 then
            return some
              { config := config
                ifaceComm := ⟨comm, 0⟩
                ifaceData := some ⟨data, selected⟩
                epInAddr := scan.epIn
                epOutAddr := scan.epOut
                epIntAddr := scan.epInt
                commIface := comm
                dataIface := data }
          else return none

def tryDevices (build : Build) :
    List DeviceInfo → Checked (Except TetherError UsbDevice)
  | [] => return .error (.deviceNotFound
      "no Android RNDIS device found — ensure USB tethering is enabled")
  | device :: devices => do
      match ← tryDevice build device with
      | some usb => return .ok usb
      | none => tryDevices build devices

def findRndis (build : Build)
    (deviceList : Except TetherError (List DeviceInfo)) :
    Checked (Except TetherError UsbDevice) :=
  match deviceList with
  | .error err => return .error err
  | .ok devices => tryDevices build devices

/-- The interface that the bulk endpoints are opened on. -/
def bulkIface (usb : UsbDevice) : Interface :=
  usb.ifaceData.getD usb.ifaceComm

/-- `.expect(..)` on an endpoint that was or was not opened. -/
def expectEndpoint (opened : Bool) (address : UInt8) : Checked UInt8 :=
  if opened then .ok address else .error .unwrapNone

/-- `take_endpoints`: the addresses of the two endpoints that are opened.
`endpoint` is `Interface::endpoint` for bulk endpoints, which depends on the
addresses that are in use. -/
def takeEndpoints
    (endpoint :
      Configuration → Interface → List UInt8 → Direction → UInt8 → Bool)
    (usb : UsbDevice) : Checked (UInt8 × UInt8) := do
  let epIn ← expectEndpoint
    (endpoint usb.config usb.bulkIface [] .input usb.epInAddr) usb.epInAddr
  let epOut ← expectEndpoint
    (endpoint usb.config usb.bulkIface [epIn] .output usb.epOutAddr)
    usb.epOutAddr
  return (epIn, epOut)

end UsbDevice

end AndroidTether
