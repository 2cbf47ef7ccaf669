import AndroidTether.Config
import AndroidTether.DhcpServer
import AndroidTether.NetworkHistory
import AndroidTether.RndisHandshake
import AndroidTether.UsbEndpoints
import AndroidTether.Utun

/-!
# Setting up a session

`run_session` up to its threads, put together from its parts.  Nothing outside
the process changes before the interface is configured; with a phone that
follows the protocols the session becomes active with the lease of the phone's
DHCP server.
-/

namespace AndroidTether

open Checked

/-- What is outside the process while a session is set up. -/
structure SetupWorld where
  deviceList : Except TetherError (List DeviceInfo)
  control : ControlPipe
  bulk : Exchange
  kernel : Kernel
  /-- Whether `sh` could be started for the first `ifconfig`. -/
  shell : Except String Unit

inductive SetupResult
  | stopped (exit : SessionExit)
  | active (deviceMac : MacAddr) (lease : Lease) (tun : Utun)

def TetherConfig.session (config : TetherConfig) : SessionConfig :=
  ⟨config.noRoute, config.noDns, config.dnsMode⟩

/-- `configure`: the exit status of `ifconfig` is only written to the log. -/
def Utun.configure (shell : Except String Unit) : Except TetherError Unit :=
  shell.mapError fun e => .network ("ifconfig failed: " ++ e)

/-- The addresses when a static one is configured. -/
def staticLease (config : TetherConfig) (staticIp : Ipv4Addr) : Lease where
  ip := staticIp
  gateway := config.gateway.getD (.new 192 168 42 129)
  netmask := config.netmask
  dns1 := .new 8 8 8 8
  dns2 := .new 8 8 4 4

/-- The addresses that DHCP comes to. -/
def leaseOf : Except TetherError DhcpLease → Lease
  | .ok lease => ⟨lease.ip, lease.gateway, lease.netmask, lease.dns1, lease.dns2⟩
  | .error _ =>
    { ip := .new 192 168 42 100
      gateway := .new 192 168 42 129
      netmask := .new 255 255 255 0
      dns1 := .new 8 8 8 8
      dns2 := .new 8 8 4 4 }

def sessionLease (build : Build) (config : TetherConfig) (deviceMac : MacAddr)
    (bulk : Exchange) : Checked Lease :=
  match config.staticIp with
  | some staticIp => return staticLease config staticIp
  | none => return leaseOf (← (discover build deviceMac bulk).run)

/-- `run_session` up to its threads. -/
def setUp (build : Build) (config : TetherConfig) (world : SetupWorld)
    (before : NetworkState) : Checked (SetupResult × NetworkState) := do
  match ← UsbDevice.findRndis build world.deviceList with
  | .error _ => return (.stopped .noDevice, before)
  | .ok _ =>
    match RndisDriver.initRun build world.control .default with
    | .error (.panicked panic) _ => throw panic
    | .error (.returned _) _ => return (.stopped .initFailed, before)
    | .ok () driver =>
      let deviceMac := driver.state.macAddr
      let lease ← sessionLease build config deviceMac world.bulk
      match Utun.create world.kernel [] with
      | .error _ _ => return (.stopped .utunFailed, before)
      | .ok tun _ =>
        match Utun.configure world.shell with
        | .error _ => return (.stopped .configureFailed, before)
        | .ok () =>
          return (.active deviceMac lease tun,
            before.after (sessionSetup config.session lease tun.ifname))

/-- The addresses of a session whose phone speaks DHCP. -/
def tetherLease (config : TetherConfig) (services : Nat → Service) : Lease :=
  match config.staticIp with
  | some staticIp => staticLease config staticIp
  | none => leaseOf (clientOutcome fun call => (services call).messages)

theorem sessionLease_served (build : Build) (config : TetherConfig)
    (deviceMac : MacAddr) (services : Nat → Service) :
    sessionLease build config deviceMac (served services) =
      .ok (tetherLease config services) := by
  rw [sessionLease, tetherLease]
  cases config.staticIp with
  | some staticIp => rfl
  | none =>
      have heard : inbox build (served services) =
          fun call => (services call).messages :=
        funext fun call => (services call).heardIn_transfer build
      dsimp only
      rw [discover_eq (served_sound build services), heard]
      rfl

/-- The phone follows the protocols, and its DHCP server speaks. -/
structure PhoneFollows (build : Build) (device : RndisDevice)
    (services : Nat → Service) (world : SetupWorld) : Prop where
  found : ∃ usb, UsbDevice.findRndis build world.deviceList = .ok (.ok usb)
  control : RndisDevice.Replies world.control (device.session .idle
    (numberedMessages 0 RndisDriver.initRounds)).2 0
  bulk : world.bulk = served services

/-- What a session that is being set up may leave behind. -/
def SetupResult.Leaves (config : TetherConfig) (before after : NetworkState) :
    SetupResult → Prop
  | .stopped _ => after = before
  | .active _ lease tun =>
    Active config.session lease tun.ifname before after

theorem setUp_leaves {build : Build} {config : TetherConfig}
    {world : SetupWorld} {before after : NetworkState} {result : SetupResult}
    (done : setUp build config world before = .ok (result, after)) :
    result.Leaves config before after := by
  obtain ⟨found, -, setting⟩ := bind_eq_ok.mp done
  cases found with
  | error err =>
      cases setting
      rfl
  | ok usb =>
      dsimp only at setting
      cases ran : RndisDriver.initRun build world.control .default with
      | error stop driver =>
          rw [ran] at setting
          cases stop with
          | panicked panic => cases setting
          | returned err =>
              cases setting
              rfl
      | ok value driver =>
          rw [ran] at setting
          obtain ⟨lease, -, setting⟩ := bind_eq_ok.mp setting
          cases created : Utun.create world.kernel [] with
          | error err log =>
              rw [created] at setting
              cases setting
              rfl
          | ok tun log =>
              rw [created] at setting
              dsimp only at setting
              cases configured : Utun.configure world.shell with
              | error err =>
                  rw [configured] at setting
                  cases setting
                  rfl
              | ok value =>
                  rw [configured] at setting
                  cases setting
                  exact setup_active _ _ _ _

section Following

variable {build : Build} {config : TetherConfig} {device : RndisDevice}
  {services : Nat → Service} {world : SetupWorld} {tun : Utun}
  {log : List SysEvent} {before : NetworkState}

theorem setUp_eq (phone : PhoneFollows build device services world)
    (created : Utun.create world.kernel [] = .ok tun log)
    (shell : world.shell = .ok ()) :
    setUp build config world before =
      .ok (.active (device.address .zero) (tetherLease config services) tun,
        before.after (sessionSetup config.session
          (tetherLease config services) tun.ifname)) := by
  obtain ⟨⟨usb, found⟩, control, bulk⟩ := phone
  have counts : CountsOn build RndisState.default.requestId 4 :=
    fun _ => by decide
  obtain ⟨driver, initialised, -, -, learned⟩ := initRun_replies counts control
  have address : driver.state.macAddr = device.address .zero := by
    rw [learned]
    rfl
  have leased := sessionLease_served build config (device.address .zero) services
  simp only [setUp, found, ok_bind, initialised, address, bulk, leased,
    created, shell]
  rfl

/-- With a phone that follows the protocols, on a system where a tunnel can be
created, the session becomes active: with the address that the device
announced, the lease that its server granted, and just the entries and routes
that belong to them. -/
theorem setUp_tethers (phone : PhoneFollows build device services world)
    (created : Utun.create world.kernel [] = .ok tun log)
    (shell : world.shell = .ok ()) :
    ∃ after, setUp build config world before =
        .ok (.active (device.address .zero) (tetherLease config services) tun,
          after) ∧
      Active config.session (tetherLease config services) tun.ifname before
        after :=
  have done := setUp_eq phone created shell
  ⟨_, done, setUp_leaves done⟩

end Following

theorem typeCode_ne_pad : (53 : UInt8) ≠ 0x00 := by decide

theorem typeCode_ne_end : (53 : UInt8) ≠ 0xFF := by decide

/-- A reply with a type and a router. -/
def usualReply (msgType : UInt8) : ServerMessage where
  macs := List.replicate 12 2
  macs_length := rfl
  verIhl := 0x45
  ipHead := List.replicate 8 0
  ipHead_length := rfl
  ipTail := List.replicate 10 0
  ipTail_length := rfl
  ipTail_long := le_refl 10
  sourcePort := [0, 67]
  sourcePort_length := rfl
  udpTail := List.replicate 4 0
  udpTail_length := rfl
  bootpHead := [2, 1, 6, 0]
  bootpHead_length := rfl
  bootpMiddle := List.replicate 8 0
  bootpMiddle_length := rfl
  yiaddr := .new 10 0 0 7
  bootpTail := List.replicate 216 0
  bootpTail_length := rfl
  items :=
    [.option ⟨53, [msgType], typeCode_ne_pad, typeCode_ne_end,
        show 1 < 256 by decide⟩,
      .option ⟨3, [10, 0, 0, 1], by decide, by decide, by decide⟩]
  ending := .endMark []
  whole _ _ _ _ _ _ cut := by cases cut

theorem usualReply_length (msgType : UInt8) :
    (usualReply msgType).frame.length = 292 := by
  have area : (encodedArea (usualReply msgType).items
      (usualReply msgType).ending).length = 10 := rfl
  have header : ((usualReply msgType).verIhl &&& 0x0F).toNat = 5 :=
    (by decide : ((0x45 : UInt8) &&& 0x0F).toNat = 5)
  rw [ServerMessage.frame_length, ServerMessage.ipUdp_length, area, header]

/-- A server that makes an offer, and then acknowledges. -/
def usualService (call : Nat) : Service where
  items := [.reply (usualReply (if call = 0 then 2 else 5)) (by
    rw [usualReply_length]
    decide)]
  trailer := ⟨[0], .inl (by decide)⟩
  behind _ := 0
  fits := by
    rw [transfer]
    simp only [List.map_cons, List.map_nil, ServedItem.item,
      TransferItem.wire, EncodedFrame.wire_eq, EncodedFrame.ofFrame,
      List.flatten_cons, List.flatten_nil, List.append_nil,
      List.length_append, usualReply_length]
    decide

def usualWorld : SetupWorld where
  deviceList := .ok [plainDevice rndisPhone]
  control := answering (usualDevice.session .idle
    (numberedMessages 0 RndisDriver.initRounds)).2
  bulk := served usualService
  kernel := ⟨fun call => if call = 0 then 3 else 0, 7⟩
  shell := .ok ()

def usualPhoneLease : Lease where
  ip := .new 10 0 0 7
  gateway := .new 10 0 0 1
  netmask := .new 255 255 255 0
  dns1 := .new 8 8 8 8
  dns2 := .new 8 8 4 4

theorem usualWorld_follows :
    PhoneFollows .release usualDevice usualService usualWorld where
  found := ⟨_, rfl⟩
  control := answering_replies _
  bulk := rfl

theorem usualWorld_tethers :
    ∃ tun after, setUp .release .default usualWorld resolvingState =
        .ok (.active ⟨[2, 0, 0, 0, 0, 9], rfl⟩ usualPhoneLease tun, after) ∧
      Active TetherConfig.default.session usualPhoneLease tun.ifname
        resolvingState after := by
  obtain ⟨tun, log, created⟩ : ∃ tun log,
      Utun.create usualWorld.kernel [] = .ok tun log := ⟨_, _, rfl⟩
  have leased : tetherLease .default usualService = usualPhoneLease := rfl
  have reached := @setUp_tethers .release .default usualDevice usualService
    usualWorld tun log resolvingState usualWorld_follows created rfl
  rw [leased] at reached
  exact ⟨tun, reached⟩

end AndroidTether
