import AndroidTether.MapWrites
import AndroidTether.NetTypes

/-!
# The network state around a session

What `run_session` changes outside the process: the dynamic store of
SystemConfiguration and the route table.  Setup writes both, and the code
behind the session loop takes entries away again; it never looks at what was
there before, and a panic of the main thread in between skips it.
-/

namespace AndroidTether

open MapWrites

/-- An entry of the dynamic store, `d.add` by `d.add`. -/
abbrev Dictionary := List (String × List String)

inductive ScutilCommand
  | dInit
  | dAdd (name : String) (value : List String)
  | set (key : String)
  | remove (key : String)
  | quit

/-- The writes of a `scutil` script, given the dictionary built so far. -/
def scutilWrites (dictionary : Dictionary) :
    List ScutilCommand → List (Write String Dictionary)
  | [] => []
  | .dInit :: script => scutilWrites [] script
  | .dAdd name value :: script =>
      scutilWrites (dictionary ++ [(name, value)]) script
  | .set key :: script => .set key dictionary :: scutilWrites dictionary script
  | .remove key :: script => .remove key :: scutilWrites dictionary script
  | .quit :: _ => []

/-- What a route leads to. -/
inductive Destination
  | host (addr : String)
  | net (block : String)
  deriving DecidableEq

/-- The commands that `run_session` has other programs execute. -/
inductive SystemCall
  | scutil (script : List ScutilCommand)
  | routeAdd (destination : Destination) (gateway : String)
  | routeDelete (destination : Destination)

namespace SystemCall

def storeWrites : SystemCall → List (Write String Dictionary)
  | scutil script => scutilWrites [] script
  | routeAdd .. | routeDelete .. => []

def routeWrites : SystemCall → List (Write Destination String)
  | scutil _ => []
  | routeAdd destination gateway => [.add destination gateway]
  | routeDelete destination => [.remove destination]

end SystemCall

structure NetworkState where
  store : String → Option Dictionary
  /-- The gateway of each route. -/
  routes : Destination → Option String

def NetworkState.after (before : NetworkState) (calls : List SystemCall) :
    NetworkState where
  store := applyAll before.store (calls.flatMap SystemCall.storeWrites)
  routes := applyAll before.routes (calls.flatMap SystemCall.routeWrites)

structure SessionConfig where
  noRoute : Bool
  noDns : Bool
  dnsMode : DnsMode

/-- The addresses of a session: static, leased or the defaults. -/
structure Lease where
  ip : Ipv4Addr
  gateway : Ipv4Addr
  netmask : Ipv4Addr
  dns1 : Ipv4Addr
  dns2 : Ipv4Addr

/-- `to_string` -/
def Ipv4Addr.text (addr : Ipv4Addr) : String :=
  ".".intercalate (addr.octets.map fun octet => toString octet.toNat)

def globalDns : String := "State:/Network/Global/DNS"
def serviceIpv4 : String := "State:/Network/Service/android-tether/IPv4"
def serviceDns : String := "State:/Network/Service/android-tether/DNS"
def serviceInterface : String :=
  "State:/Network/Service/android-tether/Interface"

/-- `set_dns`; the flush of the resolver cache behind it changes no entry. -/
def setDns (dns1 dns2 : Ipv4Addr) : List SystemCall :=
  [.scutil [.dInit, .dAdd "ServerAddresses" ["*", dns1.text, dns2.text],
    .set globalDns, .quit]]

/-- The words of `dns_part`. -/
def dnsPart (dns1 dns2 : String) : List String :=
  if dns1 ≠ "" then if dns2 ≠ "" then [dns1, dns2] else [dns1] else []

def registerService (ifname ip gateway netmask dns1 dns2 : String) :
    List SystemCall :=
  [.scutil [.dInit, .dAdd "Addresses" ["*", ip],
      .dAdd "SubnetMasks" ["*", netmask], .dAdd "Router" [gateway],
      .dAdd "InterfaceName" [ifname], .set serviceIpv4, .quit],
    .scutil [.dInit, .dAdd "DeviceName" [ifname], .dAdd "Type" ["utun"],
      .set serviceInterface, .quit]] ++
    if dnsPart dns1 dns2 ≠ [] then
      [.scutil [.dInit, .dAdd "ServerAddresses" ("*" :: dnsPart dns1 dns2),
        .dAdd "SupplementalMatchDomains" ["*", ""],
        .dAdd "SearchOrder" ["#", "1"], .set serviceDns, .quit]]
    else []

def unregisterService : List SystemCall :=
  [.scutil [.remove serviceIpv4, .remove serviceDns, .remove serviceInterface,
    .quit]]

def lowerHalf : Destination := .net "0.0.0.0/1"
def upperHalf : Destination := .net "128.0.0.0/1"

def setDefaultRoute (gateway : String) : List SystemCall :=
  .routeDelete (.host gateway) ::
    [lowerHalf, upperHalf].flatMap fun half =>
      [.routeDelete half, .routeAdd half gateway]

def sessionSetup (config : SessionConfig) (lease : Lease) (ifname : String) :
    List SystemCall :=
  (if config.noDns = false then
    let (cfgDns1, cfgDns2) :=
      if config.dnsMode ≠ .system then (lease.dns1, lease.dns1)
      else (lease.dns1, lease.dns2)
    setDns cfgDns1 cfgDns2 ++
      registerService ifname lease.ip.text lease.gateway.text
        lease.netmask.text cfgDns1.text cfgDns2.text
  else if config.noRoute = false then
    registerService ifname lease.ip.text lease.gateway.text
      lease.netmask.text "" ""
  else []) ++
  if config.noRoute = false then setDefaultRoute lease.gateway.text else []

/-- "restoring network state..." -/
def sessionTeardown (config : SessionConfig) : List SystemCall :=
  (if config.noRoute = false then
    [.routeDelete lowerHalf, .routeDelete upperHalf]
  else []) ++ unregisterService ++
  if config.noDns = false then [.scutil [.remove globalDns, .quit]] else []

/-- Where `run_session` is left. -/
inductive SessionExit
  | noDevice
  | initFailed
  /-- A panic on the way to the lease, in `find_rndis` or `discover`. -/
  | leasePanicked
  | utunFailed
  | configureFailed
  /-- A panic behind the setup: `take_endpoints` finds no endpoint at an
  address, a thread cannot be spawned, or the session loop panics. -/
  | panicked
  | ended
  deriving DecidableEq

/-- The call returns to `main`. -/
def SessionExit.Returns : SessionExit → Prop
  | noDevice | initFailed | utunFailed | configureFailed | ended => True
  | leasePanicked | panicked => False

def runSession (config : SessionConfig) (lease : Lease) (ifname : String)
    (exit : SessionExit) (before : NetworkState) : NetworkState :=
  match exit with
  | .noDevice | .initFailed | .leasePanicked | .utunFailed
  | .configureFailed => before
  | .panicked => before.after (sessionSetup config lease ifname)
  | .ended =>
    before.after (sessionSetup config lease ifname ++ sessionTeardown config)

def serviceKeys : List String :=
  [serviceIpv4, serviceDns, serviceInterface]

/-- The keys of the store that a session writes. -/
def touchedKeys (config : SessionConfig) : List String :=
  serviceKeys ++ if config.noDns = false then [globalDns] else []

def touchedRoutes (config : SessionConfig) (lease : Lease) :
    List Destination :=
  if config.noRoute = false then
    [.host lease.gateway.text, lowerHalf, upperHalf]
  else []

theorem registerService_keys (ifname ip gateway netmask dns1 dns2 : String) :
    ∀ write ∈ (registerService ifname ip gateway netmask dns1 dns2).flatMap
      SystemCall.storeWrites, write.key ∈ serviceKeys := by
  intro write isWrite
  rw [registerService, List.flatMap_append, List.mem_append] at isWrite
  rcases isWrite with always | ifDns
  · simp only [List.flatMap_cons, SystemCall.storeWrites, scutilWrites,
      List.flatMap_nil, List.cons_append, List.nil_append, List.mem_cons,
      List.not_mem_nil, or_false] at always
    rcases always with rfl | rfl <;> simp [Write.key, serviceKeys]
  · split at ifDns
    case isTrue =>
      simp only [List.flatMap_cons, SystemCall.storeWrites, scutilWrites,
        List.flatMap_nil, List.append_nil, List.mem_singleton] at ifDns
      simp [ifDns, Write.key, serviceKeys]
    case isFalse => simp at ifDns

theorem registerService_routes (ifname ip gateway netmask dns1 dns2 : String) :
    (registerService ifname ip gateway netmask dns1 dns2).flatMap
      SystemCall.routeWrites = [] := by
  unfold registerService
  split <;> rfl

theorem sessionSetup_keys (config : SessionConfig) (lease : Lease)
    (ifname : String) :
    ∀ write ∈ (sessionSetup config lease ifname).flatMap
      SystemCall.storeWrites, write.key ∈ touchedKeys config := by
  intro write isWrite
  rw [sessionSetup, List.flatMap_append, List.mem_append] at isWrite
  rcases isWrite with registered | routed
  · split at registered
    case isTrue dns =>
      rw [List.flatMap_append, List.mem_append] at registered
      rw [touchedKeys, if_pos dns]
      rcases registered with global | service
      · have isGlobal : write.key = globalDns := by
          simp only [setDns, List.flatMap_cons, SystemCall.storeWrites,
            scutilWrites, List.flatMap_nil, List.append_nil,
            List.mem_singleton] at global
          rw [global]
          rfl
        simp [isGlobal]
      · exact List.mem_append_left _ (registerService_keys _ _ _ _ _ _ _ service)
    case isFalse =>
      split at registered
      case isTrue =>
        exact List.mem_append_left _
          (registerService_keys _ _ _ _ _ _ _ registered)
      case isFalse => simp at registered
  · split at routed
    case isTrue =>
      simp [setDefaultRoute, SystemCall.storeWrites] at routed
    case isFalse => simp at routed

theorem sessionTeardown_keys (config : SessionConfig) :
    (sessionTeardown config).flatMap SystemCall.storeWrites =
      (touchedKeys config).map Write.remove := by
  cases noRoute : config.noRoute <;> cases noDns : config.noDns <;>
    simp [sessionTeardown, touchedKeys, serviceKeys, noRoute, noDns,
      unregisterService, SystemCall.storeWrites, scutilWrites]

theorem sessionSetup_routes (config : SessionConfig) (lease : Lease)
    (ifname : String) :
    (sessionSetup config lease ifname).flatMap SystemCall.routeWrites =
      if config.noRoute = false then
        (setDefaultRoute lease.gateway.text).flatMap SystemCall.routeWrites
      else [] := by
  have noGlobal (dns1 dns2 : Ipv4Addr) :
      (setDns dns1 dns2).flatMap SystemCall.routeWrites = [] := rfl
  rw [sessionSetup]
  cases config.noRoute <;> cases config.noDns <;>
    simp [registerService_routes, noGlobal]

theorem sessionTeardown_routes (config : SessionConfig) :
    (sessionTeardown config).flatMap SystemCall.routeWrites =
      if config.noRoute = false then [.remove lowerHalf, .remove upperHalf]
      else [] := by
  cases noRoute : config.noRoute <;> cases noDns : config.noDns <;>
    simp [sessionTeardown, noRoute, noDns, unregisterService,
      SystemCall.routeWrites]

theorem store_eq_self_iff (config : SessionConfig) (lease : Lease)
    (ifname : String) (before : NetworkState) :
    (before.after (sessionSetup config lease ifname ++
      sessionTeardown config)).store = before.store ↔
        ∀ key ∈ touchedKeys config, before.store key = none := by
  apply applyAll_eq_self_iff
  · intro write isWrite
    rw [List.flatMap_append, sessionTeardown_keys, List.mem_append] at isWrite
    rcases isWrite with written | removed
    · exact sessionSetup_keys config lease ifname write written
    · obtain ⟨key, member, rfl⟩ := List.mem_map.mp removed
      exact member
  · intro key member
    rw [List.flatMap_append, sessionTeardown_keys, lastTo_append,
      lastTo_map_remove member]
    rfl

theorem routes_eq_self_iff (config : SessionConfig) (lease : Lease)
    (ifname : String) (before : NetworkState) :
    (before.after (sessionSetup config lease ifname ++
      sessionTeardown config)).routes = before.routes ↔
        ∀ destination ∈ touchedRoutes config lease,
          before.routes destination = none := by
  apply applyAll_eq_self_iff
  · intro write isWrite
    rw [List.flatMap_append, sessionSetup_routes, sessionTeardown_routes]
      at isWrite
    rw [touchedRoutes]
    split at isWrite
    case isTrue routed =>
      rw [if_pos routed]
      simp only [setDefaultRoute, SystemCall.routeWrites, List.flatMap_cons,
        List.flatMap_nil, List.append_nil, List.cons_append, List.nil_append,
        List.mem_cons, List.not_mem_nil, or_false] at isWrite
      rcases isWrite with rfl | rfl | rfl | rfl | rfl | rfl | rfl <;>
        simp [Write.key]
    case isFalse => simp at isWrite
  · intro destination member
    rw [touchedRoutes] at member
    rw [List.flatMap_append, sessionSetup_routes, sessionTeardown_routes]
    split at member
    case isTrue routed =>
      rw [if_pos routed, if_pos routed]
      simp only [List.mem_cons, List.not_mem_nil, or_false] at member
      rcases member with rfl | rfl | rfl <;>
        simp [setDefaultRoute, SystemCall.routeWrites, lastTo, Write.key,
          lowerHalf, upperHalf]
    case isFalse => simp at member

/-- The servers that are configured: a proxy needs only the first. -/
def cfgDns (config : SessionConfig) (lease : Lease) : Ipv4Addr × Ipv4Addr :=
  if config.dnsMode ≠ .system then (lease.dns1, lease.dns1)
  else (lease.dns1, lease.dns2)

def globalDnsEntry (dns : Ipv4Addr × Ipv4Addr) : Dictionary :=
  [("ServerAddresses", ["*", dns.1.text, dns.2.text])]

def ipv4Entry (lease : Lease) (ifname : String) : Dictionary :=
  [("Addresses", ["*", lease.ip.text]),
    ("SubnetMasks", ["*", lease.netmask.text]),
    ("Router", [lease.gateway.text]), ("InterfaceName", [ifname])]

def interfaceEntry (ifname : String) : Dictionary :=
  [("DeviceName", [ifname]), ("Type", ["utun"])]

def dnsEntry (dns : Ipv4Addr × Ipv4Addr) : Dictionary :=
  [("ServerAddresses", ["*", dns.1.text, dns.2.text]),
    ("SupplementalMatchDomains", ["*", ""]), ("SearchOrder", ["#", "1"])]

/-- The entries of the store while a session is active. -/
def activeEntry (config : SessionConfig) (lease : Lease) (ifname : String)
    (key : String) : Option Dictionary :=
  if config.noDns = false ∧ key = serviceDns then
    some (dnsEntry (cfgDns config lease))
  else if (config.noDns = false ∨ config.noRoute = false) ∧
      key = serviceInterface then
    some (interfaceEntry ifname)
  else if (config.noDns = false ∨ config.noRoute = false) ∧
      key = serviceIpv4 then
    some (ipv4Entry lease ifname)
  else if config.noDns = false ∧ key = globalDns then
    some (globalDnsEntry (cfgDns config lease))
  else none

/-- The routes while a session is active, where it changes them: the direct
route to the gateway gives way to the two halves. -/
def activeRoute (config : SessionConfig) (lease : Lease)
    (destination : Destination) : Option (Option String) :=
  if config.noRoute then none
  else if destination = lowerHalf ∨ destination = upperHalf then
    some (some lease.gateway.text)
  else if destination = .host lease.gateway.text then some none
  else none

/-- The network state of an active session, over what was there before. -/
structure Active (config : SessionConfig) (lease : Lease) (ifname : String)
    (before after : NetworkState) : Prop where
  store : ∀ key, after.store key =
    (activeEntry config lease ifname key).or (before.store key)
  routes : ∀ destination, after.routes destination =
    (activeRoute config lease destination).getD (before.routes destination)

theorem Ipv4Addr.text_ne_empty (addr : Ipv4Addr) : addr.text ≠ "" := by
  obtain ⟨a, b, c, d, octetsEq⟩ := List.length_eq_four.mp addr.octets_length
  intro empty
  rw [text, octetsEq] at empty
  have length := congrArg String.length empty
  simp only [List.map_cons, List.map_nil, String.intercalate_cons_cons,
    String.length_append] at length
  have dot : ".".length = 1 := rfl
  have nothing : "".length = 0 := rfl
  omega

theorem setup_storeWrites (config : SessionConfig) (lease : Lease)
    (ifname : String) :
    (sessionSetup config lease ifname).flatMap SystemCall.storeWrites =
      (if config.noDns = false then
        [.set globalDns (globalDnsEntry (cfgDns config lease))] else []) ++
      (if config.noDns = false ∨ config.noRoute = false then
        [.set serviceIpv4 (ipv4Entry lease ifname),
          .set serviceInterface (interfaceEntry ifname)] else []) ++
      (if config.noDns = false then
        [.set serviceDns (dnsEntry (cfgDns config lease))] else []) := by
  have written := Ipv4Addr.text_ne_empty
  have noStore (gateway : String) :
      (setDefaultRoute gateway).flatMap SystemCall.storeWrites = [] := rfl
  obtain ⟨noRoute, noDns, dnsMode⟩ := config
  cases noRoute <;> cases noDns <;> cases dnsMode <;>
    simp [sessionSetup, registerService, setDns, dnsPart, written, noStore,
      cfgDns, SystemCall.storeWrites, scutilWrites, globalDnsEntry, ipv4Entry,
      interfaceEntry, dnsEntry]

theorem setup_active (config : SessionConfig) (lease : Lease)
    (ifname : String) (before : NetworkState) :
    Active config lease ifname before
      (before.after (sessionSetup config lease ifname)) := by
  constructor
  · intro key
    rw [NetworkState.after, setup_storeWrites, activeEntry]
    obtain ⟨noRoute, noDns, dnsMode⟩ := config
    cases noRoute <;> cases noDns <;>
      simp only [Bool.true_eq_false, if_true, if_false, or_true, or_false,
        true_and, false_and, List.append_nil, List.nil_append,
        List.cons_append, applyAll, List.foldl_cons, List.foldl_nil,
        Write.apply, Function.update_apply]
    case true.true => rfl
    all_goals split_ifs <;> rfl
  · intro destination
    rw [NetworkState.after, sessionSetup_routes, activeRoute]
    cases config.noRoute with
    | true => rfl
    | false =>
        have different : upperHalf ≠ lowerHalf := by decide
        have effect : applyAll before.routes
            ((setDefaultRoute lease.gateway.text).flatMap
              SystemCall.routeWrites) destination =
            if destination = upperHalf then some lease.gateway.text
            else if destination = lowerHalf then some lease.gateway.text
            else if destination = .host lease.gateway.text then none
            else before.routes destination := by
          simp [setDefaultRoute, SystemCall.routeWrites, applyAll,
            Write.apply, Function.update_apply]
        simp only [if_true, effect]
        split_ifs <;> simp_all

/-- The entries and routes that the setup writes are there already. -/
structure SetUpAlready (config : SessionConfig) (lease : Lease)
    (ifname : String) (state : NetworkState) : Prop where
  store : ∀ key entry, activeEntry config lease ifname key = some entry →
    state.store key = some entry
  routes : ∀ destination route,
    activeRoute config lease destination = some route →
      state.routes destination = route

theorem setup_eq_self_iff (config : SessionConfig) (lease : Lease)
    (ifname : String) (before : NetworkState) :
    before.after (sessionSetup config lease ifname) = before ↔
      SetUpAlready config lease ifname before := by
  have active := setup_active config lease ifname before
  constructor
  · intro unchanged
    rw [unchanged] at active
    constructor
    · intro key entry written
      rw [active.store key, written, Option.some_or]
    · intro destination route written
      rw [active.routes destination, written, Option.getD_some]
  · intro already
    refine congrArg₂ NetworkState.mk (funext fun key => ?_)
      (funext fun destination => ?_)
    · refine (active.store key).trans ?_
      cases written : activeEntry config lease ifname key with
      | none => rfl
      | some entry => exact (already.store key entry written).symm
    · refine (active.routes destination).trans ?_
      cases written : activeRoute config lease destination with
      | none => rfl
      | some route => exact (already.routes destination route written).symm

/-- The states that a call leaves as they are: all of them if it does not come
to its setup; those that look like its setup if it panics behind it; and those
without any of its entries if it comes to its end. -/
def Unaffected (config : SessionConfig) (lease : Lease) (ifname : String)
    (before : NetworkState) : SessionExit → Prop
  | .noDevice | .initFailed | .leasePanicked | .utunFailed
  | .configureFailed => True
  | .panicked => SetUpAlready config lease ifname before
  | .ended =>
    (∀ key ∈ touchedKeys config, before.store key = none) ∧
      ∀ destination ∈ touchedRoutes config lease,
        before.routes destination = none

/-- The exact condition for a call to leave the network state as it was. -/
theorem runSession_eq_self_iff (config : SessionConfig) (lease : Lease)
    (ifname : String) (exit : SessionExit) (before : NetworkState) :
    runSession config lease ifname exit before = before ↔
      Unaffected config lease ifname before exit := by
  cases exit with
  | noDevice | initFailed | leasePanicked | utunFailed | configureFailed =>
      exact iff_of_true rfl trivial
  | panicked => exact setup_eq_self_iff config lease ifname before
  | ended =>
      rw [Unaffected, ← store_eq_self_iff config lease ifname,
        ← routes_eq_self_iff config lease ifname]
      constructor
      · intro unchanged
        rw [runSession] at unchanged
        rw [unchanged]
        exact ⟨rfl, rfl⟩
      · rintro ⟨sameStore, sameRoutes⟩
        exact congrArg₂ NetworkState.mk sameStore sameRoutes

/-- A machine whose resolver is set up already. -/
def resolvingState : NetworkState where
  store := Function.update (fun _ => none) globalDns
    (some [("ServerAddresses", ["*", "192.168.1.1"])])
  routes _ := none

def usualConfig : SessionConfig :=
  ⟨false, false, .system⟩

def usualLease : Lease :=
  ⟨0xC0A82A64, 0xC0A82A81, 0xFFFFFF00, 0x08080808, 0x08080404⟩

/-- The session takes the resolver of the machine away. -/
theorem runSession_loses_dns :
    runSession usualConfig usualLease "utun4" .ended resolvingState ≠
        resolvingState ∧
      (runSession usualConfig usualLease "utun4" .ended
        resolvingState).store globalDns = none := by
  have touched : globalDns ∈ touchedKeys usualConfig := by
    simp [touchedKeys, usualConfig]
  constructor
  · intro unchanged
    have absent := (store_eq_self_iff usualConfig usualLease "utun4"
      resolvingState).mp (congrArg NetworkState.store unchanged) _ touched
    cases absent
  · apply applyAll_of_last_remove
    rw [List.flatMap_append, sessionTeardown_keys, lastTo_append,
      lastTo_map_remove touched]
    rfl

end AndroidTether
