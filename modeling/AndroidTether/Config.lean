import AndroidTether.Ipv4Text

/-!
# The configuration

`config.rs`: the command line that clap has parsed, the ini file, and the
configuration that `from_cli` makes of both.
-/

namespace AndroidTether

open Checked Text

inductive DnsProvider
  | cloudflare
  | google
  | quad9
  deriving DecidableEq

/-- `log::LevelFilter` -/
inductive LevelFilter
  | off
  | error
  | warn
  | info
  | debug
  | trace
  deriving DecidableEq

/-- The options that a command line gives explicitly. -/
structure CommandLine where
  noRoute : Bool
  noDns : Bool
  staticIp : Option Text
  gateway : Option Text
  netmask : Option Text
  config : Option Text
  verbose : Bool
  watch : Bool
  dnsMode : Option Text
  dnsProvider : Option Text
  daemon : Bool
  install : Bool
  uninstall : Bool
  deriving DecidableEq

def noOptions : CommandLine where
  noRoute := false
  noDns := false
  staticIp := none
  gateway := none
  netmask := none
  config := none
  verbose := false
  watch := false
  dnsMode := none
  dnsProvider := none
  daemon := false
  install := false
  uninstall := false

structure CliArgs where
  noRoute : Bool
  noDns : Bool
  staticIp : Option Text
  gateway : Option Text
  netmask : Option Text
  config : Option Text
  verbose : Bool
  watch : Bool
  dnsMode : Text
  dnsProvider : Text
  daemon : Bool
  install : Bool
  uninstall : Bool
  deriving DecidableEq

/-- What clap fills in: the declared defaults of `--dns-mode` and
`--dns-provider`. -/
def CommandLine.args (given : CommandLine) : CliArgs where
  noRoute := given.noRoute
  noDns := given.noDns
  staticIp := given.staticIp
  gateway := given.gateway
  netmask := given.netmask
  config := given.config
  verbose := given.verbose
  watch := given.watch
  dnsMode := given.dnsMode.getD "system".toList
  dnsProvider := given.dnsProvider.getD "cloudflare".toList
  daemon := given.daemon
  install := given.install
  uninstall := given.uninstall

@[ext]
structure TetherConfig where
  noRoute : Bool
  noDns : Bool
  staticIp : Option Ipv4Addr
  gateway : Option Ipv4Addr
  netmask : Ipv4Addr
  logLevel : LevelFilter
  watchMode : Bool
  dnsMode : DnsMode
  dnsProvider : DnsProvider
  daemon : Bool
  install : Bool
  uninstall : Bool
  deriving DecidableEq

def parseDnsMode (s : Text) : DnsMode :=
  match String.ofList (toLowercase s) with
  | "doh" => .doH
  | "dot" => .doT
  | _ => .system

def parseDnsProvider (s : Text) : DnsProvider :=
  match String.ofList (toLowercase s) with
  | "google" => .google
  | "quad9" => .quad9
  | _ => .cloudflare

/-- The levels that the file can name. -/
def parseLevel (s : Text) : LevelFilter :=
  match String.ofList (toLowercase s) with
  | "debug" => .debug
  | "info" => .info
  | "warn" => .warn
  | "error" => .error
  | _ => .info

/-- What the configuration is read from, besides the command line. -/
structure Host where
  /-- `dirs_next::config_dir` -/
  configDir : Option Text
  /-- The contents of a file that exists and is text. -/
  readToString : Text → Option Text

/-- `Path::join` with a relative path. -/
def joinPath (base path : Text) : Text :=
  if base = [] ∨ base.getLast? = some '/' then base ++ path
  else base ++ '/' :: path

namespace TetherConfig

def default : TetherConfig where
  noRoute := false
  noDns := false
  staticIp := none
  gateway := none
  netmask := Ipv4Addr.new 255 255 255 0
  logLevel := .info
  watchMode := false
  dnsMode := .system
  dnsProvider := .cloudflare
  daemon := false
  install := false
  uninstall := false

/-- An assignment of the file; the section and the key decide the field. -/
def assign (self : TetherConfig) (sectionName key val : Text) :
    TetherConfig :=
  match String.ofList sectionName, String.ofList key with
  | "network", "no_route" => { self with noRoute := val = "true".toList }
  | "network", "no_dns" => { self with noDns := val = "true".toList }
  | "network", "static_ip" =>
      if val ≠ [] then
        match Ipv4Addr.parse val with
        | some ip => { self with staticIp := some ip }
        | none => self
      else self
  | "network", "gateway" =>
      if val ≠ [] then
        match Ipv4Addr.parse val with
        | some ip => { self with gateway := some ip }
        | none => self
      else self
  | "network", "netmask" =>
      if val ≠ [] then
        match Ipv4Addr.parse val with
        | some mask => { self with netmask := mask }
        | none => self
      else self
  | "logging", "level" => { self with logLevel := parseLevel val }
  | "dns", "mode" => { self with dnsMode := parseDnsMode val }
  | "dns", "provider" => { self with dnsProvider := parseDnsProvider val }
  | _, _ => self

/-- One line of the file, with the section it stands in. -/
def mergeLine (state : Text × TetherConfig) (raw : Text) :
    Checked (Text × TetherConfig) :=
  let (sectionName, self) := state
  let line := trim raw
  if line = [] ∨ line.head? = some ';' ∨ line.head? = some '#' then
    .ok (sectionName, self)
  else if line.head? = some '[' ∧ line.getLast? = some ']' then do
    let name ← slice line 1 (byteLength line - 1)
    return (toLowercase name, self)
  else match find '=' line with
    | none => .ok (sectionName, self)
    | some eq => do
        let key ← takeBytes line eq
        let val ← dropBytes line (eq + 1)
        return (sectionName, self.assign sectionName (trim key) (trim val))

def mergeIni (self : TetherConfig) (contents : Text) : Checked TetherConfig := do
  let state ← (lines contents).foldlM mergeLine ([], self)
  return state.2

/-- The configuration before the file is read. -/
def ofFlags (args : CliArgs) : TetherConfig :=
  let self : TetherConfig :=
    { default with
      logLevel := if args.verbose then .debug else .info
      watchMode := args.watch
      daemon := args.daemon
      install := args.install
      uninstall := args.uninstall }
  let self := if args.noRoute then { self with noRoute := true } else self
  if args.noDns then { self with noDns := true } else self

/-- The file that is read: the one that is given, or the one of the user. -/
def fileContents (host : Host) (args : CliArgs) : Option Text := do
  let path ← args.config.orElse fun _ => host.configDir.map fun dir =>
    joinPath (joinPath dir "android-tether".toList) "config".toList
  host.readToString path

/-- An address of the command line, with the message that refuses it. -/
def overrideAddress (self : TetherConfig) (option : Option Text)
    (refusal : String) (set : TetherConfig → Ipv4Addr → TetherConfig) :
    Except TetherError TetherConfig :=
  match option with
  | some text =>
      match Ipv4Addr.parse text with
      | some addr => .ok (set self addr)
      | none => .error (.config (refusal ++ String.ofList text))
  | none => .ok self

/-- The gateway that a static address without gateway gets. -/
def withDefaultGateway (self : TetherConfig) : TetherConfig :=
  if self.staticIp.isSome ∧ self.gateway.isNone then
    { self with gateway := some (Ipv4Addr.new 192 168 42 129) }
  else self

/-- What comes after the file: the addresses of the command line, the DNS
options and the gateway of a static address. -/
def override (self : TetherConfig) (args : CliArgs) :
    Except TetherError TetherConfig := do
  let self ← self.overrideAddress args.staticIp "invalid IP: "
    fun self ip => { self with staticIp := some ip }
  let self ← self.overrideAddress args.gateway "invalid gateway: "
    fun self gw => { self with gateway := some gw }
  let self ← self.overrideAddress args.netmask "invalid netmask: "
    fun self mask => { self with netmask := mask }
  let self := { self with
    dnsMode := parseDnsMode args.dnsMode
    dnsProvider := parseDnsProvider args.dnsProvider }
  return self.withDefaultGateway

def fromCli (host : Host) (args : CliArgs) :
    Checked (Except TetherError TetherConfig) := do
  let self ← match fileContents host args with
    | some contents => (ofFlags args).mergeIni contents
    | none => pure (ofFlags args)
  return self.override args

end TetherConfig

end AndroidTether
