import AndroidTether.Daemon

/-!
# The installed configuration

What launchd passes to the program when the daemon starts, and the
configuration that the program makes of it.
-/

namespace AndroidTether

open Checked Xml PropertyList

/-- The long options that `CliArgs` declares, as a command line gives them. -/
inductive LongOption
  | noRoute
  | noDns
  | staticIp (value : Text)
  | gateway (value : Text)
  | netmask (value : Text)
  | config (value : Text)
  | verbose
  | watch
  | dnsMode (value : Text)
  | dnsProvider (value : Text)
  | daemon
  | install
  | uninstall
  deriving DecidableEq

namespace LongOption

def name : LongOption → Text
  | noRoute => "no-route".toList
  | noDns => "no-dns".toList
  | staticIp _ => "static".toList
  | gateway _ => "gateway".toList
  | netmask _ => "netmask".toList
  | config _ => "config".toList
  | verbose => "verbose".toList
  | watch => "watch".toList
  | dnsMode _ => "dns-mode".toList
  | dnsProvider _ => "dns-provider".toList
  | daemon => "daemon".toList
  | install => "install".toList
  | uninstall => "uninstall".toList

def value : LongOption → Option Text
  | staticIp value | gateway value | netmask value | config value
  | dnsMode value | dnsProvider value => some value
  | noRoute | noDns | verbose | watch | daemon | install | uninstall => none

/-- `--name` or `--name=value` -/
def text (option : LongOption) : Text :=
  "--".toList ++ option.name ++
    match option.value with
    | some value => '=' :: value
    | none => []

/-- An option with a name and value, if there is such an option. -/
def ofParts (name : Text) (value : Option Text) : Option LongOption :=
  match String.ofList name, value with
  | "no-route", none => some noRoute
  | "no-dns", none => some noDns
  | "static", some value => some (staticIp value)
  | "gateway", some value => some (gateway value)
  | "netmask", some value => some (netmask value)
  | "config", some value => some (config value)
  | "verbose", none => some verbose
  | "watch", none => some watch
  | "dns-mode", some value => some (dnsMode value)
  | "dns-provider", some value => some (dnsProvider value)
  | "daemon", none => some daemon
  | "install", none => some install
  | "uninstall", none => some uninstall
  | _, _ => none

/-- The option that a text gives. -/
def read (text : Text) : Option LongOption :=
  match text with
  | '-' :: '-' :: rest =>
      ofParts (rest.takeWhile (· ≠ '=')) (rest.dropWhile (· ≠ '=')).tail?
  | _ => none

theorem read_text (option : LongOption) : read option.text = some option := by
  cases option <;> rfl

end LongOption

/-- A command line with one more option. -/
def CommandLine.give (given : CommandLine) : LongOption → CommandLine
  | .noRoute => { given with noRoute := true }
  | .noDns => { given with noDns := true }
  | .staticIp value => { given with staticIp := some value }
  | .gateway value => { given with gateway := some value }
  | .netmask value => { given with netmask := some value }
  | .config value => { given with config := some value }
  | .verbose => { given with verbose := true }
  | .watch => { given with watch := true }
  | .dnsMode value => { given with dnsMode := some value }
  | .dnsProvider value => { given with dnsProvider := some value }
  | .daemon => { given with daemon := true }
  | .install => { given with install := true }
  | .uninstall => { given with uninstall := true }

/-- What clap documents of its parser: declared long options with values that
are not empty, each at most once, give what they say. -/
def ParsesLongOptions (clap : List Text → Option CommandLine) : Prop :=
  ∀ options : List LongOption, (options.map LongOption.name).Nodup →
    (∀ option ∈ options, option.value ≠ some []) →
    clap (options.map LongOption.text) = some (options.foldl .give noOptions)

/-- The options behind the arguments of the daemon. -/
def installOptions (config : TetherConfig) : List LongOption :=
  [.daemon, .noRoute, .watch, .dnsMode (dnsModeFlag config),
      .dnsProvider (dnsProviderFlag config)] ++
    (config.staticIp.map fun ip => .staticIp ip.toText).toList ++
    (config.gateway.map fun gw => .gateway gw.toText).toList ++
    if config.logLevel = .debug then [.verbose] else []

/-- The command line of the daemon. -/
def installedLine (config : TetherConfig) : CommandLine :=
  { noOptions with
    noRoute := true
    staticIp := config.staticIp.map Ipv4Addr.toText
    gateway := config.gateway.map Ipv4Addr.toText
    verbose := config.logLevel = .debug
    watch := true
    dnsMode := some (dnsModeFlag config)
    dnsProvider := some (dnsProviderFlag config)
    daemon := true }

theorem ordinary_toText (addr : Ipv4Addr) : addr.toText.all isOrdinary := by
  rw [List.all_eq_true]
  intro c member
  rcases Ipv4Addr.mem_toText member with digit | rfl
  · have range := digit
    simp only [Char.isDigit, Bool.and_eq_true, decide_eq_true_eq] at range
    have low : 48 ≤ c.toNat := UInt32.le_iff_toNat_le.mp range.1
    have high : c.toNat ≤ 57 := UInt32.le_iff_toNat_le.mp range.2
    refine decide_eq_true
      ⟨decide_eq_true (.inr ⟨?_, ?_, ?_⟩), fun special => ?_⟩
    · omega
    · omega
    · omega
    · simp only [List.mem_cons, List.not_mem_nil, or_false] at special
      rcases special with rfl | rfl | rfl | rfl <;> exact absurd digit (by decide)
  · decide

namespace LongOption

theorem ordinary_text {option : LongOption}
    (ordinary : ∀ value ∈ option.value, value.all isOrdinary) :
    option.text.all isOrdinary := by
  have name : ("--".toList ++ option.name).all isOrdinary := by
    cases option <;> dsimp only [LongOption.name] <;> decide
  rw [text, List.all_append, name, Bool.true_and]
  cases valueEq : option.value with
  | none => exact List.all_nil
  | some value =>
      rw [List.all_cons, ordinary value valueEq, Bool.and_true]
      decide

end LongOption

section InstallOptions

variable (config : TetherConfig)

theorem args_eq :
    InstallDaemon.args config = (installOptions config).map LongOption.text := by
  unfold InstallDaemon.args installOptions
  cases config.staticIp <;> cases config.gateway <;> split_ifs <;> rfl

theorem foldl_installOptions :
    (installOptions config).foldl .give noOptions = installedLine config := by
  unfold installOptions installedLine
  cases config.staticIp <;> cases config.gateway <;> split_ifs <;>
    simp [CommandLine.give, noOptions, *]

theorem installOptions_nodup :
    ((installOptions config).map LongOption.name).Nodup := by
  have all : (["daemon".toList, "no-route".toList, "watch".toList,
      "dns-mode".toList, "dns-provider".toList] ++ ["static".toList] ++
      ["gateway".toList] ++ ["verbose".toList]).Nodup := by decide
  have optional (addr : Option Ipv4Addr) {option : Ipv4Addr → LongOption}
      {name : Text} (named : ∀ addr, (option addr).name = name) :
      ((addr.map option).toList.map LongOption.name).Sublist [name] := by
    cases addr with
    | none => exact List.nil_sublist _
    | some addr => rw [Option.map_some, Option.toList_some, List.map_singleton,
        named]
  have static : ((config.staticIp.map fun ip =>
      LongOption.staticIp ip.toText).toList.map LongOption.name).Sublist
        ["static".toList] := optional _ fun _ => rfl
  have gateway : ((config.gateway.map fun gw =>
      LongOption.gateway gw.toText).toList.map LongOption.name).Sublist
        ["gateway".toList] := optional _ fun _ => rfl
  have verbose : ((if config.logLevel = .debug then [.verbose] else
      []).map LongOption.name).Sublist ["verbose".toList] := by
    split_ifs
    · exact List.Sublist.refl _
    · exact List.nil_sublist _
  refine all.sublist ?_
  rw [installOptions, List.map_append, List.map_append, List.map_append]
  exact (((List.Sublist.refl _).append static).append gateway).append verbose

theorem installOptions_values :
    ∀ option ∈ installOptions config, ∀ value ∈ option.value,
      value.all isOrdinary ∧ value ≠ [] := by
  have mode :
      (dnsModeFlag config).all isOrdinary ∧ dnsModeFlag config ≠ [] := by
    unfold dnsModeFlag
    cases config.dnsMode <;> decide
  have provider :
      (dnsProviderFlag config).all isOrdinary ∧ dnsProviderFlag config ≠ [] := by
    unfold dnsProviderFlag
    cases config.dnsProvider <;> decide
  have address (addr : Ipv4Addr) :
      addr.toText.all isOrdinary ∧ addr.toText ≠ [] :=
    ⟨ordinary_toText addr, addr.toText_ne_nil⟩
  unfold installOptions
  cases config.staticIp <;> cases config.gateway <;> split_ifs <;>
    simp [LongOption.value, mode, provider, address, -List.all_eq_true]

theorem args_plain : ∀ arg ∈ InstallDaemon.args config, Plain arg := by
  rw [args_eq, List.forall_mem_map]
  intro option member
  exact plain_of_ordinary (LongOption.ordinary_text fun value given =>
    (installOptions_values config option member value given).1)

end InstallOptions

/-- `ProgramArguments` of the property list, decoded. -/
def programArguments (exe : Text) (config : TetherConfig) :
    Option (List Text) :=
  arrayAt "ProgramArguments".toList (tags (InstallDaemon.plist exe config))

/-- The executable is read back exactly if it is plain text. -/
theorem programArguments_eq_iff {exe : Text} {config : TetherConfig}
    {arguments : List Text} :
    programArguments exe config = some (exe :: arguments) ↔
      Plain exe ∧ arguments = InstallDaemon.args config := by
  obtain ⟨gap, more, decoded, space, rest⟩ :=
    InstallDaemon.arrayAt_plist exe (args_plain config)
  rw [programArguments, decoded]
  constructor
  · intro read
    have plain := plain_of_strings read
    rw [strings_plain plain space, rest] at read
    cases read
    exact ⟨plain, rfl⟩
  · rintro ⟨plain, rfl⟩
    rw [strings_plain plain space, rest, Option.map_some]

/-- A host without a config file. -/
def noFile : Host :=
  ⟨none, fun _ => none⟩

/-- The configuration of the daemon. -/
def restarted (config : TetherConfig) : TetherConfig :=
  { config with
    noRoute := true
    noDns := false
    netmask := TetherConfig.default.netmask
    logLevel := if config.logLevel = .debug then .debug else .info
    watchMode := true
    daemon := true
    install := false
    uninstall := false }

/-- A configuration with a static address has a gateway. -/
theorem gateway_of_fromCli {host : Host} {given : CommandLine}
    {config : TetherConfig}
    (produced : TetherConfig.fromCli host given.args = .ok (.ok config))
    (static : config.staticIp.isSome) : config.gateway.isSome := by
  obtain ⟨-, rfl⟩ := TetherConfig.fromCli_eq_ok.mp produced
  revert static
  unfold TetherConfig.withDefaultGateway
  split_ifs with missing
  · exact fun _ => rfl
  · intro static
    by_contra none
    exact missing ⟨static, by simpa using none⟩

theorem bind_parse_map_toText (addr : Option Ipv4Addr) :
    (addr.map Ipv4Addr.toText).bind Ipv4Addr.parse = addr := by
  cases addr with
  | none => rfl
  | some addr => exact addr.parse_toText

theorem parseDnsMode_dnsModeFlag (config : TetherConfig) :
    parseDnsMode (dnsModeFlag config) = config.dnsMode := by
  rw [dnsModeFlag]
  cases config.dnsMode <;> rfl

theorem parseDnsProvider_dnsProviderFlag (config : TetherConfig) :
    parseDnsProvider (dnsProviderFlag config) = config.dnsProvider := by
  rw [dnsProviderFlag]
  cases config.dnsProvider <;> rfl

theorem installedLine_valid (config : TetherConfig) :
    (installedLine config).AddressesValid := by
  have address (addr : Option Ipv4Addr) :
      ∀ text ∈ addr.map Ipv4Addr.toText, (Ipv4Addr.parse text).isSome := by
    intro text member
    obtain ⟨addr, -, rfl⟩ := Option.map_eq_some_iff.mp member
    rw [addr.parse_toText, Option.isSome_some]
  refine List.forall_mem_cons.mpr ⟨address config.staticIp, ?_⟩
  exact List.forall_mem_cons.mpr ⟨address config.gateway, by simp [installedLine,
    noOptions]⟩

/-- The arguments of the daemon give back the addresses and DNS options. -/
theorem fromCli_installedLine {config : TetherConfig}
    (gateway : config.staticIp.isSome → config.gateway.isSome) :
    TetherConfig.fromCli noFile (installedLine config).args =
      .ok (.ok (restarted config)) := by
  have sources : ((installedLine config).late.above
        ((Layer.ofFile []).above (installedLine config).early)).onto
          (installedLine config).unset = restarted config := by
    have empty : Layer.ofFile [] =
        ⟨none, none, none, none, none, none, none, none⟩ := rfl
    simp only [empty, Layer.above, Layer.onto, CommandLine.late,
      CommandLine.early, CommandLine.layer, CommandLine.unset,
      CommandLine.args, installedLine, noOptions, restarted,
      TetherConfig.default, bind_parse_map_toText, Option.getD_some,
      Option.none_or, Option.or_none,
      parseDnsMode_dnsModeFlag, parseDnsProvider_dnsProviderFlag]
    by_cases debug : config.logLevel = .debug <;> simp [debug]
  have noDefault : (restarted config).withDefaultGateway = restarted config := by
    refine if_neg fun missing => ?_
    have given : config.gateway.isSome := gateway missing.1
    rw [Option.isSome_iff_ne_none] at given
    exact given (Option.isNone_iff_eq_none.mp missing.2)
  refine TetherConfig.fromCli_eq_ok.mpr ⟨installedLine_valid config, ?_⟩
  rw [← noDefault, ← sources]
  rfl

/-- The settings that the daemon should keep. -/
structure SameSettings (again config : TetherConfig) : Prop where
  staticIp : again.staticIp = config.staticIp
  gateway : again.gateway = config.gateway
  netmask : again.netmask = config.netmask
  noDns : again.noDns = config.noDns
  dnsMode : again.dnsMode = config.dnsMode
  dnsProvider : again.dnsProvider = config.dnsProvider
  debugLogging : again.logLevel = .debug ↔ config.logLevel = .debug

/-- The property list decodes to the executable and to arguments from which
the program gets the settings back. -/
def DaemonRoundTrips (clap : List Text → Option CommandLine) (exe : Text)
    (config : TetherConfig) : Prop :=
  ∃ arguments given again,
    programArguments exe config = some (exe :: arguments) ∧
      clap arguments = some given ∧
      TetherConfig.fromCli noFile given.args = .ok (.ok again) ∧
      SameSettings again config

theorem daemonRoundTrips_iff_restarted {clap : List Text → Option CommandLine}
    (contract : ParsesLongOptions clap) {config : TetherConfig}
    (gateway : config.staticIp.isSome → config.gateway.isSome) (exe : Text) :
    DaemonRoundTrips clap exe config ↔
      Plain exe ∧ SameSettings (restarted config) config := by
  have parsed : clap (InstallDaemon.args config) =
      some (installedLine config) := by
    rw [args_eq, ← foldl_installOptions]
    exact contract _ (installOptions_nodup config) fun option member empty =>
      (installOptions_values config option member [] empty).2 rfl
  constructor
  · rintro ⟨arguments, given, again, decoded, parsedAs, returned, same⟩
    obtain ⟨plain, rfl⟩ := programArguments_eq_iff.mp decoded
    rw [parsed] at parsedAs
    cases parsedAs
    rw [fromCli_installedLine gateway] at returned
    cases returned
    exact ⟨plain, same⟩
  · rintro ⟨plain, same⟩
    exact ⟨_, _, _, programArguments_eq_iff.mpr ⟨plain, rfl⟩, parsed,
      fromCli_installedLine gateway, same⟩

theorem sameSettings_restarted_iff (config : TetherConfig) :
    SameSettings (restarted config) config ↔
      config.netmask = Ipv4Addr.new 255 255 255 0 ∧ config.noDns = false := by
  constructor
  · exact fun same => ⟨same.netmask.symm, same.noDns.symm⟩
  · rintro ⟨netmask, noDns⟩
    refine ⟨rfl, rfl, netmask.symm, noDns.symm, rfl, rfl, ?_⟩
    rw [restarted]
    split_ifs with debug <;> simp [debug]

/-- The installation keeps the settings exactly with the default netmask, with
DNS configuration and with a path that needs no escaping. -/
theorem daemonRoundTrips_iff {clap : List Text → Option CommandLine}
    (contract : ParsesLongOptions clap) {host : Host} {given : CommandLine}
    {config : TetherConfig}
    (produced : TetherConfig.fromCli host given.args = .ok (.ok config))
    (exe : Text) :
    DaemonRoundTrips clap exe config ↔
      config.netmask = Ipv4Addr.new 255 255 255 0 ∧ config.noDns = false ∧
        Plain exe := by
  rw [daemonRoundTrips_iff_restarted contract (gateway_of_fromCli produced),
    sameSettings_restarted_iff, and_comm, and_assoc]

/-- A parser of long options. -/
def readOptions (texts : List Text) : Option CommandLine :=
  (texts.mapM LongOption.read).map (·.foldl .give noOptions)

theorem mapM_read_text (options : List LongOption) :
    (options.map LongOption.text).mapM LongOption.read = some options := by
  induction options with
  | nil => rfl
  | cons option options ih =>
      rw [List.map_cons, List.mapM_cons, LongOption.read_text, ih]
      rfl

theorem readOptions_parses : ParsesLongOptions readOptions := by
  intro options _ _
  rw [readOptions, mapM_read_text, Option.map_some]

/-- `android-tether --install --dns-mode=doh --static=10.0.0.2` -/
def dohInstall : CommandLine :=
  { noOptions with
    staticIp := some "10.0.0.2".toList
    dnsMode := some "doh".toList
    install := true }

def dohConfig : TetherConfig :=
  { TetherConfig.default with
    staticIp := some (Ipv4Addr.new 10 0 0 2)
    gateway := some (Ipv4Addr.new 192 168 42 129)
    dnsMode := .doH
    install := true }

theorem dohConfig_roundTrips :
    DaemonRoundTrips readOptions "/usr/local/bin/android-tether".toList
      dohConfig :=
  (@daemonRoundTrips_iff _ readOptions_parses noFile dohInstall _ rfl _).mpr
    ⟨rfl, rfl, plain_of_ordinary (by decide)⟩

/-- `android-tether --install --no-dns --netmask=255.255.0.0` -/
def noDnsInstall : CommandLine :=
  { noOptions with
    noDns := true
    netmask := some "255.255.0.0".toList
    install := true }

def noDnsConfig : TetherConfig :=
  { TetherConfig.default with
    noDns := true
    netmask := Ipv4Addr.new 255 255 0 0
    install := true }

/-- The daemon forgets the netmask and that it should leave DNS alone. -/
theorem noDnsConfig_not_roundTrips :
    TetherConfig.fromCli noFile noDnsInstall.args = .ok (.ok noDnsConfig) ∧
      ¬ DaemonRoundTrips readOptions "/usr/local/bin/android-tether".toList
        noDnsConfig := by
  refine ⟨rfl, fun roundTrips => ?_⟩
  have restarts := daemonRoundTrips_iff_restarted readOptions_parses
    (gateway_of_fromCli (show TetherConfig.fromCli noFile noDnsInstall.args =
      .ok (.ok noDnsConfig) from rfl)) "/usr/local/bin/android-tether".toList
  exact absurd (restarts.mp roundTrips).2.noDns (by decide)

end AndroidTether
