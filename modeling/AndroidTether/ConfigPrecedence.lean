import AndroidTether.IniMerge

/-!
# Which source a setting comes from

The command line should take precedence over the file, and the file over the
defaults.  `from_cli` sets the flags before it merges the file and the DNS
options after it, with the defaults that clap has filled in.
-/

namespace AndroidTether

open Checked

section Order

variable {β : Type}

end Order

namespace CommandLine

/-- The values that the options give. -/
def layer (given : CommandLine) : Layer where
  noRoute := if given.noRoute then some true else none
  noDns := if given.noDns then some true else none
  staticIp := given.staticIp.bind Ipv4Addr.parse
  gateway := given.gateway.bind Ipv4Addr.parse
  netmask := given.netmask.bind Ipv4Addr.parse
  logLevel := if given.verbose then some .debug else none
  dnsMode := given.dnsMode.map parseDnsMode
  dnsProvider := given.dnsProvider.map parseDnsProvider

/-- The defaults, in the modes that the command line selects. -/
def unset (given : CommandLine) : TetherConfig :=
  { TetherConfig.default with
    watchMode := given.watch
    daemon := given.daemon
    install := given.install
    uninstall := given.uninstall }

def AddressesValid (given : CommandLine) : Prop :=
  ∀ option ∈ [given.staticIp, given.gateway, given.netmask],
    ∀ text ∈ option, (Ipv4Addr.parse text).isSome

/-- What `from_cli` sets before the file. -/
def early (given : CommandLine) : Layer where
  noRoute := given.layer.noRoute
  noDns := given.layer.noDns
  staticIp := none
  gateway := none
  netmask := none
  logLevel := given.layer.logLevel
  dnsMode := none
  dnsProvider := none

/-- What `from_cli` sets after the file. -/
def late (given : CommandLine) : Layer where
  noRoute := none
  noDns := none
  staticIp := given.layer.staticIp
  gateway := given.layer.gateway
  netmask := given.layer.netmask
  logLevel := none
  dnsMode := some (parseDnsMode given.args.dnsMode)
  dnsProvider := some (parseDnsProvider given.args.dnsProvider)

end CommandLine

namespace TetherConfig

theorem ofFlags_eq (given : CommandLine) :
    ofFlags given.args = given.early.onto given.unset := by
  obtain ⟨noRoute, noDns, staticIp, gateway, netmask, config, verbose, watch,
    dnsMode, dnsProvider, daemon, install, uninstall⟩ := given
  cases noRoute <;> cases noDns <;> cases verbose <;> rfl

theorem overrideAddress_eq_ok {self next : TetherConfig}
    {option : Option Text} {refusal : String}
    {set : TetherConfig → Ipv4Addr → TetherConfig} :
    self.overrideAddress option refusal set = .ok next ↔
      (∀ text ∈ option, (Ipv4Addr.parse text).isSome) ∧
        (option.bind Ipv4Addr.parse).elim self (set self) = next := by
  cases option with
  | none => simp [overrideAddress]
  | some text =>
      cases parsed : Ipv4Addr.parse text <;>
        simp [overrideAddress, parsed]

theorem override_eq_ok {self config : TetherConfig} {given : CommandLine} :
    self.override given.args = .ok config ↔
      given.AddressesValid ∧
        config = (given.late.onto self).withDefaultGateway := by
  simp only [override, bind_eq_ok, overrideAddress_eq_ok,
    CommandLine.AddressesValid, List.forall_mem_cons, List.not_mem_nil,
    false_implies, implies_true, and_true, and_assoc, exists_and_left,
    exists_eq_left', pure_eq_ok, Except.ok.injEq, @eq_comm _ config]
  refine and_congr_right' (and_congr_right' (and_congr_right' ?_))
  simp only [CommandLine.late, CommandLine.layer, CommandLine.args]
  cases given.staticIp.bind Ipv4Addr.parse <;>
    cases given.gateway.bind Ipv4Addr.parse <;>
      cases given.netmask.bind Ipv4Addr.parse <;> rfl

/-- The file that is merged; one that cannot be read has no assignments. -/
def mergedFile (host : Host) (given : CommandLine) : Text :=
  (fileContents host given.args).getD []

theorem fromCli_eq_ok {host : Host} {given : CommandLine}
    {config : TetherConfig} :
    fromCli host given.args = .ok (.ok config) ↔
      given.AddressesValid ∧
        config = ((given.late.above
          ((Layer.ofFile (mergedFile host given)).above given.early)).onto
            given.unset).withDefaultGateway := by
  have merged : fromCli host given.args =
      .ok (override ((Layer.ofFile (mergedFile host given)).onto
        (given.early.onto given.unset)) given.args) := by
    rw [fromCli, mergedFile, ofFlags_eq]
    cases fileContents host given.args with
    | none => rfl
    | some contents =>
        simp only [mergeIni_eq, ok_bind]
        rfl
  rw [merged, Except.ok.injEq, override_eq_ok, Layer.above_onto,
    Layer.above_onto]

end TetherConfig

end AndroidTether
