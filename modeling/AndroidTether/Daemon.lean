import AndroidTether.ConfigPrecedence
import AndroidTether.PropertyList

/-!
# The launchd daemon

The property list that `install_daemon` of `daemon.rs` writes, and the options
of the command line that it stands for.
-/

namespace AndroidTether

open Text

/-- Vendor and product numbers of phones with RNDIS. -/
def vidpids : List (String × String) :=
  [("0x18d1", "0x4eeb"), ("0x18d1", "0x4ee1"), ("0x18d1", "0x4ee2"),
    ("0x18d1", "0x4ee3"), ("0x18d1", "0x4ee4"), ("0x18d1", "0x4ee5"),
    ("0x18d1", "0x4ee6"), ("0x18d1", "0x4ee7"), ("0x22d9", "0x2766"),
    ("0x22b8", "0x2e82"), ("0x0bb4", "0x0ffe"), ("0x0bb4", "0x0c02"),
    ("0x04e8", "0x6863"), ("0x04e8", "0x6864"), ("0x04e8", "0x6865"),
    ("0x04e8", "0x6866"), ("0x2717", "0xff08"), ("0x2717", "0xff80"),
    ("0x2a70", "0x9011"), ("0x1004", "0x633e")]

/-- `trim_start_matches("0x")` -/
def trimHexPrefix : Text → Text
  | '0' :: 'x' :: rest => trimHexPrefix rest
  | text => text

/-- `u32::from_str_radix(_, 16).unwrap_or(0)` of a text without sign. -/
def hexValue (text : Text) : Nat :=
  match Xml.number 16 text with
  | some value => if value < 2 ^ 32 then value else 0
  | none => 0

/-- Lines, joined without a line end behind the last one. -/
def joinLines (texts : List Text) : Text :=
  ['\n'].intercalate texts

def dnsModeFlag (config : TetherConfig) : Text :=
  match config.dnsMode with
  | .system => "system".toList
  | .doH => "doh".toList
  | .doT => "dot".toList

def dnsProviderFlag (config : TetherConfig) : Text :=
  match config.dnsProvider with
  | .cloudflare => "cloudflare".toList
  | .google => "google".toList
  | .quad9 => "quad9".toList

namespace InstallDaemon

/-- `args` -/
def args (config : TetherConfig) : List Text :=
  let args := ["--daemon".toList, "--no-route".toList, "--watch".toList,
    "--dns-mode=".toList ++ dnsModeFlag config,
    "--dns-provider=".toList ++ dnsProviderFlag config]
  let args := match config.staticIp with
    | some ip => args ++ ["--static=".toList ++ ip.toText]
    | none => args
  let args := match config.gateway with
    | some gw => args ++ ["--gateway=".toList ++ gw.toText]
    | none => args
  if config.logLevel = .debug then args ++ ["--verbose".toList] else args

def programArgsXml (config : TetherConfig) : Text :=
  joinLines ((args config).map fun a =>
    "            <string>".toList ++ a ++ "</string>".toList)

def matchingDicts : Text :=
  joinLines (vidpids.map fun (vid, pid) =>
    let vidInt := hexValue (trimHexPrefix vid.toList)
    let pidInt := hexValue (trimHexPrefix pid.toList)
    joinLines ["                <dict>".toList,
      "<key>idVendor</key>".toList,
      "<integer>".toList ++ Nat.toDigits 10 vidInt ++ "</integer>".toList,
      "<key>idProduct</key>".toList,
      "<integer>".toList ++ Nat.toDigits 10 pidInt ++ "</integer>".toList,
      "<key>IOProviderClass</key>".toList,
      "<string>IOUSBDevice</string>".toList,
      "</dict>".toList])

def logFile : Text :=
  "/var/log".toList ++ "/tetherd.log".toList

/-- The property list up to the path of the executable. -/
def plistHead : List String :=
  ["<?xml version=\"1.0\" encoding=\"UTF-8\"?>",
    "<!DOCTYPE plist PUBLIC \"-//Apple//DTD PLIST 1.0//EN\"",
    "  \"http://www.apple.com/DTDs/PropertyList-1.0.dtd\">",
    "<plist version=\"1.0\">",
    "<dict>",
    "    <key>Label</key>",
    "    <string>com.tetherd.daemon</string>",
    "    <key>ProgramArguments</key>",
    "    <array>"]

def plistLaunchEvents : List String :=
  ["    </array>",
    "    <key>LaunchEvents</key>",
    "    <dict>",
    "        <key>com.apple.iokit.matching</key>",
    "        <dict>",
    "            <key>com.apple.device-attach</key>",
    "            <array>"]

def plistTail : List Text :=
  ["            </array>".toList,
    "        </dict>".toList,
    "    </dict>".toList,
    "    <key>KeepAlive</key>".toList,
    "    <false/>".toList,
    "    <key>RunAtLoad</key>".toList,
    "    <false/>".toList,
    "    <key>StandardOutPath</key>".toList,
    "    <string>".toList ++ logFile ++ "</string>".toList,
    "    <key>StandardErrorPath</key>".toList,
    "    <string>".toList ++ logFile ++ "</string>".toList,
    "    <key>UserName</key>".toList,
    "    <string>root</string>".toList,
    "    <key>GroupName</key>".toList,
    "    <string>wheel</string>".toList,
    "</dict>".toList,
    "</plist>".toList]

/-- What is written to the property list, for an executable path. -/
def plist (exe : Text) (config : TetherConfig) : Text :=
  joinLines (plistHead.map String.toList ++
    ["        <string>".toList ++ exe ++ "</string>".toList,
      programArgsXml config] ++
    plistLaunchEvents.map String.toList ++ [matchingDicts] ++ plistTail)

end InstallDaemon

theorem joinLines_append {first : List Text} (nonempty : first ≠ [])
    (rest : List Text) :
    joinLines (first ++ rest) = joinLines first ++ rest.flatMap ('\n' :: ·) := by
  have lines (line : Text) (others : List Text) :
      joinLines (line :: others) = line ++ others.flatMap ('\n' :: ·) := by
    induction others generalizing line with
    | nil => simp [joinLines]
    | cons next others ih =>
        have step : joinLines (line :: next :: others) =
            line ++ '\n' :: joinLines (next :: others) := by
          simp [joinLines]
        rw [step, ih]
        rfl
  cases first with
  | nil => exact absurd rfl nonempty
  | cons line first =>
      rw [List.cons_append, lines, lines, List.flatMap_append,
        List.append_assoc]

theorem newline_joinLines {texts : List Text} (nonempty : texts ≠ []) :
    '\n' :: joinLines texts = texts.flatMap ('\n' :: ·) := by
  cases texts with
  | nil => exact absurd rfl nonempty
  | cons line texts =>
      have alone : joinLines [line] = line := by simp [joinLines]
      have rest := @joinLines_append [line] (List.cons_ne_nil _ _) texts
      rw [List.singleton_append, alone] at rest
      rw [rest]
      rfl

namespace InstallDaemon

open Xml PropertyList

theorem args_ne_nil (config : TetherConfig) : args config ≠ [] := by
  unfold args
  cases config.staticIp <;> cases config.gateway <;> split_ifs <;> simp

theorem arrayAt_plistHead (rest : List Tag) :
    arrayAt "ProgramArguments".toList
      (tags (joinLines (plistHead.map String.toList) ++ "\n        ".toList) ++
        rest) = strings rest := by
  exact (rfl)

theorem programArgsXml_eq (config : TetherConfig) :
    '\n' :: programArgsXml config =
      (args config).flatMap (element "\n            ".toList) := by
  rw [programArgsXml, newline_joinLines (by simp [args_ne_nil]),
    List.flatMap_map]
  rfl

theorem plist_eq (exe : Text) (config : TetherConfig) :
    ∃ after, plist exe config =
      (joinLines (plistHead.map String.toList) ++ "\n        ".toList) ++
        '<' :: ((stringName ++ '>' :: exe) ++
          '<' :: (stringEnd ++ '>' ::
            ((args config).flatMap (element "\n            ".toList) ++
              ("\n    ".toList ++ '<' :: (arrayEnd ++ '>' :: after))))) := by
  have arrayEnds (lines : List Text) :
      ("    </array>".toList :: lines).flatMap ('\n' :: ·) =
        "\n    ".toList ++ '<' :: (arrayEnd ++
          '>' :: lines.flatMap ('\n' :: ·)) := rfl
  obtain ⟨events, eventsEq⟩ : ∃ events, plistLaunchEvents.map String.toList =
      "    </array>".toList :: events := ⟨_, rfl⟩
  refine ⟨(events ++ ([matchingDicts] ++ plistTail)).flatMap ('\n' :: ·), ?_⟩
  rw [plist, List.append_assoc, List.append_assoc, List.append_assoc,
    joinLines_append (by decide), List.flatMap_append, eventsEq,
    List.cons_append, arrayEnds, List.flatMap_cons, List.flatMap_singleton,
    programArgsXml_eq, List.append_assoc]
  generalize (args config).flatMap (element "\n            ".toList) ++ _ = rest
  rw [← List.cons_append, List.append_assoc, List.append_assoc,
    List.append_assoc]
  rfl

/-- `ProgramArguments` holds the string of the executable and the
arguments. -/
theorem arrayAt_plist (exe : Text) {config : TetherConfig}
    (plain : ∀ arg ∈ args config, Plain arg) :
    ∃ gap more,
      arrayAt "ProgramArguments".toList (tags (plist exe config)) =
          strings (tags (stringName ++ '>' :: exe) ++
            ⟨stringEnd, gap⟩ :: more) ∧
        gap.all isSpace ∧ strings more = some (args config) := by
  obtain ⟨after, layout⟩ := plist_eq exe config
  obtain ⟨gap, more, closing, space, read⟩ :=
    @strings_elements "\n            ".toList "\n    ".toList (by decide)
      (by decide) after _ plain
  refine ⟨gap, more, ?_, space, read⟩
  rw [layout, tags_append, tags_append, closing, arrayAt_plistHead]

end InstallDaemon

end AndroidTether
