import AndroidTether.Config
import AndroidTether.LastWins

/-!
# What the ini file says

The file as a list of assignments, each with the section it stands in, and the
values that the last valid assignments give.  Section names and values are
compared with the words of the format, in letters of either case.  Merging a
file puts the values over the configuration, whatever it was.
-/

namespace AndroidTether

open Checked Text

/-- What a line says. -/
inductive IniLine
  | nothing
  | heading (name : Text)
  | assignment (key val : Text)

def IniLine.read (raw : Text) : IniLine :=
  let line := trim raw
  if line = [] ∨ line.head? = some ';' ∨ line.head? = some '#' then .nothing
  else if line.head? = some '[' ∧ line.getLast? = some ']' then
    .heading line.tail.dropLast
  else if '=' ∈ line then
    .assignment (trim (line.takeWhile (· ≠ '=')))
      (trim (line.dropWhile (· ≠ '=')).tail)
  else .nothing

/-- An assignment with the section it stands in. -/
structure IniAssignment where
  sectionName : Text
  key : Text
  val : Text

/-- The assignments of some lines, after a heading. -/
def assignmentsIn (sectionName : Text) : List Text → List IniAssignment
  | [] => []
  | raw :: rest =>
      match IniLine.read raw with
      | .nothing => assignmentsIn sectionName rest
      | .heading name => assignmentsIn name rest
      | .assignment key val =>
          ⟨sectionName, key, val⟩ :: assignmentsIn sectionName rest

/-- The assignments of a file, whose first lines are in no section. -/
def assignments (contents : Text) : List IniAssignment :=
  assignmentsIn [] (lines contents)

/-- The value that an assignment gives the setting of a section and key, if
it is one that can be read. -/
def IniAssignment.valueAt {β : Type} (sectionName key : String)
    (read : Text → Option β) (item : IniAssignment) : Option β :=
  if Spells sectionName.toList item.sectionName ∧
      String.ofList item.key = key then
    read item.val
  else none

section ValueAt

variable {β : Type} {sectionName key : String} {read : Text → Option β}
  {item : IniAssignment}

theorem IniAssignment.valueAt_eq (small : IsSmall sectionName.toList) :
    item.valueAt sectionName key read =
      if String.ofList (toLowercase item.sectionName) = sectionName ∧
          String.ofList item.key = key then
        read item.val
      else none :=
  if_congr (and_congr_left' (spells_iff small item.sectionName)) rfl rfl

theorem IniAssignment.valueAt_eq_none (small : IsSmall sectionName.toList)
    (elsewhere : String.ofList (toLowercase item.sectionName) = sectionName →
      String.ofList item.key = key → False) :
    item.valueAt sectionName key read = none := by
  rw [valueAt_eq small]
  exact if_neg fun here => elsewhere here.1 here.2

end ValueAt

/-- The last value that some assignments give a setting. -/
def lastValue {β : Type} (sectionName key : String) (read : Text → Option β)
    (items : List IniAssignment) : Option β :=
  (items.filterMap (IniAssignment.valueAt sectionName key read)).getLast?

section LastValue

variable {β : Type} {sectionName key : String} {read : Text → Option β}

theorem lastValue_singleton (item : IniAssignment) :
    lastValue sectionName key read [item] =
      item.valueAt sectionName key read := by
  rw [lastValue, getLast?_filterMap_cons]
  rfl

theorem lastValue_cons (item : IniAssignment) (items : List IniAssignment) :
    lastValue sectionName key read (item :: items) =
      (lastValue sectionName key read items).or
        (lastValue sectionName key read [item]) := by
  rw [lastValue_singleton, lastValue, getLast?_filterMap_cons, lastValue]

end LastValue

/-- The value of the word that a text is, in letters of either case.  Any other
text, also the name of the fallback itself, means the fallback. -/
def wordValue {β : Type} (words : List (String × β)) (fallback : β)
    (val : Text) : β :=
  ((words.find? fun word => Spells word.1.toList val).map Prod.snd).getD
    fallback

def levelWords : List (String × LevelFilter) :=
  [("debug", .debug), ("info", .info), ("warn", .warn), ("error", .error)]

def modeWords : List (String × DnsMode) :=
  [("doh", .doH), ("dot", .doT)]

def providerWords : List (String × DnsProvider) :=
  [("google", .google), ("quad9", .quad9)]

/-- The values that one source gives to the settings. -/
@[ext]
structure Layer where
  noRoute : Option Bool
  noDns : Option Bool
  staticIp : Option Ipv4Addr
  gateway : Option Ipv4Addr
  netmask : Option Ipv4Addr
  logLevel : Option LevelFilter
  dnsMode : Option DnsMode
  dnsProvider : Option DnsProvider
  deriving DecidableEq

namespace Layer

/-- The last value that is assigned to each setting.  Every text is a value
for the flags, the level and the DNS options, if need be the fallback; only
addresses can be invalid. -/
def ofAssignments (items : List IniAssignment) : Layer where
  noRoute := lastValue "network" "no_route"
    (fun val => some (val = "true".toList)) items
  noDns := lastValue "network" "no_dns"
    (fun val => some (val = "true".toList)) items
  staticIp := lastValue "network" "static_ip" Ipv4Addr.parse items
  gateway := lastValue "network" "gateway" Ipv4Addr.parse items
  netmask := lastValue "network" "netmask" Ipv4Addr.parse items
  logLevel := lastValue "logging" "level"
    (fun val => some (wordValue levelWords .info val)) items
  dnsMode := lastValue "dns" "mode"
    (fun val => some (wordValue modeWords .system val)) items
  dnsProvider := lastValue "dns" "provider"
    (fun val => some (wordValue providerWords .cloudflare val)) items

def ofFile (contents : Text) : Layer :=
  ofAssignments (assignments contents)

/-- Two sources, of which the first takes precedence. -/
def above (upper lower : Layer) : Layer where
  noRoute := upper.noRoute.or lower.noRoute
  noDns := upper.noDns.or lower.noDns
  staticIp := upper.staticIp.or lower.staticIp
  gateway := upper.gateway.or lower.gateway
  netmask := upper.netmask.or lower.netmask
  logLevel := upper.logLevel.or lower.logLevel
  dnsMode := upper.dnsMode.or lower.dnsMode
  dnsProvider := upper.dnsProvider.or lower.dnsProvider

/-- The configuration with the values of a source put over it. -/
def onto (layer : Layer) (config : TetherConfig) : TetherConfig :=
  { config with
    noRoute := layer.noRoute.getD config.noRoute
    noDns := layer.noDns.getD config.noDns
    staticIp := layer.staticIp.or config.staticIp
    gateway := layer.gateway.or config.gateway
    netmask := layer.netmask.getD config.netmask
    logLevel := layer.logLevel.getD config.logLevel
    dnsMode := layer.dnsMode.getD config.dnsMode
    dnsProvider := layer.dnsProvider.getD config.dnsProvider }

theorem above_onto (upper lower : Layer) (config : TetherConfig) :
    (upper.above lower).onto config = upper.onto (lower.onto config) := by
  simp [above, onto, Option.getD_or, Option.or_assoc]

theorem ofAssignments_cons (item : IniAssignment)
    (items : List IniAssignment) :
    ofAssignments (item :: items) =
      (ofAssignments items).above (ofAssignments [item]) := by
  simp only [ofAssignments, above]
  congr 1 <;> exact lastValue_cons item items

end Layer

theorem parseLevel_eq (val : Text) :
    parseLevel val = wordValue levelWords .info val := by
  simp only [wordValue, levelWords, List.find?_cons, List.find?_nil,
    spells_iff (show IsSmall "debug".toList by decide),
    spells_iff (show IsSmall "info".toList by decide),
    spells_iff (show IsSmall "warn".toList by decide),
    spells_iff (show IsSmall "error".toList by decide)]
  unfold parseLevel
  generalize String.ofList (toLowercase val) = word
  split <;> simp_all

theorem parseDnsMode_eq (val : Text) :
    parseDnsMode val = wordValue modeWords .system val := by
  simp only [wordValue, modeWords, List.find?_cons, List.find?_nil,
    spells_iff (show IsSmall "doh".toList by decide),
    spells_iff (show IsSmall "dot".toList by decide)]
  unfold parseDnsMode
  generalize String.ofList (toLowercase val) = word
  split <;> simp_all

theorem parseDnsProvider_eq (val : Text) :
    parseDnsProvider val = wordValue providerWords .cloudflare val := by
  simp only [wordValue, providerWords, List.find?_cons, List.find?_nil,
    spells_iff (show IsSmall "google".toList by decide),
    spells_iff (show IsSmall "quad9".toList by decide)]
  unfold parseDnsProvider
  generalize String.ofList (toLowercase val) = word
  split <;> simp_all

namespace TetherConfig

theorem assign_eq (self : TetherConfig) (item : IniAssignment) :
    self.assign (toLowercase item.sectionName) item.key item.val =
      (Layer.ofAssignments [item]).onto self := by
  have network : IsSmall "network".toList := by decide
  have logging : IsSmall "logging".toList := by decide
  have dns : IsSmall "dns".toList := by decide
  have inNetwork {β : Type} (key : String) (read : Text → Option β) :=
    @IniAssignment.valueAt_eq β "network" key read item network
  have inLogging {β : Type} (key : String) (read : Text → Option β) :=
    @IniAssignment.valueAt_eq β "logging" key read item logging
  have inDns {β : Type} (key : String) (read : Text → Option β) :=
    @IniAssignment.valueAt_eq β "dns" key read item dns
  simp only [Layer.ofAssignments, Layer.onto, lastValue_singleton,
    ← parseLevel_eq, ← parseDnsMode_eq, ← parseDnsProvider_eq]
  unfold assign
  split
  case h_3 | h_4 | h_5 =>
    -- An empty text is no address, so that the guard changes nothing.
    by_cases empty : item.val = []
    · simp [*, show Ipv4Addr.parse [] = none from rfl]
    · cases parsed : Ipv4Addr.parse item.val <;> simp [*]
  case h_9 noRoute noDns staticIp gateway netmask level mode provider =>
    simp [IniAssignment.valueAt_eq_none network noRoute,
      IniAssignment.valueAt_eq_none network noDns,
      IniAssignment.valueAt_eq_none network staticIp,
      IniAssignment.valueAt_eq_none network gateway,
      IniAssignment.valueAt_eq_none network netmask,
      IniAssignment.valueAt_eq_none logging level,
      IniAssignment.valueAt_eq_none dns mode,
      IniAssignment.valueAt_eq_none dns provider]
  all_goals simp [*]

/-- A line never panics: its slices end at ASCII characters. -/
theorem mergeLine_eq (sectionName : Text) (self : TetherConfig) (raw : Text) :
    mergeLine (sectionName, self) raw =
      .ok (match IniLine.read raw with
        | .nothing => (sectionName, self)
        | .heading name => (toLowercase name, self)
        | .assignment key val =>
            (sectionName, self.assign sectionName key val)) := by
  simp only [mergeLine, IniLine.read]
  generalize trim raw = line
  split
  case isTrue => rfl
  case isFalse =>
    split
    case isTrue bracketed =>
      rw [slice_enclosed bracketed.1 bracketed.2 (by decide) rfl rfl, ok_bind]
      rfl
    case isFalse =>
      rcases find_cases '=' line with
        ⟨absent, notFound⟩ | ⟨key, val, rfl, absent, found⟩
      · rw [notFound, if_neg absent]
      · have size : byteLength key + 1 = byteLength (key ++ ['=']) := by
          rw [byteLength_append]
          rfl
        have rest := dropBytes_append (key ++ ['=']) val
        rw [List.append_assoc, List.singleton_append] at rest
        rw [found, if_pos (by simp), takeWhile_ne absent, dropWhile_ne absent,
          List.tail_cons]
        simp only [takeBytes_append, ok_bind, size, rest, pure_eq_ok]

/-- The lines of a file, in the section of the line before. -/
theorem foldlM_mergeLine (sectionName : Text) (self : TetherConfig)
    (raws : List Text) :
    ∃ last, raws.foldlM mergeLine (toLowercase sectionName, self) =
      .ok (last, (Layer.ofAssignments (assignmentsIn sectionName raws)).onto
        self) := by
  induction raws generalizing sectionName self with
  | nil => exact ⟨toLowercase sectionName, rfl⟩
  | cons raw raws ih =>
      rw [List.foldlM_cons, mergeLine_eq, ok_bind, assignmentsIn]
      cases IniLine.read raw with
      | nothing => exact ih sectionName self
      | heading name => exact ih name self
      | assignment key val =>
          rw [Layer.ofAssignments_cons, Layer.above_onto, ← assign_eq]
          exact ih sectionName _

/-- Merging a file never panics, and gives each setting the last valid value
of the file. -/
theorem mergeIni_eq (self : TetherConfig) (contents : Text) :
    self.mergeIni contents = .ok ((Layer.ofFile contents).onto self) := by
  obtain ⟨last, merged⟩ := foldlM_mergeLine [] self (lines contents)
  rw [toLowercase, List.map_nil] at merged
  rw [mergeIni, merged, ok_bind]
  rfl

end TetherConfig

end AndroidTether
