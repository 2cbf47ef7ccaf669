import AndroidTether.DhcpOptions
import AndroidTether.LastWins

/-!
# Encoded DHCP options

Option areas as they are built: options with their values, padding anywhere
between them, and one of the ways in which an area can end.  A reader of areas
gets the options back, and `parse_dhcp_options` finds the last address of each
kind among them.
-/

namespace AndroidTether

open ByteWords Checked

/-- The code and the value of a cut item; padding is none. -/
def optionOf : Bytes → Option (UInt8 × Bytes)
  | code :: _ :: value => some (code, value)
  | _ => none

/-- The options that a reader finds in an area, in order. -/
def decodedOptions (opts : Bytes) : List (UInt8 × Bytes) :=
  (optionDelimiter.items opts).filterMap optionOf

/-- An address in a value that is long enough. -/
def addressIn (code : UInt8) (offset : Nat) (option : UInt8 × Bytes) :
    Option Ipv4Addr :=
  if option.1 = code ∧ offset + 4 ≤ option.2.length then
    some (Ipv4Addr.readAt option.2 offset)
  else none

/-- The address in the last option with a code whose value reaches behind
it. -/
def lastAddress (code : UInt8) (offset : Nat)
    (options : List (UInt8 × Bytes)) : Option Ipv4Addr :=
  (options.filterMap (addressIn code offset)).getLast?

namespace ParsedOptions

/-- What a list of options says. -/
def ofOptions (options : List (UInt8 × Bytes)) : ParsedOptions where
  gateway := lastAddress 3 0 options
  netmask := lastAddress 1 0 options
  dns1 := lastAddress 6 0 options
  dns2 := lastAddress 6 4 options

/-- The effect of one option. -/
def record (found : ParsedOptions) (option : UInt8 × Bytes) :
    ParsedOptions where
  gateway := (addressIn 3 0 option).or found.gateway
  netmask := (addressIn 1 0 option).or found.netmask
  dns1 := (addressIn 6 0 option).or found.dns1
  dns2 := (addressIn 6 4 option).or found.dns2

theorem foldl_record (options : List (UInt8 × Bytes)) :
    options.foldl record ⟨none, none, none, none⟩ = ofOptions options := by
  have last (field : ParsedOptions → Option Ipv4Addr) (code : UInt8)
      (offset : Nat)
      (overwrites : ∀ found option, field (record found option) =
        (addressIn code offset option).or (field found))
      (empty : field ⟨none, none, none, none⟩ = none) :
      field (options.foldl record ⟨none, none, none, none⟩) =
        lastAddress code offset options := by
    have folded := @foldl_eq_getLast? _ _ _ (addressIn code offset) field
      record (fun _ => True) (fun _ _ _ => trivial)
      (fun found option _ => overwrites found option)
      ⟨none, none, none, none⟩ trivial options
    rw [folded, empty, Option.or_none, lastAddress]
  have gateway := last gateway 3 0 (fun _ _ => rfl) rfl
  have netmask := last netmask 1 0 (fun _ _ => rfl) rfl
  have dns1 := last dns1 6 0 (fun _ _ => rfl) rfl
  have dns2 := last dns2 6 4 (fun _ _ => rfl) rfl
  rw [ofOptions, ← gateway, ← netmask, ← dns1, ← dns2]

end ParsedOptions

section RecordOption

variable {opts : Bytes} {item : Slice UInt8}

theorem readAddr_item (member : item ∈ options opts) {code olen : UInt8}
    {value : Bytes} (contentEq : item.content = code :: olen :: value)
    {offset : Nat} (inside : offset + 4 ≤ value.length) :
    readAddr opts (item.start + 2 + offset) =
      .ok (Ipv4Addr.readAt value offset) := by
  have bounds := Delimiter.slice_bounds member
  have cut := Delimiter.slice_content member
  simp only [Slice.stop, contentEq, List.length_cons, Nat.zero_add,
    Nat.sub_zero] at bounds cut
  rw [readAddr_eq_ok (by omega), Ipv4Addr.readAt]
  have valueEq : value = (opts.drop (item.start + 2)).take value.length := by
    have tail := congrArg (List.drop 2) cut
    rw [List.drop_take, List.drop_drop] at tail
    exact tail.symm
  have wordEq : beWordAt opts (item.start + 2 + offset) 4 =
      beWordAt value offset 4 := by
    conv_rhs => rw [valueEq]
    rw [beWordAt, beWordAt, List.drop_take, List.take_take, List.drop_drop,
      Nat.min_eq_left (by omega)]
  rw [wordEq]

theorem value_length_of_item (member : item ∈ options opts)
    {code olen : UInt8} {value : Bytes}
    (contentEq : item.content = code :: olen :: value) :
    value.length = olen.toNat := by
  obtain ⟨following, sizeEq, cut⟩ := Delimiter.slice_size member
  rcases optionSize_some sizeEq with
    ⟨rest, rfl, lengthEq⟩ |
      ⟨code', olen', value', rfl, -, -, fits, lengthEq⟩
  · simp [contentEq] at lengthEq
  · rw [contentEq, List.length_cons, List.length_cons] at cut lengthEq
    simp only [List.take_succ_cons, List.cons.injEq] at cut
    obtain ⟨-, rfl, -⟩ := cut
    omega

theorem recordOption_item (member : item ∈ options opts) {code olen : UInt8}
    {value : Bytes} (contentEq : item.content = code :: olen :: value)
    (found : ParsedOptions) :
    recordOption opts found item.start code olen.toNat =
      .ok (found.record (code, value)) := by
  have length := value_length_of_item member contentEq
  have first (long : 4 ≤ olen.toNat) := readAddr_item member contentEq
    (show 0 + 4 ≤ value.length by omega)
  have second (long : 8 ≤ olen.toNat) := readAddr_item member contentEq
    (show 4 + 4 ≤ value.length by omega)
  simp only [Nat.add_zero, Nat.add_assoc, Nat.reduceAdd] at first second
  simp only [recordOption, ParsedOptions.record, addressIn, length]
  by_cases known : code = 1 ∨ code = 3 ∨ code = 6
  swap
  · obtain ⟨notNetmask, notGateway, notDns⟩ := by simpa using known
    simp [notNetmask, notGateway, notDns]
  by_cases long : 4 ≤ olen.toNat
  swap
  · simp [long, show ¬ 8 ≤ olen.toNat by omega]
  rcases known with rfl | rfl | rfl
  · simp [long, first long]
  · simp [long, first long]
  · by_cases longer : 8 ≤ olen.toNat
    · simp [long, longer, first long, second longer]
    · simp [long, longer, first long]

/-- The loop records the options that a reader finds. -/
theorem parseDhcpOptions_eq (opts : Bytes) :
    parseDhcpOptions opts = .ok (.ofOptions (decodedOptions opts)) := by
  have folded (items : List (Slice UInt8))
      (cut : ∀ item ∈ items, item ∈ options opts) (found : ParsedOptions) :
      items.foldlM (visitItem (recordOption opts)) found =
        .ok (((items.map Slice.content).filterMap optionOf).foldl
          ParsedOptions.record found) := by
    induction items generalizing found with
    | nil => rfl
    | cons item items ih =>
        obtain ⟨member, rest⟩ := List.forall_mem_cons.mp cut
        rw [List.foldlM_cons, List.map_cons, List.filterMap_cons, visitItem]
        cases contentEq : item.content with
        | nil => exact ih rest found
        | cons code tail =>
            cases tail with
            | nil => exact ih rest found
            | cons olen value =>
                simp only [recordOption_item member contentEq, ok_bind]
                exact ih rest _
  rw [parseDhcpOptions, parseWalk, walkOptions_eq]
  change ((options opts).foldlM (visitItem (recordOption opts)) _ >>= _) = _
  rw [folded _ (fun _ member => member), ok_bind, if_pos rfl, pure_eq_ok,
    ParsedOptions.foldl_record]
  rfl

end RecordOption

/-- An option as it can be encoded. -/
structure DhcpOption where
  code : UInt8
  value : Bytes
  code_ne_pad : code ≠ 0x00
  code_ne_end : code ≠ 0xFF
  value_short : value.length < 256

/-- What an area is built from. -/
inductive AreaItem
  | pad
  | option (whole : DhcpOption)

/-- What can follow the last item of an area. -/
inductive AreaEnd
  | nothing
  | endMark (rest : Bytes)
  /-- An option without its length. -/
  | codeOnly (code : UInt8) (code_ne_pad : code ≠ 0x00)
      (code_ne_end : code ≠ 0xFF)
  /-- An option with too short a value. -/
  | cutOff (code olen : UInt8) (value : Bytes) (code_ne_pad : code ≠ 0x00)
      (code_ne_end : code ≠ 0xFF) (short : value.length < olen.toNat)

def DhcpOption.bytes (option : DhcpOption) : Bytes :=
  option.code :: UInt8.ofNat option.value.length :: option.value

def AreaItem.bytes : AreaItem → Bytes
  | .pad => [0x00]
  | .option whole => whole.bytes

def AreaEnd.bytes : AreaEnd → Bytes
  | .nothing => []
  | .endMark rest => 0xFF :: rest
  | .codeOnly code _ _ => [code]
  | .cutOff code olen value _ _ _ => code :: olen :: value

/-- The area of some items with an end. -/
def encodedArea (items : List AreaItem) (ending : AreaEnd) : Bytes :=
  items.flatMap AreaItem.bytes ++ ending.bytes

/-- The options among the items, without the padding. -/
def encodedOptions (items : List AreaItem) : List (UInt8 × Bytes) :=
  items.filterMap fun item =>
    match item with
    | .pad => none
    | .option whole => some (whole.code, whole.value)

theorem AreaItem.complete (item : AreaItem) :
    optionDelimiter.Complete item.bytes := by
  cases item with
  | pad =>
      intro following
      cases following <;> rfl
  | option whole =>
      refine option_complete whole.code_ne_end whole.code_ne_pad ?_
      rw [UInt8.toNat_ofNat', Nat.mod_eq_of_lt whole.value_short]

theorem AreaEnd.size_bytes (ending : AreaEnd) :
    optionDelimiter.size ending.bytes = none := by
  cases ending with
  | nothing => rfl
  | endMark rest => cases rest <;> rfl
  | codeOnly code code_ne_pad code_ne_end => exact if_neg code_ne_pad
  | cutOff code olen value code_ne_pad code_ne_end short =>
      change optionSize (code :: olen :: value) = none
      rw [optionSize, if_neg code_ne_end, if_neg code_ne_pad,
        if_neg (by omega)]

/-- The items come out of the area as they went in. -/
theorem items_encodedArea (items : List AreaItem) (ending : AreaEnd) :
    optionDelimiter.items (encodedArea items ending) =
      items.map AreaItem.bytes := by
  have cut := Delimiter.items_flatten_append
    (List.forall_mem_map.mpr fun item (_ : item ∈ items) => item.complete)
    ending.bytes
  rw [Delimiter.items_of_none ending.size_bytes, List.append_nil] at cut
  rw [encodedArea, List.flatMap_def, cut]

theorem decodedOptions_encodedArea (items : List AreaItem) (ending : AreaEnd) :
    decodedOptions (encodedArea items ending) = encodedOptions items := by
  rw [decodedOptions, items_encodedArea, List.filterMap_map, encodedOptions]
  refine List.filterMap_congr fun item _ => ?_
  cases item <;> rfl

/-- The options are decoded whatever padding stands between them and however
the area ends; no area makes the parser panic. -/
theorem parseDhcpOptions_decodes :
    (∀ (items : List AreaItem) (ending : AreaEnd),
        parseDhcpOptions (encodedArea items ending) =
          .ok (.ofOptions (encodedOptions items))) ∧
      ∀ opts, ∃ found, parseDhcpOptions opts = .ok found := by
  refine ⟨fun items ending => ?_, parseDhcpOptions_ok⟩
  rw [parseDhcpOptions_eq, decodedOptions_encodedArea]

/-- The last mask counts, and an end mark inside a value ends nothing. -/
example :
    ParsedOptions.ofOptions [(1, [255, 0, 0, 0]), (6, [8, 8, 8, 8]),
      (1, [255, 255, 255, 0]), (1, [255])] =
        ⟨none, some 0xFFFFFF00, some 0x08080808, none⟩ := by
  decide

end AndroidTether
