import AndroidTether.NetTypes

/-!
# The DHCP option area

Three loops of `dhcp.rs` walk over the option area of a received packet: the
scan of the OFFER phase, the scan of the ACK phase and `parse_dhcp_options`.
They share one skeleton and differ in what they do with an option and in
whether they compare its length with the area first.
-/

namespace AndroidTether

open ByteWords Checked

/-- The common loop.  `lengthChecked` tells whether an option whose length
runs past the area ends the walk before it is looked at. -/
def walkOptions {σ : Type} (opts : Bytes) (optsEnd : Nat)
    (lengthChecked : Bool) (visit : σ → Nat → UInt8 → Nat → Checked σ)
    (state : σ) (i : Nat) : Checked σ :=
  if _inside : i < opts.length ∧ i < optsEnd then do
    let code ← index opts i
    if code = 0xFF then return state
    if code = 0x00 then
      walkOptions opts optsEnd lengthChecked visit state (i + 1)
    else if i + 1 ≥ opts.length ∨ i + 1 ≥ optsEnd then return state
    else
      let olen := (← index opts (i + 1)).toNat
      if lengthChecked ∧
          (i + 2 + olen > opts.length ∨ i + 2 + olen > optsEnd) then
        return state
      let state ← visit state i code olen
      walkOptions opts optsEnd lengthChecked visit state (i + 2 + olen)
  else return state
termination_by opts.length - i

/-- `Ipv4Addr::from(u32::from_be_bytes(opts[at..at + 4]))`. -/
def readAddr (opts : Bytes) (position : Nat) : Checked Ipv4Addr := do
  let octets ← range opts position (position + 4)
  return UInt32.ofNat (beNat octets)

structure ParsedOptions where
  gateway : Option Ipv4Addr
  netmask : Option Ipv4Addr
  dns1 : Option Ipv4Addr
  dns2 : Option Ipv4Addr
  deriving DecidableEq

/-- The `match` in the loop of `parse_dhcp_options`. -/
def recordOption (opts : Bytes) (found : ParsedOptions) (i : Nat)
    (code : UInt8) (olen : Nat) : Checked ParsedOptions := do
  if code = 1 ∧ olen ≥ 4 then
    return { found with netmask := some (← readAddr opts (i + 2)) }
  else if code = 3 ∧ olen ≥ 4 then
    return { found with gateway := some (← readAddr opts (i + 2)) }
  else if code = 6 ∧ olen ≥ 4 then
    let found := { found with dns1 := some (← readAddr opts (i + 2)) }
    if olen ≥ 8 then
      return { found with dns2 := some (← readAddr opts (i + 6)) }
    else return found
  else return found

/-- The loop of `parse_dhcp_options`. -/
def parseWalk {σ : Type} (opts : Bytes)
    (visit : σ → Nat → UInt8 → Nat → Checked σ) (state : σ) : Checked σ :=
  walkOptions opts opts.length true visit state 0

def parseDhcpOptions (opts : Bytes) : Checked ParsedOptions :=
  parseWalk opts (recordOption opts) ⟨none, none, none, none⟩

/-- What the OFFER scan collects: the message type, and the server identifier
if one was seen. -/
structure OfferScan where
  msgType : UInt8
  serverAddr : Option Ipv4Addr
  deriving DecidableEq

def visitOfferOption (opts : Bytes) (scan : OfferScan) (i : Nat)
    (code : UInt8) (olen : Nat) : Checked OfferScan := do
  let scan ←
    if code = 53 ∧ olen ≥ 1 then
      pure { scan with msgType := ← index opts (i + 2) }
    else pure scan
  if code = 54 ∧ olen ≥ 4 then
    return { scan with serverAddr := some (← readAddr opts (i + 2)) }
  else return scan

/-- The option loop of `process_frame`; it does not compare an option's length
with the area. -/
def offerWalk {σ : Type} (opts : Bytes)
    (visit : σ → Nat → UInt8 → Nat → Checked σ) (state : σ) : Checked σ :=
  walkOptions opts opts.length false visit state 0

def scanOffer (opts : Bytes) (serverAddr : Option Ipv4Addr) :
    Checked OfferScan :=
  offerWalk opts (visitOfferOption opts) ⟨0, serverAddr⟩

def visitAckOption (opts : Bytes) (msgType : UInt8) (i : Nat) (code : UInt8)
    (olen : Nat) : Checked UInt8 :=
  if code = 53 ∧ olen ≥ 1 then index opts (i + 2) else .ok msgType

/-- The option loop of `process_ack`. -/
def ackWalk {σ : Type} (opts : Bytes) (optsEnd : Nat)
    (visit : σ → Nat → UInt8 → Nat → Checked σ) (state : σ) : Checked σ :=
  walkOptions opts optsEnd true visit state 0

/-- The message type. -/
def scanAck (opts : Bytes) (optsEnd : Nat) : Checked UInt8 :=
  ackWalk opts optsEnd (visitAckOption opts) 0

/-- How an option area is cut: single zero bytes are padding, 0xFF ends the
area, every other option carries its length in the second byte. -/
def optionSize : Bytes → Option Nat
  | [] => none
  | [code] => if code = 0x00 then some 1 else none
  | code :: olen :: value =>
      if code = 0xFF then none
      else if code = 0x00 then some 1
      else if olen.toNat ≤ value.length then some (2 + olen.toNat)
      else none

theorem optionSize_some {input : Bytes} {length : Nat}
    (sizeEq : optionSize input = some length) :
    (∃ rest, input = 0x00 :: rest ∧ length = 1) ∨
      ∃ code olen value, input = code :: olen :: value ∧ code ≠ 0xFF ∧
        code ≠ 0x00 ∧ olen.toNat ≤ value.length ∧
        length = 2 + olen.toNat := by
  match input with
  | [] => cases sizeEq
  | [code] =>
      simp only [optionSize] at sizeEq
      split at sizeEq
      · rename_i zero
        cases sizeEq
        exact .inl ⟨[], by rw [zero], rfl⟩
      · cases sizeEq
  | code :: olen :: value =>
      simp only [optionSize] at sizeEq
      split_ifs at sizeEq with isEnd isPad fits
      · cases sizeEq
        exact .inl ⟨olen :: value, by rw [isPad], rfl⟩
      · cases sizeEq
        exact .inr ⟨code, olen, value, rfl, isEnd, isPad, fits, rfl⟩

theorem optionSize_none {input : Bytes} (stops : optionSize input = none) :
    input = [] ∨ (∃ rest, input = 0xFF :: rest) ∨ (∃ code, input = [code]) ∨
      ∃ code olen value, input = code :: olen :: value ∧ code ≠ 0xFF ∧
        code ≠ 0x00 ∧ value.length < olen.toNat := by
  match input with
  | [] => exact .inl rfl
  | [code] => exact .inr (.inr (.inl ⟨code, rfl⟩))
  | code :: olen :: value =>
      simp only [optionSize] at stops
      split_ifs at stops with isEnd isPad fits
      · exact .inr (.inl ⟨olen :: value, by rw [isEnd]⟩)
      · exact .inr (.inr (.inr
          ⟨code, olen, value, rfl, isEnd, isPad, by omega⟩))

def optionDelimiter : Delimiter UInt8 where
  size := optionSize
  size_pos := by
    intro input length sizeEq
    rcases optionSize_some sizeEq with
      ⟨rest, -, rfl⟩ | ⟨code, olen, value, -, -, -, -, rfl⟩ <;> omega
  size_le := by
    intro input length sizeEq
    rcases optionSize_some sizeEq with
      ⟨rest, rfl, rfl⟩ | ⟨code, olen, value, rfl, -, -, fits, rfl⟩
    · simp
    · simp only [List.length_cons]
      omega

/-- Apply a visitor to one cut item; padding is skipped. -/
def visitItem {σ : Type} (visit : σ → Nat → UInt8 → Nat → Checked σ)
    (state : σ) (item : Slice UInt8) : Checked σ :=
  match item.content with
  | code :: olen :: _ => visit state item.start code olen.toNat
  | _ => .ok state

/-- The options of an area with their positions. -/
def options (opts : Bytes) : List (Slice UInt8) :=
  optionDelimiter.slices 0 opts

theorem of_drop_eq_cons {bytes rest : Bytes} {i : Nat} {byte : UInt8}
    (dropEq : bytes.drop i = byte :: rest) :
    i < bytes.length ∧ bytes.getD i 0 = byte ∧ bytes.drop (i + 1) = rest := by
  have inside : i < bytes.length := by
    by_contra outside
    rw [List.drop_of_length_le (by omega)] at dropEq
    cases dropEq
  rw [List.drop_eq_getElem_cons inside, List.cons.injEq] at dropEq
  obtain ⟨byteEq, restEq⟩ := dropEq
  exact ⟨inside, by simp [List.getD, inside, byteEq], restEq⟩

section Walk

variable {σ : Type} {opts : Bytes} (lengthChecked : Bool)
  (visit : σ → Nat → UInt8 → Nat → Checked σ) (state : σ) {i : Nat}

theorem walkOptions_of_nil (empty : opts.drop i = []) :
    walkOptions opts opts.length lengthChecked visit state i = .ok state := by
  have outside := List.drop_eq_nil_iff.mp empty
  rw [walkOptions, dif_neg (by omega)]
  rfl

theorem walkOptions_of_end {rest : Bytes}
    (dropEq : opts.drop i = 0xFF :: rest) :
    walkOptions opts opts.length lengthChecked visit state i = .ok state := by
  obtain ⟨inside, codeEq, -⟩ := of_drop_eq_cons dropEq
  rw [walkOptions, dif_pos ⟨inside, inside⟩, index_eq_ok inside, ok_bind,
    codeEq, if_pos rfl]
  rfl

theorem walkOptions_of_pad {rest : Bytes}
    (dropEq : opts.drop i = 0x00 :: rest) :
    walkOptions opts opts.length lengthChecked visit state i =
      walkOptions opts opts.length lengthChecked visit state (i + 1) := by
  obtain ⟨inside, codeEq, -⟩ := of_drop_eq_cons dropEq
  rw [walkOptions, dif_pos ⟨inside, inside⟩, index_eq_ok inside, ok_bind,
    codeEq, if_neg (by decide), if_pos rfl]

theorem walkOptions_of_single {code : UInt8} (dropEq : opts.drop i = [code])
    (notPad : code ≠ 0x00) :
    walkOptions opts opts.length lengthChecked visit state i = .ok state := by
  obtain ⟨inside, codeEq, restEq⟩ := of_drop_eq_cons dropEq
  have outside := List.drop_eq_nil_iff.mp restEq
  rw [walkOptions, dif_pos ⟨inside, inside⟩, index_eq_ok inside, ok_bind,
    codeEq]
  by_cases atEnd : code = 0xFF
  · rw [if_pos atEnd]
    rfl
  · rw [if_neg atEnd, if_neg notPad, if_pos (.inl outside)]
    rfl

theorem walkOptions_of_option {code olen : UInt8} {value : Bytes}
    (dropEq : opts.drop i = code :: olen :: value) (notEnd : code ≠ 0xFF)
    (notPad : code ≠ 0x00) :
    walkOptions opts opts.length lengthChecked visit state i =
      (if lengthChecked ∧ value.length < olen.toNat then .ok state
      else do
        let state ← visit state i code olen.toNat
        walkOptions opts opts.length lengthChecked visit state
          (i + 2 + olen.toNat)) := by
  obtain ⟨inside, codeEq, restEq⟩ := of_drop_eq_cons dropEq
  obtain ⟨insideNext, olenEq, valueEq⟩ := of_drop_eq_cons restEq
  have valueLength : value.length = opts.length - (i + 1 + 1) := by
    rw [← valueEq, List.length_drop]
  have truncated : (i + 2 + olen.toNat > opts.length ∨
      i + 2 + olen.toNat > opts.length) ↔ value.length < olen.toNat := by
    omega
  rw [walkOptions, dif_pos ⟨inside, inside⟩, index_eq_ok inside, ok_bind,
    codeEq, if_neg notEnd, if_neg notPad, if_neg (by omega),
    index_eq_ok insideNext, ok_bind, olenEq]
  simp only [truncated]
  rfl

/-- Apply a visitor to the front of what the delimiter leaves untouched. -/
def visitTail (areaLength : Nat) (tail : Bytes) : Checked σ :=
  match tail with
  | code :: olen :: _ =>
      if code = 0xFF then .ok state
      else visit state (areaLength - tail.length) code olen.toNat
  | _ => .ok state

/-- The walk visits the items of the area in order; without the length check
it also visits an option that is cut off by the end of the area. -/
theorem walkOptions_eq :
    walkOptions opts opts.length lengthChecked visit state i = (do
      let state ← (optionDelimiter.slices i (opts.drop i)).foldlM
        (visitItem visit) state
      if lengthChecked then return state
      visitTail visit state opts.length
        (optionDelimiter.remainder (opts.drop i))) := by
  induction inputEq : opts.drop i using optionDelimiter.item_induction
      generalizing i state with
  | stop input stops =>
      subst inputEq
      rw [Delimiter.slices_of_none stops, Delimiter.remainder_of_none stops,
        List.foldlM_nil, pure_eq_ok, ok_bind]
      rcases optionSize_none stops with
        empty | ⟨rest, atEnd⟩ | ⟨code, single⟩ |
          ⟨code, olen, value, cut, notEnd, notPad, truncated⟩
      · rw [walkOptions_of_nil lengthChecked visit state empty, empty]
        cases lengthChecked <;> rfl
      · rw [walkOptions_of_end lengthChecked visit state atEnd, atEnd]
        cases lengthChecked <;> cases rest <;> rfl
      · have notPad : code ≠ 0x00 := by
          rintro rfl
          change optionSize _ = none at stops
          rw [single] at stops
          cases stops
        rw [walkOptions_of_single lengthChecked visit state single notPad,
          single]
        cases lengthChecked <;> rfl
      · obtain ⟨inside, -, -⟩ := of_drop_eq_cons cut
        have tailLength :
            opts.length - (code :: olen :: value).length = i := by
          rw [← cut, List.length_drop]
          omega
        rw [walkOptions_of_option lengthChecked visit state cut notEnd notPad]
        cases lengthChecked with
        | true => rw [if_pos ⟨rfl, truncated⟩, if_pos rfl, pure_eq_ok]
        | false =>
            -- the visited option ends the walk: its length leaves the area
            have beyond : opts.drop (i + 2 + olen.toNat) = [] := by
              have cutLength := congrArg List.length cut
              simp only [List.length_drop, List.length_cons] at cutLength
              exact List.drop_of_length_le (by omega)
            rw [if_neg (by simp), if_neg (by simp), cut]
            simp only [visitTail, notEnd, if_false, tailLength,
              walkOptions_of_nil false visit _ beyond]
            cases visit state i code olen.toNat <;> rfl
  | item input length sizeEq ih =>
      subst inputEq
      rw [Delimiter.slices_of_some sizeEq, Delimiter.remainder_of_some sizeEq,
        List.foldlM_cons]
      rcases optionSize_some sizeEq with
        ⟨rest, pad, rfl⟩ | ⟨code, olen, value, cut, notEnd, notPad, fits, rfl⟩
      · have head : visitItem visit state ⟨i, (opts.drop i).take 1⟩ =
            .ok state := by
          rw [pad]
          rfl
        rw [walkOptions_of_pad lengthChecked visit state pad,
          ih state (List.drop_drop).symm, head, ok_bind]
      · have head : visitItem visit state
            ⟨i, (opts.drop i).take (2 + olen.toNat)⟩ =
              visit state i code olen.toNat := by
          rw [cut, Nat.add_comm 2]
          rfl
        rw [walkOptions_of_option lengthChecked visit state cut notEnd notPad,
          if_neg (by omega), head]
        cases visit state i code olen.toNat with
        | error panic => rfl
        | ok after =>
            simp only [ok_bind]
            rw [Nat.add_assoc]
            exact ih after (List.drop_drop).symm

end Walk

/-- A cut item of the area is a pad byte or an option with its whole value. -/
theorem option_inside {opts : Bytes} {item : Slice UInt8}
    (member : item ∈ options opts) {code olen : UInt8} {value : Bytes}
    (contentEq : item.content = code :: olen :: value) :
    item.start + 2 + olen.toNat ≤ opts.length := by
  have bounds := Delimiter.slice_bounds member
  obtain ⟨following, sizeEq, cut⟩ := Delimiter.slice_size member
  rcases optionSize_some sizeEq with
    ⟨rest, rfl, lengthEq⟩ |
      ⟨code', olen', value', rfl, -, -, fits, lengthEq⟩
  · simp [contentEq] at lengthEq
  · rw [lengthEq, contentEq, Nat.add_comm 2] at cut
    simp only [List.take_succ_cons, List.cons.injEq] at cut
    obtain ⟨-, rfl, -⟩ := cut
    simp only [Slice.stop, lengthEq] at bounds
    omega

/-- A visitor that succeeds on every option whose value lies inside the
area. -/
def SafeInside {σ : Type} (opts : Bytes)
    (visit : σ → Nat → UInt8 → Nat → Checked σ) : Prop :=
  ∀ state i code olen, i + 2 + olen ≤ opts.length →
    ∃ after, visit state i code olen = .ok after

theorem foldlM_options_ok {σ : Type} {opts : Bytes}
    {visit : σ → Nat → UInt8 → Nat → Checked σ}
    (safe : SafeInside opts visit) (state : σ) :
    ∃ after, (options opts).foldlM (visitItem visit) state = .ok after := by
  apply foldlM_ok
  intro item member state
  match contentEq : item.content with
  | [] => exact ⟨state, by rw [visitItem, contentEq]⟩
  | [byte] => exact ⟨state, by rw [visitItem, contentEq]⟩
  | code :: olen :: value =>
      obtain ⟨after, visited⟩ := safe state item.start code olen.toNat
        (option_inside member contentEq)
      exact ⟨after, by simpa [visitItem, contentEq] using visited⟩

/-- A walk that compares lengths succeeds on every area. -/
theorem walkOptions_checked_ok {σ : Type} {opts : Bytes}
    {visit : σ → Nat → UInt8 → Nat → Checked σ}
    (safe : SafeInside opts visit) (state : σ) :
    ∃ after, walkOptions opts opts.length true visit state 0 = .ok after := by
  obtain ⟨after, visited⟩ := foldlM_options_ok safe state
  refine ⟨after, ?_⟩
  rw [walkOptions_eq]
  change ((options opts).foldlM (visitItem visit) state >>= _) = _
  rw [visited]
  rfl

theorem readAddr_eq_ok {opts : Bytes} {position : Nat}
    (inside : position + 4 ≤ opts.length) :
    readAddr opts position =
      .ok (UInt32.ofNat (beWordAt opts position 4)) := by
  rw [readAddr, range_eq_ok (by omega) inside]
  simp [beWordAt]

theorem readAddr_ok_iff {opts : Bytes} {position : Nat} :
    (∃ addr, readAddr opts position = .ok addr) ↔
      position + 4 ≤ opts.length := by
  constructor
  · rintro ⟨addr, readEq⟩
    rw [readAddr, bind_eq_ok] at readEq
    obtain ⟨octets, rangeEq, -⟩ := readEq
    exact (range_ok_iff.mp ⟨octets, rangeEq⟩).2
  · intro inside
    exact ⟨_, readAddr_eq_ok inside⟩

theorem recordOption_safe (opts : Bytes) :
    SafeInside opts (recordOption opts) := by
  intro found i code olen inside
  simp only [recordOption]
  split_ifs with netmask gateway dns second
  · exact ⟨_, by rw [readAddr_eq_ok (by omega)]; rfl⟩
  · exact ⟨_, by rw [readAddr_eq_ok (by omega)]; rfl⟩
  · exact ⟨_, by
      rw [readAddr_eq_ok (by omega), ok_bind, readAddr_eq_ok (by omega)]; rfl⟩
  · exact ⟨_, by rw [readAddr_eq_ok (by omega)]; rfl⟩
  · exact ⟨_, rfl⟩

theorem visitAckOption_safe (opts : Bytes) :
    SafeInside opts (visitAckOption opts) := by
  intro msgType i code olen inside
  simp only [visitAckOption]
  split_ifs with selected
  · exact ⟨_, index_eq_ok (by omega)⟩
  · exact ⟨_, rfl⟩

theorem visitOfferOption_eq (opts : Bytes) (scan : OfferScan) (i : Nat)
    (code : UInt8) (olen : Nat) :
    visitOfferOption opts scan i code olen =
      if code = 53 ∧ olen ≥ 1 then
        (index opts (i + 2)).map fun msgType => { scan with msgType := msgType }
      else if code = 54 ∧ olen ≥ 4 then
        (readAddr opts (i + 2)).map fun addr =>
          { scan with serverAddr := some addr }
      else .ok scan := by
  rw [visitOfferOption]
  by_cases messageType : code = 53 ∧ olen ≥ 1
  · have notServer : ¬ (code = 54 ∧ olen ≥ 4) := by
      rintro ⟨rfl, -⟩
      exact absurd messageType.1 (by decide)
    simp only [messageType, and_self, if_true]
    cases index opts (i + 2) with
    | error panic => rfl
    | ok msgType =>
        simp only [ok_bind, pure_eq_ok]
        rw [if_neg (by rw [← messageType.1]; exact notServer)]
        rfl
  · simp only [messageType, if_false, pure_eq_ok, ok_bind]
    split_ifs
    · cases readAddr opts (i + 2) <;> rfl
    · rfl

theorem visitOfferOption_safe (opts : Bytes) :
    SafeInside opts (visitOfferOption opts) := by
  intro scan i code olen inside
  rw [visitOfferOption_eq]
  split_ifs with messageType server
  · exact ⟨_, by rw [index_eq_ok (by omega)]; rfl⟩
  · exact ⟨_, by rw [readAddr_eq_ok (by omega)]; rfl⟩
  · exact ⟨_, rfl⟩

theorem parseDhcpOptions_ok (opts : Bytes) :
    ∃ found, parseDhcpOptions opts = .ok found :=
  walkOptions_checked_ok (recordOption_safe opts) _

theorem scanAck_ok (opts : Bytes) :
    ∃ msgType, scanAck opts opts.length = .ok msgType :=
  walkOptions_checked_ok (visitAckOption_safe opts) _

/-- An option 53 or 54 at the end of the area that announces more bytes than
there are, so that reading its value leaves the area. -/
def OverrunsArea (tail : Bytes) : Prop :=
  ∃ code olen value, tail = code :: olen :: value ∧
    (code = 53 ∧ value = [] ∨
      code = 54 ∧ 4 ≤ olen.toNat ∧ value.length < 4)

/-- The OFFER scan succeeds exactly on the areas that do not end in such an
option. -/
theorem scanOffer_ok_iff (opts : Bytes) (serverAddr : Option Ipv4Addr) :
    (∃ scan, scanOffer opts serverAddr = .ok scan) ↔
      ¬ OverrunsArea (optionDelimiter.remainder opts) := by
  have visitsItems : ∃ scan, scanOffer opts serverAddr =
      visitTail (visitOfferOption opts) scan opts.length
        (optionDelimiter.remainder opts) := by
    obtain ⟨scan, visited⟩ :=
      foldlM_options_ok (visitOfferOption_safe opts) ⟨0, serverAddr⟩
    refine ⟨scan, ?_⟩
    rw [scanOffer, offerWalk, walkOptions_eq]
    change ((options opts).foldlM (visitItem _) _ >>= _) = _
    rw [visited, ok_bind]
    rfl
  obtain ⟨scan, scanEq⟩ := visitsItems
  obtain ⟨before, areaEq⟩ := optionDelimiter.remainder_suffix opts
  have stops := optionDelimiter.size_remainder opts
  rw [scanEq]
  generalize optionDelimiter.remainder opts = tail at areaEq stops
  match tail with
  | [] => exact ⟨fun _ => by rintro ⟨_, _, _, ⟨⟩, _⟩, fun _ => ⟨scan, rfl⟩⟩
  | [code] => exact ⟨fun _ => by rintro ⟨_, _, _, ⟨⟩, _⟩, fun _ => ⟨scan, rfl⟩⟩
  | code :: olen :: value =>
      have areaLength := congrArg List.length areaEq
      simp only [List.length_append, List.length_cons] at areaLength
      simp only [visitTail, OverrunsArea, List.cons.injEq, visitOfferOption_eq,
        List.length_cons]
      change optionSize (code :: olen :: value) = none at stops
      rcases optionSize_none stops with
        empty | ⟨rest, atEnd⟩ | ⟨single, single⟩ |
          ⟨_, _, _, cut, notEnd, -, truncated⟩
      · cases empty
      · obtain ⟨rfl, -⟩ := List.cons.inj atEnd
        rw [if_pos rfl]
        refine ⟨fun _ => ?_, fun _ => ⟨scan, rfl⟩⟩
        rintro ⟨_, _, _, ⟨rfl, -, -⟩, ⟨code53, -⟩ | ⟨code54, -⟩⟩
        · exact absurd code53 (by decide)
        · exact absurd code54 (by decide)
      · cases single
      · obtain ⟨rfl, rest⟩ := List.cons.inj cut
        obtain ⟨rfl, rfl⟩ := List.cons.inj rest
        rw [if_neg notEnd]
        split_ifs with messageType server
        · rw [map_ok_iff, index_ok_iff]
          obtain ⟨rfl, -⟩ := messageType
          constructor
          · rintro inside ⟨_, _, _, ⟨rfl, rfl, rfl⟩, ⟨-, rfl⟩ | ⟨code54, -⟩⟩
            · simp at inside areaLength
              omega
            · exact absurd code54 (by decide)
          · intro notOverrun
            have present : value ≠ [] := fun empty =>
              notOverrun ⟨_, _, _, ⟨rfl, rfl, rfl⟩, .inl ⟨rfl, empty⟩⟩
            have positive := List.length_pos_iff.mpr present
            omega
        · rw [map_ok_iff, readAddr_ok_iff]
          obtain ⟨rfl, announced⟩ := server
          constructor
          · rintro inside ⟨_, _, _, ⟨rfl, rfl, rfl⟩, ⟨code53, -⟩ | ⟨-, -, short⟩⟩
            · exact absurd code53 (by decide)
            · omega
          · intro notOverrun
            have long : 4 ≤ value.length := not_lt.mp fun short =>
              notOverrun ⟨_, _, _, ⟨rfl, rfl, rfl⟩,
                .inr ⟨rfl, announced, short⟩⟩
            omega
        · refine ⟨fun _ => ?_, fun _ => ⟨scan, rfl⟩⟩
          rintro ⟨_, _, _, ⟨rfl, rfl, rfl⟩, ⟨code53, -⟩ | ⟨code54, long, -⟩⟩
          · exact messageType ⟨code53, by omega⟩
          · exact server ⟨code54, long⟩

/-- The value of the first option with the given code. -/
def optionValue (opts : Bytes) (code : UInt8) : Option Bytes :=
  (optionDelimiter.items opts).findSome? fun item =>
    match item with
    | first :: _ :: value => if first = code then some value else none
    | _ => none

/-- An option with its value in full is cut off as one item. -/
theorem option_complete {code olen : UInt8} {value : Bytes}
    (notEnd : code ≠ 0xFF) (notPad : code ≠ 0x00)
    (lengthEq : value.length = olen.toNat) :
    optionDelimiter.Complete (code :: olen :: value) := by
  intro following
  change optionSize (code :: olen :: (value ++ following)) = _
  rw [optionSize, if_neg notEnd, if_neg notPad, if_pos (by simp; omega),
    ← lengthEq]
  simp only [List.length_cons, Option.some.injEq]
  omega

end AndroidTether
