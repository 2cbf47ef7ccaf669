import AndroidTether.DhcpOptions

/-!
# The three scanners side by side

What the OFFER scan, the ACK scan and `parse_dhcp_options` each delimit in one
and the same option area.  Only the first of them does not compare an option's
length with the area, so it alone looks at an option that is cut off.
-/

namespace AndroidTether

open ByteWords Checked

/-- An option as a scanner comes upon it. -/
structure DelimitedOption where
  position : Nat
  code : UInt8
  length : Nat
  deriving DecidableEq

/-- A visitor that keeps account of the options it is shown. -/
def keepOption (seen : List DelimitedOption) (i : Nat) (code : UInt8)
    (olen : Nat) : Checked (List DelimitedOption) :=
  .ok (seen ++ [⟨i, code, olen⟩])

def offerDelimits (opts : Bytes) : Checked (List DelimitedOption) :=
  offerWalk opts keepOption []

def ackDelimits (opts : Bytes) (optsEnd : Nat) :
    Checked (List DelimitedOption) :=
  ackWalk opts optsEnd keepOption []

def parseDelimits (opts : Bytes) : Checked (List DelimitedOption) :=
  parseWalk opts keepOption []

/-- A cut item as an option; padding is none. -/
def itemOption (item : Slice UInt8) : Option DelimitedOption :=
  match item.content with
  | code :: olen :: _ => some ⟨item.start, code, olen.toNat⟩
  | _ => none

/-- The option at the front of what the delimiter leaves untouched. -/
def tailOption (areaLength : Nat) (tail : Bytes) : Option DelimitedOption :=
  match tail with
  | code :: olen :: _ =>
      if code = 0xFF then none
      else some ⟨areaLength - tail.length, code, olen.toNat⟩
  | _ => none

/-- An option whose declared length runs past the end of the area. -/
def TruncatedOption (tail : Bytes) : Prop :=
  ∃ code olen value, tail = code :: olen :: value ∧ code ≠ 0xFF ∧
    code ≠ 0x00 ∧ value.length < olen.toNat

/-- The area up to the first place where no whole option begins. -/
def wholeOptions (opts : Bytes) : Bytes :=
  (optionDelimiter.items opts).flatten

theorem foldlM_recorded {σ : Type} (visit : σ → Nat → UInt8 → Nat → Checked σ)
    (items : List (Slice UInt8)) (state : σ) :
    items.foldlM (visitItem visit) state =
      (items.filterMap itemOption).foldlM
        (fun state found =>
          visit state found.position found.code found.length) state := by
  induction items generalizing state with
  | nil => rfl
  | cons item items ih =>
      rw [List.foldlM_cons, List.filterMap_cons]
      match contentEq : item.content with
      | [] | [_] =>
          simp only [visitItem, itemOption, contentEq, ok_bind]
          exact ih state
      | code :: olen :: value =>
          simp only [visitItem, itemOption, contentEq, List.foldlM_cons, ih]

theorem visitTail_eq {σ : Type} (visit : σ → Nat → UInt8 → Nat → Checked σ)
    (state : σ) (areaLength : Nat) (tail : Bytes) :
    visitTail visit state areaLength tail =
      (tailOption areaLength tail).toList.foldlM
        (fun state found =>
          visit state found.position found.code found.length) state := by
  match tail with
  | [] | [_] => rfl
  | code :: olen :: value =>
      rw [visitTail, tailOption]
      split_ifs
      · rfl
      · exact (bind_pure _).symm

/-- The options a walk comes upon: the whole ones and, without the length
check, the one that is cut off. -/
def optionsSeen (opts : Bytes) (lengthChecked : Bool) :
    List DelimitedOption :=
  (options opts).filterMap itemOption ++
    if lengthChecked then []
    else (tailOption opts.length (optionDelimiter.remainder opts)).toList

/-- Every scanner applies its visitor to the options it comes upon. -/
theorem walkOptions_eq_foldlM {σ : Type} (opts : Bytes) (lengthChecked : Bool)
    (visit : σ → Nat → UInt8 → Nat → Checked σ) (state : σ) :
    walkOptions opts opts.length lengthChecked visit state 0 =
      (optionsSeen opts lengthChecked).foldlM
        (fun state found =>
          visit state found.position found.code found.length) state := by
  rw [walkOptions_eq, optionsSeen, List.foldlM_append, ← foldlM_recorded]
  refine bind_congr fun after => ?_
  cases lengthChecked with
  | true => rfl
  | false => exact visitTail_eq visit after _ _

theorem foldlM_keepOption (found seen : List DelimitedOption) :
    found.foldlM
        (fun seen option =>
          keepOption seen option.position option.code option.length) seen =
      .ok (seen ++ found) := by
  induction found generalizing seen with
  | nil => rw [List.append_nil]; rfl
  | cons option found ih =>
      rw [List.foldlM_cons, keepOption, ok_bind, ih, List.append_assoc]
      rfl

theorem walkOptions_keepOption (opts : Bytes) (lengthChecked : Bool) :
    walkOptions opts opts.length lengthChecked keepOption [] 0 =
      .ok (optionsSeen opts lengthChecked) := by
  rw [walkOptions_eq_foldlM, foldlM_keepOption, List.nil_append]

/-- Only an option that is cut off is left untouched and yet looks like an
option. -/
theorem tailOption_eq_none_iff (opts : Bytes) :
    tailOption opts.length (optionDelimiter.remainder opts) = none ↔
      ¬ TruncatedOption (optionDelimiter.remainder opts) := by
  have stops := optionDelimiter.size_remainder opts
  generalize optionDelimiter.remainder opts = tail at stops
  change optionSize tail = none at stops
  rcases optionSize_none stops with
    rfl | ⟨rest, rfl⟩ | ⟨code, rfl⟩ |
      ⟨code, olen, value, rfl, notEnd, notPad, cut⟩
  · exact ⟨fun _ => by rintro ⟨_, _, _, ⟨⟩, _⟩, fun _ => rfl⟩
  · refine ⟨fun _ => ?_, fun _ => by cases rest <;> rfl⟩
    rintro ⟨_, _, _, cutEq, notEnd, _⟩
    exact notEnd (List.cons.inj cutEq).1.symm
  · exact ⟨fun _ => by rintro ⟨_, _, _, ⟨⟩, _⟩, fun _ => rfl⟩
  · rw [tailOption, if_neg notEnd]
    exact ⟨fun none => (Option.some_ne_none _ none).elim, fun whole =>
      absurd ⟨code, olen, value, rfl, notEnd, notPad, cut⟩ whole⟩

/-- The options seen by a scanner without the length check, compared with
those seen by one that has it. -/
theorem optionsSeen_eq_iff (opts : Bytes) :
    optionsSeen opts false = optionsSeen opts true ↔
      ¬ TruncatedOption (optionDelimiter.remainder opts) := by
  rw [← tailOption_eq_none_iff, optionsSeen, optionsSeen,
    List.append_right_inj]
  cases tailOption opts.length (optionDelimiter.remainder opts) <;> simp

theorem optionItem_complete {opts item : Bytes}
    (member : item ∈ optionDelimiter.items opts) :
    optionDelimiter.Complete item := by
  obtain ⟨slice, sliceMem, rfl⟩ := List.mem_map.mp member
  obtain ⟨following, sizeEq, cut⟩ := Delimiter.slice_size sliceMem
  rcases optionSize_some sizeEq with
    ⟨rest, rfl, lengthEq⟩ |
      ⟨code, olen, value, rfl, notEnd, notPad, fits, lengthEq⟩
  · rw [cut, lengthEq]
    intro later
    cases later <;> rfl
  · rw [cut, lengthEq, Nat.add_comm 2]
    exact option_complete notEnd notPad (by simpa using fits)

theorem options_wholeOptions (opts : Bytes) :
    options (wholeOptions opts) = options opts :=
  Delimiter.slices_items_flatten fun _ member => optionItem_complete member

theorem remainder_wholeOptions (opts : Bytes) :
    optionDelimiter.remainder (wholeOptions opts) = [] := by
  have cut := optionDelimiter.items_flatten_append_remainder
    (wholeOptions opts)
  have sameItems : optionDelimiter.items (wholeOptions opts) =
      optionDelimiter.items opts :=
    congrArg (List.map Slice.content) (options_wholeOptions opts)
  rw [sameItems] at cut
  exact List.append_right_eq_self.mp cut

/-- Without its end, an area shows every scanner its whole options. -/
theorem optionsSeen_wholeOptions (opts : Bytes) (lengthChecked : Bool) :
    optionsSeen (wholeOptions opts) lengthChecked = optionsSeen opts true := by
  rw [optionsSeen, optionsSeen, options_wholeOptions, remainder_wholeOptions]
  cases lengthChecked <;> rfl

theorem optionsSeen_inside {opts : Bytes} {found : DelimitedOption}
    (member : found ∈ optionsSeen opts true) :
    found.position + 2 + found.length ≤ (wholeOptions opts).length := by
  rw [optionsSeen, if_pos rfl, List.append_nil, ← options_wholeOptions]
    at member
  obtain ⟨item, itemMem, itemEq⟩ := List.mem_filterMap.mp member
  match contentEq : item.content with
  | [] | [_] =>
      rw [itemOption, contentEq] at itemEq
      cases itemEq
  | code :: olen :: value =>
      rw [itemOption, contentEq] at itemEq
      cases itemEq
      exact option_inside itemMem contentEq

/-- A visitor that reads nothing of the area but the option it is at. -/
def ReadsOption {σ : Type} (visit : Bytes → σ → Nat → UInt8 → Nat → Checked σ) :
    Prop :=
  ∀ opts rest state i code olen, i + 2 + olen ≤ opts.length →
    visit (opts ++ rest) state i code olen = visit opts state i code olen

/-- A scanner that comes upon the whole options only finds what it finds when
the area ends behind them. -/
theorem walkOptions_wholeOptions {σ : Type}
    {visit : Bytes → σ → Nat → UInt8 → Nat → Checked σ}
    (reads : ReadsOption visit) {opts : Bytes} {lengthChecked : Bool}
    (seesWhole : optionsSeen opts lengthChecked = optionsSeen opts true)
    (state : σ) :
    walkOptions opts opts.length lengthChecked (visit opts) state 0 =
      walkOptions (wholeOptions opts) (wholeOptions opts).length lengthChecked
        (visit (wholeOptions opts)) state 0 := by
  rw [walkOptions_eq_foldlM, walkOptions_eq_foldlM, optionsSeen_wholeOptions,
    seesWhole]
  refine foldlM_congr (fun found member state => ?_) state
  have inside := optionsSeen_inside member
  have area : wholeOptions opts ++ optionDelimiter.remainder opts = opts :=
    optionDelimiter.items_flatten_append_remainder opts
  conv_lhs => rw [← area]
  exact reads _ _ state found.position found.code found.length inside

theorem readAddr_append {opts : Bytes} {position : Nat}
    (inside : position + 4 ≤ opts.length) (following : Bytes) :
    readAddr (opts ++ following) position = readAddr opts position := by
  rw [readAddr, readAddr, range_eq_ok (by omega) inside,
    range_eq_ok (by omega) (by simp; omega),
    List.drop_append_of_le_length (by omega),
    List.take_append_of_le_length (by simp; omega)]

theorem visitAckOption_reads : ReadsOption visitAckOption := by
  intro opts rest msgType i code olen inside
  rw [visitAckOption, visitAckOption]
  split_ifs with selected
  · exact index_append (by omega) rest
  · rfl

theorem visitOfferOption_reads : ReadsOption visitOfferOption := by
  intro opts rest scan i code olen inside
  rw [visitOfferOption_eq, visitOfferOption_eq]
  split_ifs with messageType server
  · rw [index_append (by omega) rest]
  · rw [readAddr_append (by omega) rest]
  · rfl

theorem recordOption_reads : ReadsOption recordOption := by
  intro opts rest found i code olen inside
  rw [recordOption, recordOption]
  split_ifs with netmask gateway dns second
  · rw [readAddr_append (by omega) rest]
  · rw [readAddr_append (by omega) rest]
  · rw [readAddr_append (by omega) rest, readAddr_append (by omega) rest]
  · rw [readAddr_append (by omega) rest]
  · rfl

theorem visitAckOption_eq_map {opts : Bytes} {i olen : Nat}
    (inside : i + 2 + olen ≤ opts.length) (scan : OfferScan) (code : UInt8) :
    visitAckOption opts scan.msgType i code olen =
      (visitOfferOption opts scan i code olen).map OfferScan.msgType := by
  rw [visitAckOption, visitOfferOption_eq]
  split_ifs with messageType server
  · cases index opts (i + 2) <;> rfl
  · rw [readAddr_eq_ok (by omega)]
    rfl
  · rfl

/-- The three scanners delimit the same options, the two scans find the same
message type, and none finds anything in an option that is cut off. -/
structure ScannersAgree (opts : Bytes) : Prop where
  ackDelimited : ackDelimits opts opts.length = offerDelimits opts
  parseDelimited : parseDelimits opts = offerDelimits opts
  msgType : ∀ serverAddr,
    (scanOffer opts serverAddr).map OfferScan.msgType =
      scanAck opts opts.length
  offerWhole : ∀ serverAddr,
    scanOffer opts serverAddr = scanOffer (wholeOptions opts) serverAddr
  ackWhole : scanAck opts opts.length =
    scanAck (wholeOptions opts) (wholeOptions opts).length
  parseWhole : parseDhcpOptions opts = parseDhcpOptions (wholeOptions opts)

theorem delimits_eq_iff (opts : Bytes) :
    ackDelimits opts opts.length = offerDelimits opts ↔
      ¬ TruncatedOption (optionDelimiter.remainder opts) := by
  rw [ackDelimits, offerDelimits, ackWalk, offerWalk, walkOptions_keepOption,
    walkOptions_keepOption, Except.ok.injEq, eq_comm, optionsSeen_eq_iff]

/-- The scanners agree on exactly the areas that do not end in an option whose
declared length runs past the end. -/
theorem scannersAgree_iff (opts : Bytes) :
    ScannersAgree opts ↔
      ¬ TruncatedOption (optionDelimiter.remainder opts) := by
  refine ⟨fun agree => (delimits_eq_iff opts).mp agree.ackDelimited,
    fun whole => ?_⟩
  have delimited := (delimits_eq_iff opts).mpr whole
  have seesWhole := (optionsSeen_eq_iff opts).mpr whole
  exact
    { ackDelimited := delimited
      parseDelimited := delimited
      msgType := fun serverAddr => by
        rw [scanOffer, scanAck, offerWalk, ackWalk, walkOptions_eq_foldlM,
          walkOptions_eq_foldlM, seesWhole]
        refine (foldlM_map (fun found member scan => ?_)
          (⟨0, serverAddr⟩ : OfferScan)).symm
        have inside := optionsSeen_inside member
        have areaLength : (wholeOptions opts).length ≤ opts.length := by
          conv_rhs =>
            rw [← optionDelimiter.items_flatten_append_remainder opts]
          simp [wholeOptions]
        exact visitAckOption_eq_map (by omega) scan found.code
      offerWhole := fun _ =>
        walkOptions_wholeOptions visitOfferOption_reads seesWhole _
      ackWhole := walkOptions_wholeOptions visitAckOption_reads rfl _
      parseWhole := walkOptions_wholeOptions recordOption_reads rfl _ }

/-- An area with an ACK type whose last option announces two bytes and has
one. -/
def cutOffArea : Bytes := [53, 1, 5, 53, 2, 2]

theorem cutOffArea_seen (lengthChecked : Bool) :
    optionsSeen cutOffArea lengthChecked =
      ⟨0, 53, 1⟩ :: if lengthChecked then [] else [⟨3, 53, 2⟩] := by
  have first : optionDelimiter.size cutOffArea = some 3 := by decide
  have second : optionDelimiter.size [53, 2, 2] = none := by decide
  have remainder : optionDelimiter.remainder cutOffArea = [53, 2, 2] := by
    rw [Delimiter.remainder_of_some first]
    exact Delimiter.remainder_of_none second
  have cut : options cutOffArea = [⟨0, [53, 1, 5]⟩] := by
    rw [options, Delimiter.slices_of_some first]
    exact congrArg _ (Delimiter.slices_of_none second)
  rw [optionsSeen, remainder, cut]
  cases lengthChecked <;> rfl

/-- The OFFER scan takes the type from the option that is cut off. -/
theorem cutOffArea_not_scannersAgree :
    (scanOffer cutOffArea none).map OfferScan.msgType = .ok 2 ∧
      scanAck cutOffArea cutOffArea.length = .ok 5 ∧
      ¬ ScannersAgree cutOffArea := by
  have offer : (scanOffer cutOffArea none).map OfferScan.msgType = .ok 2 := by
    rw [scanOffer, offerWalk, walkOptions_eq_foldlM, cutOffArea_seen]
    rfl
  have ack : scanAck cutOffArea cutOffArea.length = .ok 5 := by
    rw [scanAck, ackWalk, walkOptions_eq_foldlM, cutOffArea_seen]
    rfl
  refine ⟨offer, ack, fun agree => ?_⟩
  have same := agree.msgType none
  rw [offer, ack] at same
  exact absurd same (by decide)

end AndroidTether
