import AndroidTether.DhcpEncoding
import AndroidTether.DhcpSafety
import AndroidTether.DhcpScanners

/-!
# What the DHCP client makes of the messages it hears

`discover` seen from the server: the replies in a transfer are decoded to
messages, and the client is a function of the messages that it hears with each
call of `recv_bulk`.  It requests what the last OFFER of the first transfer
with one offers, and takes the first ACK behind it.
-/

namespace AndroidTether

open ByteWords Checked

/-- The message type in an option. -/
def typeIn (option : UInt8 × Bytes) : Option UInt8 :=
  if option.1 = 53 ∧ 1 ≤ option.2.length then some (option.2.getD 0 0)
  else none

/-- A reply to our transaction as the client understands it. -/
structure DhcpMessage where
  msgType : UInt8
  yiaddr : Ipv4Addr
  serverId : Option Ipv4Addr
  settings : ParsedOptions
  deriving DecidableEq

namespace DhcpMessage

def ofOptions (yiaddr : Ipv4Addr) (options : List (UInt8 × Bytes)) :
    DhcpMessage where
  msgType := lastAssigned typeIn 0 options
  yiaddr := yiaddr
  serverId := lastAddress 54 0 options
  settings := .ofOptions options

def isOffer (message : DhcpMessage) : Bool :=
  message.msgType = 2

def isAck (message : DhcpMessage) : Bool :=
  message.msgType = 5

/-- What a message leaves open is filled in from the defaults. -/
def lease (message : DhcpMessage) : DhcpLease where
  ip := message.yiaddr
  gateway := message.settings.gateway.getD defaultLease.gateway
  netmask := message.settings.netmask.getD defaultLease.netmask
  dns1 := message.settings.dns1.getD defaultLease.dns1
  dns2 := message.settings.dns2.getD defaultLease.dns2

end DhcpMessage

/-- The message in a frame, if it is a reply to our transaction. -/
def readMessage (bytes : Bytes) : Option DhcpMessage :=
  if AddressedToClient bytes ∧ HeaderInside bytes ∧ IsReply bytes then
    some (.ofOptions (.readAt bytes (dhcpStart bytes + 16))
      (decodedOptions (optionArea bytes)))
  else none

section Scans

variable {opts : Bytes} {item : Slice UInt8} {code olen : UInt8}
  {value : Bytes}

theorem index_item (member : item ∈ options opts)
    (contentEq : item.content = code :: olen :: value)
    (nonempty : 1 ≤ value.length) :
    index opts (item.start + 2) = .ok (value.getD 0 0) := by
  have bounds := Delimiter.slice_bounds member
  have cut := Delimiter.slice_content member
  simp only [Slice.stop, contentEq, List.length_cons, Nat.zero_add,
    Nat.sub_zero] at bounds cut
  rw [index_eq_ok (by omega)]
  have second : (item.content).getD 2 0 = opts.getD (item.start + 2) 0 := by
    rw [contentEq, ← cut]
    simp only [List.getD, List.getElem?_take, List.getElem?_drop]
    rw [if_pos (by omega)]
  rw [← second, contentEq]
  rfl

/-- Visiting the options of an area is a fold over what a reader finds. -/
theorem foldlM_visitItem {σ : Type}
    {visit : σ → Nat → UInt8 → Nat → Checked σ}
    {record : σ → UInt8 × Bytes → σ}
    (reads : ∀ item ∈ options opts, ∀ code olen value,
      item.content = code :: olen :: value → ∀ state,
        visit state item.start code olen.toNat =
          .ok (record state (code, value))) (state : σ) :
    (options opts).foldlM (visitItem visit) state =
      .ok ((decodedOptions opts).foldl record state) := by
  have folded (items : List (Slice UInt8))
      (cut : ∀ item ∈ items, item ∈ options opts) (state : σ) :
      items.foldlM (visitItem visit) state =
        .ok (((items.map Slice.content).filterMap optionOf).foldl
          record state) := by
    induction items generalizing state with
    | nil => rfl
    | cons item items ih =>
        obtain ⟨member, rest⟩ := List.forall_mem_cons.mp cut
        rw [List.foldlM_cons, List.map_cons, List.filterMap_cons, visitItem]
        cases contentEq : item.content with
        | nil => exact ih rest state
        | cons code tail =>
            cases tail with
            | nil => exact ih rest state
            | cons olen value =>
                simp only [reads item member code olen value contentEq,
                  ok_bind]
                exact ih rest _
  exact folded _ (fun _ member => member) state

theorem scanAck_eq (opts : Bytes) :
    scanAck opts opts.length =
      .ok (lastAssigned typeIn 0 (decodedOptions opts)) := by
  have reads : ∀ item ∈ options opts, ∀ code olen value,
      item.content = code :: olen :: value → ∀ msgType,
        visitAckOption opts msgType item.start code olen.toNat =
          .ok ((typeIn (code, value)).getD msgType) := by
    intro item member code olen value contentEq msgType
    have length := value_length_of_item member contentEq
    rw [visitAckOption, typeIn, length]
    split_ifs with selected
    · rw [index_item member contentEq (by omega)]
      rfl
    · rfl
  rw [scanAck, ackWalk, walkOptions_eq]
  change ((options opts).foldlM (visitItem _) _ >>= _) = _
  rw [@foldlM_visitItem opts _ _ (fun msgType option =>
    (typeIn option).getD msgType) reads]
  exact congrArg Except.ok
    (@foldl_eq_lastAssigned _ _ _ typeIn id _ (fun _ _ => rfl) 0 _)

/-- What the OFFER scan takes from an option. -/
def OfferScan.record (scan : OfferScan) (option : UInt8 × Bytes) : OfferScan :=
  ⟨(typeIn option).getD scan.msgType,
    (addressIn 54 0 option).or scan.serverAddr⟩

theorem OfferScan.foldl_record (options : List (UInt8 × Bytes))
    (serverAddr : Option Ipv4Addr) :
    options.foldl record ⟨0, serverAddr⟩ =
      ⟨lastAssigned typeIn 0 options,
        (lastAddress 54 0 options).or serverAddr⟩ := by
  have msgType := @foldl_eq_lastAssigned _ _ _ typeIn OfferScan.msgType record
    (fun _ _ => rfl) ⟨0, serverAddr⟩ options
  have server := @foldl_eq_getLast? _ _ _ (addressIn 54 0)
    OfferScan.serverAddr record (fun _ => True) (fun _ _ _ => trivial)
    (fun _ _ _ => rfl) ⟨0, serverAddr⟩ trivial options
  rw [lastAddress, ← server, ← msgType]

theorem visitOfferOption_item (member : item ∈ options opts)
    (contentEq : item.content = code :: olen :: value) (scan : OfferScan) :
    visitOfferOption opts scan item.start code olen.toNat =
      .ok (scan.record (code, value)) := by
  have length := value_length_of_item member contentEq
  rw [visitOfferOption_eq]
  simp only [OfferScan.record, typeIn, addressIn, length, Nat.zero_add]
  by_cases isType : code = 53 ∧ olen.toNat ≥ 1
  · obtain ⟨rfl, long⟩ := isType
    rw [if_pos ⟨rfl, long⟩, index_item member contentEq (by omega)]
    simp [long, Except.map]
  · rw [if_neg isType, if_neg isType]
    by_cases isServer : code = 54 ∧ olen.toNat ≥ 4
    · have read := readAddr_item member contentEq
        (show 0 + 4 ≤ value.length by omega)
      rw [Nat.add_zero] at read
      rw [if_pos isServer, if_pos isServer, read]
      rfl
    · rw [if_neg isServer, if_neg isServer]
      rfl

/-- From a cut-off option the scan takes what is there, if it reads nothing
behind the area. -/
theorem visitOfferOption_cut {before : Bytes} {scan after : OfferScan}
    (area : opts = before ++ code :: olen :: value)
    (cut : value.length < olen.toNat)
    (visited : visitOfferOption opts scan before.length code olen.toNat =
      .ok after) : after = scan.record (code, value) := by
  have areaLength := congrArg List.length area
  simp only [List.length_append, List.length_cons] at areaLength
  have valueEq : opts.drop (before.length + 2) = value := by
    rw [area, ← List.drop_drop, List.drop_left]
    rfl
  rw [visitOfferOption_eq] at visited
  simp only [OfferScan.record, typeIn, addressIn, Nat.zero_add]
  split_ifs at visited with isType isServer
  · obtain ⟨rfl, -⟩ := isType
    obtain ⟨msgType, indexEq, rfl⟩ := map_eq_ok.mp visited
    have inside := index_ok_iff.mp ⟨msgType, indexEq⟩
    rw [index_eq_ok inside, Except.ok.injEq] at indexEq
    have first : opts.getD (before.length + 2) 0 = value.getD 0 0 := by
      rw [← valueEq]
      simp [List.getD]
    rw [if_pos ⟨rfl, by omega⟩, if_neg (by simp), ← indexEq, first]
    rfl
  · obtain ⟨rfl, -⟩ := isServer
    obtain ⟨addr, addrEq, rfl⟩ := map_eq_ok.mp visited
    have inside := readAddr_ok_iff.mp ⟨addr, addrEq⟩
    rw [readAddr_eq_ok inside, Except.ok.injEq] at addrEq
    have word : beWordAt opts (before.length + 2) 4 = beWordAt value 0 4 := by
      rw [← valueEq, beWordAt, beWordAt, List.drop_zero]
    rw [if_neg (by simp), if_pos ⟨rfl, by omega⟩, ← addrEq, word]
    rfl
  · cases visited
    rw [if_neg fun both => isType ⟨both.1, by omega⟩,
      if_neg fun both => isServer ⟨both.1, by omega⟩]
    rfl

/-- What is there of an option that is cut off by the end of the area. -/
def cutOption : Bytes → Option (UInt8 × Bytes)
  | code :: _ :: value => if code = 0xFF then none else some (code, value)
  | _ => none

/-- The options of an area, and behind them what is there of one that is cut
off. -/
def presentOptions (opts : Bytes) : List (UInt8 × Bytes) :=
  decodedOptions opts ++ (cutOption (optionDelimiter.remainder opts)).toList

/-- The scan of the OFFER phase finds the last type and the last server
identifier among what is there. -/
theorem scanOffer_ok {serverAddr : Option Ipv4Addr} {scan : OfferScan}
    (scanned : scanOffer opts serverAddr = .ok scan) :
    scan = ⟨lastAssigned typeIn 0 (presentOptions opts),
      (lastAddress 54 0 (presentOptions opts)).or serverAddr⟩ := by
  rw [scanOffer, offerWalk, walkOptions_eq] at scanned
  change ((options opts).foldlM (visitItem _) _ >>= _) = _ at scanned
  rw [foldlM_visitItem fun item member code olen value contentEq =>
      visitOfferOption_item member contentEq,
    ok_bind, if_neg Bool.false_ne_true, List.drop_zero] at scanned
  rw [← OfferScan.foldl_record, presentOptions, List.foldl_append]
  generalize (decodedOptions opts).foldl OfferScan.record _ = found at scanned ⊢
  obtain ⟨before, area⟩ := optionDelimiter.remainder_suffix opts
  have stops := optionDelimiter.size_remainder opts
  generalize optionDelimiter.remainder opts = tail at scanned area stops ⊢
  rcases optionSize_none stops with
    rfl | ⟨rest, rfl⟩ | ⟨single, rfl⟩ |
      ⟨code, olen, value, rfl, notEnd, -, cut⟩
  · cases scanned
    rfl
  · cases rest <;> cases scanned <;> rfl
  · cases scanned
    rfl
  · have position : opts.length - (code :: olen :: value).length =
        before.length := by
      rw [← area, List.length_append]
      omega
    rw [visitTail, if_neg notEnd, position] at scanned
    rw [cutOption, if_neg notEnd]
    exact visitOfferOption_cut area.symm cut scanned

/-- On an area that is not cut off these are its options. -/
theorem scanOffer_eq
    (whole : ¬ TruncatedOption (optionDelimiter.remainder opts))
    (serverAddr : Option Ipv4Addr) :
    scanOffer opts serverAddr =
      .ok ⟨lastAssigned typeIn 0 (decodedOptions opts),
        (lastAddress 54 0 (decodedOptions opts)).or serverAddr⟩ := by
  have noTail := (tailOption_eq_none_iff opts).mpr whole
  rw [scanOffer, offerWalk, walkOptions_eq]
  change ((options opts).foldlM (visitItem _) _ >>= _) = _
  rw [foldlM_visitItem fun item member code olen value contentEq =>
      visitOfferOption_item member contentEq,
    ok_bind, if_neg Bool.false_ne_true, List.drop_zero, visitTail_eq, noTail,
    OfferScan.foldl_record]
  rfl

end Scans

/-- A received frame that leads none of the readers astray. -/
def SoundFrame (bytes : Bytes) : Prop :=
  AddressedToClient bytes → HeaderInside bytes ∧
    (IsReply bytes →
      ¬ TruncatedOption (optionDelimiter.remainder (optionArea bytes)))

/-- What an OFFER changes, and what any other message does. -/
def OfferState.hear (state : OfferState) (message : DhcpMessage) :
    OfferState :=
  if message.isOffer then
    ⟨some message.yiaddr, message.serverId.or state.serverAddr,
      message.settings⟩
  else { state with serverAddr := message.serverId.or state.serverAddr }

theorem OfferState.hear_ofOptions (state : OfferState) (yiaddr : Ipv4Addr)
    (options : List (UInt8 × Bytes)) :
    state.hear (.ofOptions yiaddr options) =
      if lastAssigned typeIn 0 options = 2 then
        ⟨some yiaddr, (lastAddress 54 0 options).or state.serverAddr,
          .ofOptions options⟩
      else
        { state with
          serverAddr := (lastAddress 54 0 options).or state.serverAddr } :=
  if_congr decide_eq_true_iff rfl rfl

/-- The first ACK counts. -/
def AckState.hear (state : AckState) (message : DhcpMessage) : AckState :=
  if state.found then state
  else if message.isAck then ⟨true, some message.lease⟩
  else state

theorem AckState.hear_ofOptions {state : AckState}
    (waiting : state.found = false) (yiaddr : Ipv4Addr)
    (options : List (UInt8 × Bytes)) :
    state.hear (.ofOptions yiaddr options) =
      if lastAssigned typeIn 0 options = 5 then
        ⟨true, some (DhcpMessage.ofOptions yiaddr options).lease⟩
      else state := by
  rw [hear, if_neg (by simp [waiting])]
  exact if_congr decide_eq_true_iff rfl rfl

section Frames

variable {transfer : Transfer} {frame : Slice UInt8}

theorem readMessage_cases (transfer : Transfer)
    (sound : SoundFrame frame.content) :
    (acceptFrame transfer frame = .ok ⟨none, false⟩ ∧
      readMessage frame.content = none) ∨
    (acceptFrame transfer frame =
        .ok ⟨some (dhcpStart frame.content), false⟩ ∧
      HeaderInside frame.content ∧
      ¬ TruncatedOption
        (optionDelimiter.remainder (optionArea frame.content)) ∧
      readMessage frame.content = some (.ofOptions
        (.readAt frame.content (dhcpStart frame.content + 16))
        (decodedOptions (optionArea frame.content)))) := by
  rcases acceptFrame_cases transfer frame with
    ⟨accepted, ignored⟩ | ⟨start, -, -, addressed, outside⟩ |
      ⟨accepted, addressed, inside, reply⟩
  · refine .inl ⟨accepted, if_neg ?_⟩
    rintro ⟨addressed, -, reply⟩
    exact (ignored addressed).2 reply
  · exact absurd (sound addressed).1 outside
  · exact .inr ⟨accepted, inside, (sound addressed).2 reply,
      if_pos ⟨addressed, inside, reply⟩⟩

theorem processFrame_eq (sound : SoundFrame frame.content)
    (state : OfferState) :
    (processFrame transfer state frame).map Handled.state =
      .ok ((readMessage frame.content).elim state state.hear) := by
  rcases readMessage_cases transfer sound with
    ⟨accepted, noMessage⟩ | ⟨accepted, inside, whole, message⟩
  · rw [processFrame_ignored accepted, noMessage]
    rfl
  · rw [processFrame_reply accepted inside, scanOffer_eq whole, ok_bind,
      parseDhcpOptions_eq, message]
    rw [Option.elim_some, OfferState.hear_ofOptions]
    dsimp only
    split_ifs <;> rfl

theorem processAck_eq (sound : SoundFrame frame.content) (state : AckState) :
    (processAck transfer state frame).map Handled.state =
      .ok ((readMessage frame.content).elim state state.hear) := by
  cases foundEq : state.found with
  | true =>
      have kept : ∀ message, state.hear message = state :=
        fun _ => if_pos foundEq
      rw [processAck, if_pos foundEq]
      cases readMessage frame.content with
      | none => rfl
      | some message => exact congrArg Except.ok (kept message).symm
  | false =>
      rw [processAck, if_neg (by simp [foundEq])]
      rcases readMessage_cases transfer sound with
        ⟨accepted, noMessage⟩ | ⟨accepted, inside, -, message⟩
      · rw [accepted, noMessage]
        rfl
      · have areaLength : frame.content.length -
            (dhcpStart frame.content + 240) =
              (optionArea frame.content).length := by
          simp [optionArea]
        have within := inside
        unfold HeaderInside at within
        have yiaddr := @rawRead_inside transfer frame
          (dhcpStart frame.content + 16) 4 (by omega)
        rw [accepted, ok_bind, message]
        simp only [range_to_end inside, ok_bind, subtract_eq_ok inside,
          areaLength, yiaddr, Option.elim_some]
        change ((scanAck (optionArea frame.content)
          (optionArea frame.content).length >>= _).map _) = _
        rw [scanAck_eq, ok_bind, AckState.hear_ofOptions foundEq]
        split_ifs
        · change ((parseDhcpOptions (optionArea frame.content) >>= _).map _) =
            _
          rw [parseDhcpOptions_eq]
          rfl
        · rfl

end Frames

/-- A transfer on which neither the iterator nor a reader goes astray. -/
structure SoundTransfer (build : Build) (transfer : Transfer) : Prop where
  fits : ∀ message ∈ messages transfer.data, ¬ OffsetOverflows message
  frames : ∀ frame ∈ handedFrames build transfer.data,
    SoundFrame frame.content

/-- The messages in a transfer. -/
def heardIn (build : Build) (transfer : Transfer) : List DhcpMessage :=
  (handedFrames build transfer.data).filterMap fun frame =>
    readMessage frame.content

/-- The messages that a call of `recv_bulk` brings. -/
def inbox (build : Build) (exchange : Exchange) (call : Nat) :
    List DhcpMessage :=
  match exchange.receive call with
  | .ok transfer => heardIn build transfer
  | .error _ => []

/-- The transport does not fail, and all that it brings is sound. -/
structure SoundExchange (build : Build) (exchange : Exchange) : Prop where
  sends : ∀ call, exchange.send call = .ok ()
  receives : ∀ call, ∃ transfer, exchange.receive call = .ok transfer ∧
    SoundTransfer build transfer

theorem heardIn_of_empty (build : Build) {transfer : Transfer}
    (empty : transfer.data.length = 0) : heardIn build transfer = [] := by
  have stops : rndisDelimiter.size [] = none := rfl
  rw [heardIn, List.length_eq_zero_iff.mp empty, handedFrames, messages,
    Delimiter.slices_of_none stops]
  rfl

/-- A callback that hears one message in each frame hears those of the whole
transfer. -/
theorem forEachFrame_heard {σ : Type} {build : Build} {transfer : Transfer}
    {callback : Transfer → σ → Slice UInt8 → Checked (Handled σ)}
    {hear : σ → DhcpMessage → σ} (sound : SoundTransfer build transfer)
    (hears : ∀ frame : Slice UInt8, SoundFrame frame.content → ∀ state,
      (callback transfer state frame).map Handled.state =
        .ok ((readMessage frame.content).elim state (hear state)))
    (state : σ) :
    forEachFrame build callback transfer state =
      .ok ((heardIn build transfer).foldl hear state) := by
  have folded (frames : List (Slice UInt8))
      (sound : ∀ frame ∈ frames, SoundFrame frame.content) (state : σ) :
      frames.foldlM (fun state frame =>
          (callback transfer state frame).map Handled.state) state =
        .ok ((frames.filterMap fun frame =>
          readMessage frame.content).foldl hear state) := by
    induction frames generalizing state with
    | nil => rfl
    | cons frame frames ih =>
        obtain ⟨first, rest⟩ := List.forall_mem_cons.mp sound
        rw [List.foldlM_cons, hears frame first, ok_bind, ih rest,
          List.filterMap_cons]
        cases readMessage frame.content <;> rfl
  have decodes : ∀ message ∈ messages transfer.data,
      ∃ packet, dataPacket build message = .ok packet :=
    fun message member =>
      ⟨_, dataPacket_of_fits build (sound.fits message member)⟩
  rw [forEachFrame, forEach_new, foldlM_visit_eq decodes]
  exact folded _ sound.frames state

/-- The address that a message offers. -/
def DhcpMessage.offered (message : DhcpMessage) : Option Ipv4Addr :=
  if message.isOffer then some message.yiaddr else none

/-- The last OFFER decides. -/
theorem OfferState.foldl_hear (heard : List DhcpMessage)
    (state : OfferState) :
    (heard.foldl hear state).offeredAddr =
        (heard.filterMap DhcpMessage.offered).getLast?.or
          state.offeredAddr ∧
      (heard.foldl hear state).serverAddr =
        (heard.filterMap DhcpMessage.serverId).getLast?.or
          state.serverAddr := by
  constructor
  · refine @foldl_eq_getLast? _ _ _ DhcpMessage.offered
      OfferState.offeredAddr hear (fun _ => True) (fun _ _ _ => trivial)
      (fun state message _ => ?_) state trivial heard
    rw [hear, DhcpMessage.offered]
    split_ifs <;> rfl
  · refine @foldl_eq_getLast? _ _ _ DhcpMessage.serverId
      OfferState.serverAddr hear (fun _ => True) (fun _ _ _ => trivial)
      (fun state message _ => ?_) state trivial heard
    rw [hear]
    split_ifs <;> rfl

/-- The first ACK decides. -/
theorem AckState.foldl_hear (heard : List DhcpMessage) :
    (heard.foldl hear ⟨false, none⟩).resultLease =
      (heard.find? DhcpMessage.isAck).map DhcpMessage.lease := by
  have found (lease : DhcpLease) (heard : List DhcpMessage) :
      heard.foldl hear ⟨true, some lease⟩ = ⟨true, some lease⟩ := by
    induction heard with
    | nil => rfl
    | cons message heard ih => exact ih
  induction heard with
  | nil => rfl
  | cons message heard ih =>
      rw [List.foldl_cons, List.find?_cons]
      cases ack : message.isAck with
      | true =>
          have first : hear ⟨false, none⟩ message =
              ⟨true, some message.lease⟩ := by
            rw [hear, if_neg Bool.false_ne_true, if_pos ack]
          rw [first, found]
          rfl
      | false =>
          have passed : hear ⟨false, none⟩ message = ⟨false, none⟩ := by
            rw [hear, if_neg Bool.false_ne_true, if_neg (by simp [ack])]
          rw [passed]
          exact ih

section Loops

variable {build : Build} {exchange : Exchange}

/-- The first call that brings an OFFER. -/
def firstOffer (inbox : Nat → List DhcpMessage) (calls attempts : Nat) :
    Option Nat :=
  (List.range' calls attempts).find? fun call =>
    (inbox call).any DhcpMessage.isOffer

/-- The first ACK. -/
def firstAck (inbox : Nat → List DhcpMessage) (calls attempts : Nat) :
    Option DhcpMessage :=
  (List.range' calls attempts).findSome? fun call =>
    (inbox call).find? DhcpMessage.isAck

theorem any_isOffer (heard : List DhcpMessage) :
    heard.any DhcpMessage.isOffer =
      (heard.filterMap DhcpMessage.offered).getLast?.isSome := by
  induction heard with
  | nil => rfl
  | cons message heard ih =>
      rw [List.any_cons, getLast?_filterMap_cons, ih, DhcpMessage.offered]
      cases message.isOffer <;> simp

theorem offerLoop_succ (sound : SoundExchange build exchange)
    (attempts calls : Nat) (state : OfferState)
    (waiting : state.offeredAddr = none) :
    offerLoop build exchange (attempts + 1) calls state =
      let after := (inbox build exchange calls).foldl OfferState.hear state
      if (inbox build exchange calls).any DhcpMessage.isOffer then
        orReturn (.ok (after, calls + 1))
      else offerLoop build exchange attempts (calls + 1) after := by
  obtain ⟨transfer, received, soundTransfer⟩ := sound.receives calls
  have inboxEq : inbox build exchange calls = heardIn build transfer := by
    rw [inbox, received]
  rw [offerLoop, received, orReturn_ok_bind, inboxEq]
  by_cases empty : transfer.data.length = 0
  · rw [if_pos empty, heardIn_of_empty build empty]
    rfl
  · have offered := (OfferState.foldl_hear (heardIn build transfer) state).1
    rw [waiting, Option.or_none] at offered
    rw [if_neg empty, forEachFrame_heard soundTransfer
      (fun frame sound => processFrame_eq sound), checked_ok_bind,
      any_isOffer, ← offered]
    rfl

theorem offerLoop_eq (sound : SoundExchange build exchange)
    {attempts calls : Nat} {state : OfferState}
    (waiting : state.offeredAddr = none) :
    ∃ after, offerLoop build exchange attempts calls state =
        orReturn (.ok after) ∧
      after.1.offeredAddr.isSome =
        (firstOffer (inbox build exchange) calls attempts).isSome ∧
      ∀ call, firstOffer (inbox build exchange) calls attempts = some call →
        after.2 = call + 1 := by
  induction attempts generalizing calls state with
  | zero => exact ⟨_, rfl, by rw [waiting]; rfl, nofun⟩
  | succ attempts ih =>
      have offered :=
        (OfferState.foldl_hear (inbox build exchange calls) state).1
      rw [waiting, Option.or_none] at offered
      rw [offerLoop_succ sound attempts calls state waiting, firstOffer,
        List.range'_succ, List.find?_cons]
      cases offers : (inbox build exchange calls).any DhcpMessage.isOffer with
      | true =>
          refine ⟨_, rfl, ?_, fun call found => ?_⟩
          · rw [offered, ← any_isOffer, offers]
            rfl
          · cases found
            rfl
      | false =>
          rw [any_isOffer, ← offered] at offers
          exact ih (Option.isNone_iff_eq_none.mp (by simpa using offers))

theorem ackLoop_eq (sound : SoundExchange build exchange)
    (attempts calls : Nat) :
    ackLoop build exchange attempts calls = orReturn (.ok
      (((firstAck (inbox build exchange) calls attempts).map
        DhcpMessage.lease).getD defaultLease)) := by
  induction attempts generalizing calls with
  | zero => rfl
  | succ attempts ih =>
      obtain ⟨transfer, received, soundTransfer⟩ := sound.receives calls
      have inboxEq : inbox build exchange calls = heardIn build transfer := by
        rw [inbox, received]
      rw [ackLoop, received, orReturn_ok_bind, firstAck, List.range'_succ,
        List.findSome?_cons, inboxEq]
      by_cases empty : transfer.data.length = 0
      · rw [if_pos empty, heardIn_of_empty build empty]
        exact ih (calls + 1)
      · rw [if_neg empty, forEachFrame_heard soundTransfer
          (fun frame sound => processAck_eq sound), checked_ok_bind,
          AckState.foldl_hear]
        cases (heardIn build transfer).find? DhcpMessage.isAck with
        | none => exact ih (calls + 1)
        | some ack => rfl

end Loops

/-- The client as a function of the messages that it hears: fifty calls for
an OFFER, and fifty more for an ACK. -/
def clientOutcome (inbox : Nat → List DhcpMessage) :
    Except TetherError DhcpLease :=
  match firstOffer inbox 0 50 with
  | none => .error (.dhcp "no DHCP offer received")
  | some call =>
    .ok (((firstAck inbox (call + 1) 50).map DhcpMessage.lease).getD
      defaultLease)

/-- On a sound exchange `discover` is the client. -/
theorem discover_eq {build : Build} {exchange : Exchange}
    (sound : SoundExchange build exchange) (mac : MacAddr) :
    discover build mac exchange =
      orReturn (clientOutcome (inbox build exchange)) := by
  obtain ⟨requestBuf, holds, requestEq⟩ :=
    requestPhase_eq build mac (sound.sends 0)
  obtain ⟨⟨state, calls⟩, looped, offered, behind⟩ :=
    @offerLoop_eq build exchange sound 50 0 .initial rfl
  rw [discover, requestEq, looped, orReturn_ok_bind, clientOutcome]
  dsimp only at offered behind ⊢
  cases first : firstOffer (inbox build exchange) 0 50 with
  | none =>
      have unoffered : state.offeredAddr = none := by
        rw [first] at offered
        simpa using offered
      rw [unoffered]
      rfl
  | some call =>
      rw [first] at offered
      obtain ⟨offeredIp, offeredEq⟩ := Option.isSome_iff_exists.mp offered
      have length := (holds offeredIp (state.serverAddr.getD .unspecified)).1
      rw [behind call first, offeredEq]
      dsimp only
      change (sendFrame (exchange.send 1) _ 314 >>= _) = _
      rw [sendFrame_eq _ (by rw [length]; decide) (by decide), sound.sends 1]
      exact ackLoop_eq sound 50 (call + 1)

end AndroidTether
