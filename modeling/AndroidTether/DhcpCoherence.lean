import AndroidTether.DhcpLease

/-!
# Where a DHCP REQUEST gets its addresses from

The OFFER loop collects an offered address and a server identifier over all
frames of several transfers.  The last frame that it takes for an OFFER decides
the one, the last frame with option 54 of whatever type the other; they need
not be the same frame, and with its lengths compared neither need be an OFFER.
-/

namespace AndroidTether

open ByteWords Checked

/-- What the OFFER phase takes from a reply to our transaction. -/
structure TakenReply where
  msgType : UInt8
  serverId : Option Ipv4Addr
  yiaddr : Ipv4Addr
  deriving DecidableEq

/-- A frame as the OFFER phase takes it: an option that is cut off counts with
the bytes that are there. -/
def takeReply (bytes : Bytes) : Option TakenReply :=
  if AddressedToClient bytes ∧ HeaderInside bytes ∧ IsReply bytes then
    some ⟨lastAssigned typeIn 0 (presentOptions (optionArea bytes)),
      lastAddress 54 0 (presentOptions (optionArea bytes)),
      .readAt bytes (dhcpStart bytes + 16)⟩
  else none

/-- The address of a frame that is taken for an OFFER. -/
def takenOffer (frame : Slice UInt8) : Option Ipv4Addr :=
  (takeReply frame.content).bind fun reply =>
    if reply.msgType = 2 then some reply.yiaddr else none

/-- The server identifier that is taken from a frame. -/
def takenServer (frame : Slice UInt8) : Option Ipv4Addr :=
  (takeReply frame.content).bind TakenReply.serverId

/-- The last value that `read` finds in a list. -/
def latest {α β : Type} (read : α → Option β) (inputs : List α) : Option β :=
  inputs.reverse.findSome? read

theorem latest_append {α β : Type} (read : α → Option β)
    (first second : List α) :
    latest read (first ++ second) =
      (latest read second).or (latest read first) := by
  rw [latest, List.reverse_append, List.findSome?_append]
  rfl

theorem latest_eq_none_iff {α β : Type} {read : α → Option β}
    {inputs : List α} :
    latest read inputs = none ↔ ∀ input ∈ inputs, read input = none := by
  simp [latest]

/-- The last value comes from an input behind which nothing is found. -/
theorem latest_eq_some_iff {α β : Type} {read : α → Option β}
    {inputs : List α} {value : β} :
    latest read inputs = some value ↔
      ∃ before input after, inputs = before ++ input :: after ∧
        read input = some value ∧ ∀ later ∈ after, read later = none := by
  rw [latest, List.findSome?_eq_some_iff]
  constructor
  · rintro ⟨after, input, before, reversed, found, nothing⟩
    refine ⟨before.reverse, input, after.reverse, ?_, found, by simpa⟩
    have inputsEq := congrArg List.reverse reversed
    simpa using inputsEq
  · rintro ⟨before, input, after, rfl, found, nothing⟩
    exact ⟨after.reverse, input, before.reverse, by simp, found, by simpa⟩

/-- The callback takes a server identifier from the frame when it has none. -/
def Contributes (frame : Slice UInt8) : Prop :=
  ∃ transfer state handled, state.serverAddr = none ∧
    processFrame transfer state frame = .ok handled ∧
      handled.state.serverAddr ≠ none

/-- What a frame that is handled without a panic changes. -/
theorem processFrame_takes {transfer : Transfer} {frame : Slice UInt8}
    {state : OfferState} {handled : Handled OfferState}
    (processed : processFrame transfer state frame = .ok handled) :
    handled.state.serverAddr = (takenServer frame).or state.serverAddr ∧
      handled.state.offeredAddr = (takenOffer frame).or state.offeredAddr := by
  have ignored (notReply : ¬ (AddressedToClient frame.content ∧
      HeaderInside frame.content ∧ IsReply frame.content)) :
      takenServer frame = none ∧ takenOffer frame = none := by
    rw [takenServer, takenOffer, takeReply, if_neg notReply]
    exact ⟨rfl, rfl⟩
  rcases acceptFrame_cases transfer frame with
    ⟨accepted, notReply⟩ | ⟨start, accepted, startEq, -, outside⟩ |
      ⟨accepted, addressed, inside, reply⟩
  · obtain ⟨noServer, noOffer⟩ := ignored fun both =>
      (notReply both.1).2 both.2.2
    rw [processFrame_ignored accepted] at processed
    cases processed
    rw [noServer, noOffer]
    exact ⟨rfl, rfl⟩
  · obtain ⟨noServer, noOffer⟩ := ignored fun both => outside both.2.1
    rw [noServer, noOffer]
    rcases processFrame_outside accepted startEq outside state with
      stray | panics
    · rw [stray] at processed
      cases processed
      exact ⟨rfl, rfl⟩
    · rw [panics] at processed
      cases processed
  · rw [processFrame_reply accepted inside, bind_eq_ok] at processed
    obtain ⟨scan, scanned, handledEq⟩ := processed
    obtain ⟨final, parsed⟩ := parseDhcpOptions_ok (optionArea frame.content)
    rw [scanOffer_ok scanned, parsed] at handledEq
    rw [takenServer, takenOffer, takeReply,
      if_pos ⟨addressed, inside, reply⟩, Option.bind_some, Option.bind_some]
    dsimp only at handledEq ⊢
    split_ifs at handledEq ⊢ with isOffer
    · cases handledEq
      exact ⟨rfl, rfl⟩
    · cases handledEq
      exact ⟨rfl, rfl⟩

/-- Whether a frame is handled without a panic does not depend on the state. -/
theorem processFrame_initial {transfer : Transfer} {frame : Slice UInt8}
    {state : OfferState} {handled : Handled OfferState}
    (processed : processFrame transfer state frame = .ok handled)
    (taken : takenServer frame ≠ none) :
    ∃ fresh, processFrame transfer .initial frame = .ok fresh := by
  rcases acceptFrame_cases transfer frame with
    ⟨accepted, -⟩ | ⟨start, -, -, -, outside⟩ | ⟨accepted, -, inside, -⟩
  · exact ⟨_, processFrame_ignored accepted _⟩
  · rw [takenServer, takeReply, if_neg fun both => outside both.2.1] at taken
    exact absurd rfl taken
  · rw [processFrame_reply accepted inside, bind_eq_ok] at processed
    obtain ⟨scan, scanned, -⟩ := processed
    have inBounds := (scanOffer_ok_iff _ _).mp ⟨scan, scanned⟩
    obtain ⟨fresh, freshEq⟩ := (scanOffer_ok_iff _ none).mpr inBounds
    obtain ⟨final, parsed⟩ := parseDhcpOptions_ok (optionArea frame.content)
    rw [processFrame_reply accepted inside, OfferState.initial]
    dsimp only
    rw [freshEq, ok_bind, parsed]
    split_ifs
    · exact ⟨_, rfl⟩
    · exact ⟨_, rfl⟩

/-- A frame that is handled contributes what is taken from it. -/
theorem contributes_iff {transfer : Transfer} {frame : Slice UInt8}
    {state : OfferState} {handled : Handled OfferState}
    (processed : processFrame transfer state frame = .ok handled) :
    Contributes frame ↔ takenServer frame ≠ none := by
  constructor
  · rintro ⟨other, before, after, empty, otherProcessed, found⟩
    rw [(processFrame_takes otherProcessed).1, empty, Option.or_none] at found
    exact found
  · intro taken
    obtain ⟨fresh, freshProcessed⟩ := processFrame_initial processed taken
    refine ⟨transfer, .initial, fresh, rfl, freshProcessed, ?_⟩
    rw [(processFrame_takes freshProcessed).1, OfferState.initial,
      Option.or_none]
    exact taken

/-- How the state of the OFFER phase depends on a list of frames. -/
structure Absorbs (frames : List (Slice UInt8)) (before after : OfferState) :
    Prop where
  server : after.serverAddr =
    (latest takenServer frames).or before.serverAddr
  offered : after.offeredAddr =
    (latest takenOffer frames).or before.offeredAddr
  contributes : ∀ frame ∈ frames, Contributes frame ↔ takenServer frame ≠ none

theorem Absorbs.nil (state : OfferState) : Absorbs [] state state :=
  ⟨rfl, rfl, fun _ member => absurd member List.not_mem_nil⟩

theorem Absorbs.append {first second : List (Slice UInt8)}
    {before middle after : OfferState}
    (absorbsFirst : Absorbs first before middle)
    (absorbsSecond : Absorbs second middle after) :
    Absorbs (first ++ second) before after where
  server := by
    rw [latest_append, Option.or_assoc, ← absorbsFirst.server,
      absorbsSecond.server]
  offered := by
    rw [latest_append, Option.or_assoc, ← absorbsFirst.offered,
      absorbsSecond.offered]
  contributes := List.forall_mem_append.mpr
    ⟨absorbsFirst.contributes, absorbsSecond.contributes⟩

theorem processFrame_absorbs {transfer : Transfer} {frame : Slice UInt8}
    {state : OfferState} {handled : Handled OfferState}
    (processed : processFrame transfer state frame = .ok handled) :
    Absorbs [frame] state handled.state where
  server := by
    rw [(processFrame_takes processed).1, latest, List.reverse_singleton,
      List.findSome?_singleton]
  offered := by
    rw [(processFrame_takes processed).2, latest, List.reverse_singleton,
      List.findSome?_singleton]
  contributes := List.forall_mem_singleton.mpr (contributes_iff processed)

theorem foldlM_processFrame_absorbs {transfer : Transfer}
    {frames : List (Slice UInt8)} {state after : OfferState}
    (folded : frames.foldlM (fun state frame =>
      (processFrame transfer state frame).map Handled.state) state =
        .ok after) :
    Absorbs frames state after := by
  induction frames generalizing state with
  | nil =>
      cases folded
      exact .nil _
  | cons frame frames ih =>
      rw [List.foldlM_cons, bind_eq_ok] at folded
      obtain ⟨next, first, later⟩ := folded
      obtain ⟨handled, processed, rfl⟩ := map_eq_ok.mp first
      exact (processFrame_absorbs processed).append (ih later)

theorem forEachFrame_absorbs {build : Build} {transfer : Transfer}
    {state after : OfferState}
    (iterated : forEachFrame build processFrame transfer state = .ok after) :
    Absorbs (handedFrames build transfer.data) state after := by
  rw [forEachFrame, forEach_new] at iterated
  exact foldlM_processFrame_absorbs (foldlM_handedFrom iterated)

/-- The frames that a call of `recv_bulk` brings. -/
def callFrames (build : Build) (exchange : Exchange) (call : Nat) :
    List (Slice UInt8) :=
  match exchange.receive call with
  | .ok transfer => handedFrames build transfer.data
  | .error _ => []

/-- The frames of the calls before the REQUEST. -/
def framesBefore (build : Build) (exchange : Exchange) (calls : Nat) :
    List (Slice UInt8) :=
  (List.range calls).flatMap (callFrames build exchange)

/-- The frames of the calls up to the first with one that is taken for an
OFFER, from the given call on. -/
def decidingFrames (build : Build) (exchange : Exchange) :
    Nat → Nat → List (Slice UInt8)
  | 0, _ => []
  | attempts + 1, call =>
      callFrames build exchange call ++
        if (latest takenOffer (callFrames build exchange call)).isSome then []
        else decidingFrames build exchange attempts (call + 1)

theorem handedFrames_of_empty (build : Build) {data : Bytes}
    (empty : data.length = 0) : handedFrames build data = [] := by
  have stops : rndisDelimiter.size [] = none := rfl
  rw [List.length_eq_zero_iff.mp empty, handedFrames, messages,
    Delimiter.slices_of_none stops]
  rfl

/-- The OFFER loop absorbs the frames of the calls that it makes, and it stops
where the frames decide. -/
theorem offerLoop_absorbs {build : Build} {exchange : Exchange}
    {attempts made calls : Nat} {state after : OfferState}
    (waiting : state.offeredAddr = none)
    (looped : offerLoop build exchange attempts made state =
      orReturn (.ok (after, calls))) :
    Absorbs (decidingFrames build exchange attempts made) state after ∧
      framesBefore build exchange calls =
        framesBefore build exchange made ++
          decidingFrames build exchange attempts made := by
  induction attempts generalizing made state with
  | zero =>
      cases looped
      exact ⟨.nil _, (List.append_nil _).symm⟩
  | succ attempts ih =>
      have step : framesBefore build exchange (made + 1) =
          framesBefore build exchange made ++
            callFrames build exchange made := by
        rw [framesBefore, List.range_succ, List.flatMap_append,
          List.flatMap_singleton]
        rfl
      rw [offerLoop] at looped
      rw [decidingFrames]
      cases receivedEq : exchange.receive made with
      | error error =>
          rw [receivedEq] at looped
          cases looped
      | ok transfer =>
          have brought : callFrames build exchange made =
              handedFrames build transfer.data := by
            rw [callFrames, receivedEq]
          rw [receivedEq, orReturn_ok_bind] at looped
          by_cases empty : transfer.data.length = 0
          · rw [if_pos empty] at looped
            rw [handedFrames_of_empty build empty] at brought
            obtain ⟨absorbs, received⟩ := ih waiting looped
            rw [step, brought, List.append_nil] at received
            rw [brought]
            exact ⟨absorbs, received⟩
          · rw [if_neg empty] at looped
            obtain ⟨next, iterated⟩ :
                ∃ next, forEachFrame build processFrame transfer state =
                  .ok next := by
              cases iterated :
                  forEachFrame build processFrame transfer state with
              | error panic =>
                  rw [iterated] at looped
                  cases looped
              | ok next => exact ⟨next, rfl⟩
            rw [iterated, checked_ok_bind] at looped
            have absorbs := forEachFrame_absorbs iterated
            rw [← brought] at absorbs
            have offered := absorbs.offered
            rw [waiting, Option.or_none] at offered
            rw [← offered]
            split_ifs at looped ⊢ with isOffered
            · cases looped
              rw [List.append_nil]
              exact ⟨absorbs, step⟩
            · have stillWaiting : next.offeredAddr = none := by
                simpa using isOffered
              obtain ⟨later, received⟩ := ih stillWaiting looped
              rw [step, List.append_assoc] at received
              exact ⟨absorbs.append later, received⟩

/-- The value of an option of the REQUEST that will be sent. -/
def Request.option (request : Request) (code : UInt8) : Option Bytes :=
  optionValue ((request.ethBuf.take request.len).drop 282) code

/-- Offered address and server identifier of the REQUEST come from one OFFER
among the frames received, read with the lengths of its options compared, and
no other frame contributes the identifier. -/
def Coherent (frames : List (Slice UInt8)) (request : Request) : Prop :=
  ∃ before offer after message, frames = before ++ offer :: after ∧
    readMessage offer.content = some message ∧ message.isOffer ∧
    request.option 50 = some message.yiaddr.octets ∧
    request.option 54 =
      some (message.serverId.getD .unspecified).octets ∧
    (∀ frame ∈ after, ¬ Contributes frame) ∧
    (¬ Contributes offer → ∀ frame ∈ before, ¬ Contributes frame)

/-- Every REQUEST that `discover` builds is coherent. -/
def RequestCoherent (build : Build) (mac : MacAddr) (exchange : Exchange) :
    Prop :=
  ∀ request, requestPhase build mac exchange = orReturn (.ok request) →
    Coherent (framesBefore build exchange request.calls) request

/-- With the lengths of its options compared, the frame is an OFFER of the
address by the server. -/
def IsOfferOf (offered server : Ipv4Addr) (frame : Slice UInt8) : Prop :=
  ∃ message, readMessage frame.content = some message ∧ message.isOffer ∧
    message.yiaddr = offered ∧
    message.serverId.getD .unspecified = server

/-- The frame with the identifier that is taken from it. -/
def withServer (frame : Slice UInt8) : Option (Slice UInt8 × Ipv4Addr) :=
  (takenServer frame).map fun server => (frame, server)

/-- The last frame that an identifier is taken from is an OFFER of the address
that is taken last, by that server; where no identifier is taken, there is an
OFFER of that address. -/
def TakenFromOffer (frames : List (Slice UInt8)) (offered : Ipv4Addr) : Prop :=
  match latest withServer frames with
  | some (frame, server) => IsOfferOf offered server frame
  | none => ∃ frame ∈ frames, IsOfferOf offered .unspecified frame

instance (offered server : Ipv4Addr) (frame : Slice UInt8) :
    Decidable (IsOfferOf offered server frame) :=
  match read : readMessage frame.content with
  | none => .isFalse fun ⟨_, readEq, _⟩ =>
      Option.some_ne_none _ (readEq.symm.trans read)
  | some message =>
      decidable_of_iff (message.isOffer ∧ message.yiaddr = offered ∧
        message.serverId.getD .unspecified = server)
        ⟨fun holds => ⟨message, read, holds⟩, fun ⟨_, readEq, holds⟩ =>
          Option.some.inj (read.symm.trans readEq) ▸ holds⟩

instance (frames : List (Slice UInt8)) (offered : Ipv4Addr) :
    Decidable (TakenFromOffer frames offered) :=
  match last : latest withServer frames with
  | none =>
      decidable_of_iff
        (∃ frame ∈ frames, IsOfferOf offered .unspecified frame)
        (by rw [TakenFromOffer, last])
  | some (frame, server) =>
      decidable_of_iff (IsOfferOf offered server frame)
        (by rw [TakenFromOffer, last])

theorem optionValue_requestOptions (offeredIp serverIp : Ipv4Addr)
    (following : Bytes) :
    optionValue (requestOptions offeredIp serverIp ++ following) 50 =
        some offeredIp.octets ∧
      optionValue (requestOptions offeredIp serverIp ++ following) 54 =
        some serverIp.octets := by
  have parts : requestOptions offeredIp serverIp ++ following =
      [[53, 1, 3], 50 :: 4 :: offeredIp.octets, 54 :: 4 :: serverIp.octets,
        [55, 3, 1, 3, 6]].flatten ++ 0xFF :: following := by
    simp [requestOptions]
  have complete : ∀ part ∈ [[53, 1, 3], 50 :: 4 :: offeredIp.octets,
      54 :: 4 :: serverIp.octets, [55, 3, 1, 3, 6]],
      optionDelimiter.Complete part := by
    intro part member
    simp only [List.mem_cons, List.not_mem_nil, or_false] at member
    rcases member with rfl | rfl | rfl | rfl <;>
      exact option_complete (by decide) (by decide) (by simp)
  have stops : optionDelimiter.size (0xFF :: following) = none := by
    cases following <;> rfl
  rw [optionValue, optionValue, parts,
    Delimiter.items_flatten_append complete, Delimiter.items_of_none stops]
  exact ⟨rfl, rfl⟩

theorem request_option {request : Request} {offeredIp serverIp : Ipv4Addr}
    (holds : HoldsRequest request.ethBuf offeredIp serverIp)
    (lenEq : request.len = 314) :
    request.option 50 = some offeredIp.octets ∧
      request.option 54 = some serverIp.octets := by
  obtain ⟨-, header, rest, headerLength, layout⟩ := holds
  have area : (request.ethBuf.take request.len).drop 282 =
      requestOptions offeredIp serverIp ++ rest.take 11 := by
    have optionsLength : (requestOptions offeredIp serverIp).length = 21 := by
      simp [requestOptions]
    have headerTaken : header.take 314 = header :=
      List.take_of_length_le (by omega)
    have headerDropped : header.drop 282 = [] :=
      List.drop_of_length_le (by omega)
    have optionsTaken : (requestOptions offeredIp serverIp).take 32 =
        requestOptions offeredIp serverIp :=
      List.take_of_length_le (by omega)
    rw [layout, lenEq, List.append_assoc, List.take_append, List.drop_append,
      headerLength]
    simp [List.take_append, headerLength, optionsLength, headerTaken,
      headerDropped, optionsTaken]
  rw [Request.option, Request.option, area]
  exact optionValue_requestOptions offeredIp serverIp _

theorem requestPhase_options {build : Build} {mac : MacAddr}
    {exchange : Exchange} {request : Request}
    (built : requestPhase build mac exchange = orReturn (.ok request)) :
    framesBefore build exchange request.calls =
        decidingFrames build exchange 50 0 ∧
      (∀ frame ∈ decidingFrames build exchange 50 0,
        Contributes frame ↔ takenServer frame ≠ none) ∧
      ∃ offered,
        latest takenOffer (decidingFrames build exchange 50 0) =
          some offered ∧
        request.option 50 = some offered.octets ∧
        request.option 54 = some ((latest takenServer
          (decidingFrames build exchange 50 0)).getD .unspecified).octets := by
  cases sendEq : exchange.send 0 with
  | error error =>
      rw [requestPhase_unsent build mac sendEq] at built
      cases built
  | ok _ =>
      obtain ⟨requestBuf, holds, requestEq⟩ :=
        requestPhase_eq build mac sendEq
      rw [requestEq] at built
      rcases (offerLoop build exchange 50 0 .initial).cases with
        ⟨panic, looped⟩ | ⟨error, looped⟩ | ⟨⟨state, calls⟩, looped⟩
      · rw [looped] at built
        cases built
      · rw [looped] at built
        cases built
      · obtain ⟨absorbs, received⟩ := offerLoop_absorbs rfl looped
        obtain ⟨serverEq, offerEq, contributes⟩ := absorbs
        rw [OfferState.initial, Option.or_none] at serverEq offerEq
        rw [looped, orReturn_ok_bind] at built
        cases offered : state.offeredAddr with
        | none =>
            simp only [offered] at built
            cases built
        | some address =>
            simp only [offered] at built
            cases built
            rw [← serverEq, ← offerEq]
            exact ⟨received, contributes, address, offered,
              request_option (holds _ _) rfl⟩

theorem latest_withServer_eq_none {frames : List (Slice UInt8)} :
    latest withServer frames = none ↔
      ∀ frame ∈ frames, takenServer frame = none := by
  simp [latest_eq_none_iff, withServer]

theorem latest_withServer_eq_some {frames : List (Slice UInt8)}
    {frame : Slice UInt8} {server : Ipv4Addr} :
    latest withServer frames = some (frame, server) ↔
      ∃ before after, frames = before ++ frame :: after ∧
        takenServer frame = some server ∧
          ∀ later ∈ after, takenServer later = none := by
  rw [latest_eq_some_iff]
  constructor
  · rintro ⟨before, input, after, framesEq, found, nothing⟩
    obtain ⟨_, taken, inputEq⟩ := Option.map_eq_some_iff.mp found
    cases inputEq
    exact ⟨before, after, framesEq, taken, fun later member =>
      Option.map_eq_none_iff.mp (nothing later member)⟩
  · rintro ⟨before, after, framesEq, taken, nothing⟩
    exact ⟨before, frame, after, framesEq, by rw [withServer, taken]; rfl,
      fun later member => Option.map_eq_none_iff.mpr (nothing later member)⟩

section

variable {frames : List (Slice UInt8)} {request : Request}
  {offered : Ipv4Addr}

theorem Coherent.takenFromOffer (coherent : Coherent frames request)
    (contributes : ∀ frame ∈ frames,
      Contributes frame ↔ takenServer frame ≠ none)
    (option50 : request.option 50 = some offered.octets)
    (option54 : request.option 54 = some
      ((latest takenServer frames).getD .unspecified).octets) :
    TakenFromOffer frames offered := by
  obtain ⟨before, offer, after, message, rfl, read, isOffer, offerOption,
    serverOption, silentAfter, alone⟩ := coherent
  have silent {frame : Slice UInt8} (member : frame ∈ before ++ offer :: after)
      (quiet : ¬ Contributes frame) : takenServer frame = none :=
    not_not.mp (mt (contributes frame member).mpr quiet)
  have sameAddress : message.yiaddr = offered := by
    rw [option50, Option.some.injEq] at offerOption
    exact (Ipv4Addr.octets_injective offerOption).symm
  have sameServer : message.serverId.getD .unspecified =
      (latest takenServer (before ++ offer :: after)).getD .unspecified := by
    rw [option54, Option.some.injEq] at serverOption
    exact (Ipv4Addr.octets_injective serverOption).symm
  have nothingAfter : ∀ later ∈ after, takenServer later = none :=
    fun later member => silent (by simp [member]) (silentAfter later member)
  rw [TakenFromOffer]
  cases taken : takenServer offer with
  | none =>
      have quiet : ¬ Contributes offer := fun contributed =>
        (contributes offer (by simp)).mp contributed taken
      have nothingBefore : ∀ frame ∈ before, takenServer frame = none :=
        fun frame member => silent (by simp [member]) (alone quiet frame member)
      have nothing : ∀ frame ∈ before ++ offer :: after,
          takenServer frame = none :=
        List.forall_mem_append.mpr ⟨nothingBefore,
          List.forall_mem_cons.mpr ⟨taken, nothingAfter⟩⟩
      rw [latest_withServer_eq_none.mpr nothing]
      rw [latest_eq_none_iff.mpr nothing] at sameServer
      exact ⟨offer, by simp, message, read, isOffer, sameAddress, sameServer⟩
  | some server =>
      have last : latest takenServer (before ++ offer :: after) =
          some server :=
        latest_eq_some_iff.mpr
          ⟨before, offer, after, rfl, taken, nothingAfter⟩
      rw [latest_withServer_eq_some.mpr
        ⟨before, after, rfl, taken, nothingAfter⟩]
      rw [last] at sameServer
      exact ⟨message, read, isOffer, sameAddress, sameServer⟩

theorem TakenFromOffer.coherent (fromOffer : TakenFromOffer frames offered)
    (contributes : ∀ frame ∈ frames,
      Contributes frame ↔ takenServer frame ≠ none)
    (option50 : request.option 50 = some offered.octets)
    (option54 : request.option 54 = some
      ((latest takenServer frames).getD .unspecified).octets) :
    Coherent frames request := by
  have quiet {frame : Slice UInt8} (member : frame ∈ frames)
      (silent : takenServer frame = none) : ¬ Contributes frame :=
    fun contributed => (contributes frame member).mp contributed silent
  rw [TakenFromOffer] at fromOffer
  cases last : latest withServer frames with
  | none =>
      rw [last] at fromOffer
      obtain ⟨offer, member, message, read, isOffer, rfl, serverEq⟩ :=
        fromOffer
      have nothing := latest_withServer_eq_none.mp last
      rw [latest_eq_none_iff.mpr nothing] at option54
      obtain ⟨before, after, rfl⟩ := List.append_of_mem member
      refine ⟨before, offer, after, message, rfl, read, isOffer, option50,
        by rw [option54, serverEq]; rfl, ?_, fun _ => ?_⟩
      · exact fun frame later =>
          quiet (by simp [later]) (nothing frame (by simp [later]))
      · exact fun frame earlier =>
          quiet (by simp [earlier]) (nothing frame (by simp [earlier]))
  | some found =>
      obtain ⟨offer, server⟩ := found
      rw [last] at fromOffer
      obtain ⟨message, read, isOffer, rfl, rfl⟩ := fromOffer
      obtain ⟨before, after, rfl, taken, nothingAfter⟩ :=
        latest_withServer_eq_some.mp last
      rw [latest_eq_some_iff.mpr
        ⟨before, offer, after, rfl, taken, nothingAfter⟩] at option54
      refine ⟨before, offer, after, message, rfl, read, isOffer, option50,
        option54, ?_, fun notContributes => ?_⟩
      · exact fun frame later =>
          quiet (by simp [later]) (nothingAfter frame later)
      · have contributed := (contributes offer (by simp)).mpr (by simp [taken])
        exact absurd contributed notContributes

end

theorem RequestCoherent.takenFromOffer {build : Build} {mac : MacAddr}
    {exchange : Exchange} {request : Request} {offered : Ipv4Addr}
    (coherent : RequestCoherent build mac exchange)
    (built : requestPhase build mac exchange = orReturn (.ok request))
    (lastOffer : latest takenOffer (decidingFrames build exchange 50 0) =
      some offered) :
    TakenFromOffer (decidingFrames build exchange 50 0) offered := by
  have isCoherent := coherent request built
  obtain ⟨received, contributes, address, sameOffer, option50, option54⟩ :=
    requestPhase_options built
  rw [lastOffer, Option.some.injEq] at sameOffer
  subst sameOffer
  rw [received] at isCoherent
  exact isCoherent.takenFromOffer contributes option50 option54

/-- The REQUEST is coherent exactly when the identifier that is taken last
comes from an OFFER of the address requested. -/
theorem requestCoherent_iff (build : Build) (mac : MacAddr)
    (exchange : Exchange) :
    RequestCoherent build mac exchange ↔
      ((∃ request, requestPhase build mac exchange =
          orReturn (.ok request)) →
        ∀ offered,
          latest takenOffer (decidingFrames build exchange 50 0) =
            some offered →
          TakenFromOffer (decidingFrames build exchange 50 0) offered) := by
  constructor
  · rintro coherent ⟨request, built⟩ offered lastOffer
    exact coherent.takenFromOffer built lastOffer
  · intro fromOffer request built
    obtain ⟨received, contributes, offered, lastOffer, option50, option54⟩ :=
      requestPhase_options built
    rw [received]
    exact (fromOffer ⟨request, built⟩ offered lastOffer).coherent contributes
      option50 option54

/-- The address the OFFER loop ends with. -/
def offeredBy (outcome : Fallible (OfferState × Nat)) : Option Ipv4Addr :=
  match outcome with
  | .ok (.ok (state, _)) => state.offeredAddr
  | _ => none

theorem requestPhase_builds {build : Build} {mac : MacAddr}
    {exchange : Exchange} {offeredIp : Ipv4Addr}
    (sent : exchange.send 0 = .ok ())
    (offered : offeredBy (offerLoop build exchange 50 0 .initial) =
      some offeredIp) :
    ∃ request, requestPhase build mac exchange =
      orReturn (.ok request) := by
  obtain ⟨requestBuf, -, requestEq⟩ := requestPhase_eq build mac sent
  rw [requestEq]
  rcases (offerLoop build exchange 50 0 .initial).cases with
    ⟨panic, looped⟩ | ⟨error, looped⟩ | ⟨⟨state, calls⟩, looped⟩
  · rw [looped] at offered
    cases offered
  · rw [looped] at offered
    cases offered
  · rw [looped] at offered
    have stateOffered : state.offeredAddr = some offeredIp := offered
    simp only [looped, orReturn_ok_bind, stateOffered]
    exact ⟨_, rfl⟩

/-- A negative answer that names a server, followed by an OFFER that names
none. -/
def mixedExchange : Exchange :=
  exchangeOf
    [datagramFrame 0x45
        (replyMessage .unspecified [53, 1, 6, 54, 4, 10, 0, 0, 1, 0xFF]),
      datagramFrame 0x45
        (replyMessage (.new 192 168 42 5) [53, 1, 2, 0xFF])]
    (by decide +kernel)

/-- A lone ACK whose last option is cut off. -/
def cutOffExchange : Exchange :=
  exchangeOf
    [datagramFrame 0x45 (replyMessage (.new 192 168 42 5) cutOffArea)]
    (by decide +kernel)

theorem not_requestCoherent {exchange : Exchange} {offered : Ipv4Addr}
    (sent : exchange.send 0 = .ok ())
    (looped : offeredBy (offerLoop .release exchange 50 0 .initial) =
      some offered)
    (lastOffer : latest takenOffer (decidingFrames .release exchange 50 0) =
      some offered)
    (foreign :
      ¬ TakenFromOffer (decidingFrames .release exchange 50 0) offered) :
    ¬ RequestCoherent .release .broadcast exchange := by
  intro coherent
  obtain ⟨request, built⟩ := @requestPhase_builds .release .broadcast exchange
    offered sent looped
  exact foreign (coherent.takenFromOffer built lastOffer)

/-- The identifier that is requested is the one of a negative answer, or there
is no OFFER at all. -/
theorem mixedExchange_not_requestCoherent :
    ¬ RequestCoherent .release .broadcast mixedExchange ∧
      ¬ RequestCoherent .release .broadcast cutOffExchange :=
  ⟨@not_requestCoherent mixedExchange (.new 192 168 42 5) rfl
      (by decide +kernel) (by decide +kernel) (by decide +kernel),
    @not_requestCoherent cutOffExchange (.new 192 168 42 5) rfl
      (by decide +kernel) (by decide +kernel) (by decide +kernel)⟩

end AndroidTether
