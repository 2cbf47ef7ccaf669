import AndroidTether.DnsLeak
import AndroidTether.LastWins
import AndroidTether.UsbIo
import Mathlib.Data.List.Infix

/-!
# Learning the gateway's hardware address

What `gateway_mac` holds while frames come in.  The closure stores every
source address that does not begin with 0xFF, so that the variable follows the
last station that was heard; it stays with the first one exactly when no other
is heard.
-/

namespace AndroidTether

open ByteWords Checked

/-- The source address of a frame with a whole header. -/
def sourceOf (frame : Bytes) : Option MacAddr :=
  if long : 14 ≤ frame.length then
    some (.readAt frame 6 (by omega))
  else none

/-- The source addresses of some frames, in order. -/
def sources (frames : List Bytes) : List MacAddr :=
  frames.filterMap sourceOf

/-- The first source address that is not the broadcast address. -/
def firstStation (frames : List Bytes) : Option MacAddr :=
  (sources frames).find? (· ≠ .broadcast)

/-- The test that the closure makes. -/
def MacAddr.beginsWithFF (mac : MacAddr) : Bool :=
  mac.bytes.getD 0 0 = 0xFF

/-- The address that a frame puts into `gateway_mac`. -/
def learnedFrom (frame : Bytes) : Option MacAddr :=
  (sourceOf frame).filter (! ·.beginsWithFF)

namespace Completion

/-- The frames that the closure is called with, if the transfer succeeded. -/
def processed (config : RxConfig) (comp : Completion) : List Bytes :=
  if comp.failed then [] else comp.frames config.build

end Completion

/-- The frames that are processed in a step. -/
def UsbEvent.frames (config : RxConfig) : UsbEvent → List Bytes
  | .completed comp | .crashed comp => comp.processed config
  | .tau | .submitted _ | .accepted _ | .refused _ | .declaredGone => []

/-- The frames that a run has processed. -/
def processedFrames (config : RxConfig)
    (history : List (Taken UsbState UsbEvent)) : List Bytes :=
  history.flatMap fun taken => taken.label.frames config

section OneFrame

variable {config : RxConfig}

theorem RxState.learnGateway_gatewayMac (s : RxState) (fsrc : MacAddr) :
    (s.learnGateway fsrc).gatewayMac =
      if fsrc.beginsWithFF then s.gatewayMac else fsrc := by
  unfold learnGateway MacAddr.beginsWithFF
  generalize fsrc.bytes.getD 0 0 = first
  by_cases begins : first = 0xFF
  · simp [begins]
  · by_cases same : s.gatewayMac = fsrc
    · simp [same]
    · simp [begins, same]

theorem RxState.logFrame_gatewayMac (s : RxState) :
    s.logFrame.gatewayMac = s.gatewayMac := by
  unfold logFrame
  split_ifs <;> rfl

/-- A frame of any kind puts its source address into `gateway_mac`, or leaves
it alone. -/
theorem onFrame_gatewayMac {scan after : RxScan} {frame : Bytes}
    (handled : onFrame config scan frame = .ok after) :
    after.outer.gatewayMac =
      (learnedFrom frame).getD scan.outer.gatewayMac := by
  by_cases short : frame.length < 14
  · rw [onFrame, dif_pos short] at handled
    cases handled
    simp [learnedFrom, sourceOf, not_le.mpr short]
  have learned : ((scan.outer.logFrame).learnGateway
      (.readAt frame 6 (by omega))).gatewayMac =
        (learnedFrom frame).getD scan.outer.gatewayMac := by
    rw [RxState.learnGateway_gatewayMac, RxState.logFrame_gatewayMac,
      learnedFrom, sourceOf, dif_pos (not_lt.mp short)]
    cases begins : (MacAddr.readAt frame 6 (by omega)).beginsWithFF <;>
      simp [Option.filter, begins]
  rw [onFrame, dif_neg short] at handled
  obtain ⟨high, -, handled⟩ := bind_eq_ok.mp handled
  obtain ⟨low, -, handled⟩ := bind_eq_ok.mp handled
  dsimp only at handled
  split at handled
  · obtain ⟨⟨result, replyBuf⟩, -, handled⟩ := bind_eq_ok.mp handled
    cases result with
    | error err =>
        cases handled
        exact learned
    | ok len =>
        dsimp only at handled
        split at handled
        · obtain ⟨reply, -, handled⟩ := bind_eq_ok.mp handled
          cases handled
          exact learned
        · cases handled
          exact learned
  · obtain ⟨⟨utunLen, utunBuf⟩, -, handled⟩ := bind_eq_ok.mp handled
    dsimp only at handled
    split at handled
    · cases handled
      exact learned
    · obtain ⟨utunPkt, -, handled⟩ := bind_eq_ok.mp handled
      cases handled
      exact learned

theorem foldlM_onFrame_gatewayMac {scan after : RxScan} {frames : List Bytes}
    (handled : frames.foldlM (onFrame config) scan = .ok after) :
    after.outer.gatewayMac =
      lastAssigned learnedFrom scan.outer.gatewayMac frames := by
  induction frames generalizing scan with
  | nil =>
      cases handled
      rfl
  | cons frame frames ih =>
      rw [List.foldlM_cons] at handled
      obtain ⟨middle, first, rest⟩ := bind_eq_ok.mp handled
      rw [ih rest, onFrame_gatewayMac first, lastAssigned_cons]

theorem submitReply_gatewayMac {s after : RxState} {replies : List Bytes}
    (submitted : replies.foldlM submitReply s = .ok after) :
    after.gatewayMac = s.gatewayMac := by
  induction replies generalizing s with
  | nil =>
      cases submitted
      rfl
  | cons reply replies ih =>
      rw [List.foldlM_cons] at submitted
      obtain ⟨middle, first, rest⟩ := bind_eq_ok.mp submitted
      rw [ih rest]
      rw [submitReply] at first
      obtain ⟨⟨result, rndisBuf⟩, -, first⟩ := bind_eq_ok.mp first
      cases result with
      | error err =>
          cases first
          rfl
      | ok rlen =>
          obtain ⟨message, -, first⟩ := bind_eq_ok.mp first
          cases first
          rfl

theorem processRxCompletion_gatewayMac {comp : Completion} {ok : Bool}
    {s after : RxState}
    (processed : processRxCompletion config comp s = .ok (ok, after)) :
    after.gatewayMac =
      lastAssigned learnedFrom s.gatewayMac (comp.processed config) := by
  cases failed : comp.failed with
  | true =>
      rw [processRxCompletion, if_pos failed] at processed
      cases processed
      rw [Completion.processed, if_pos failed, lastAssigned_nil]
  | false =>
      rw [processRxCompletion_eq config failed] at processed
      obtain ⟨scan, iterated, processed⟩ := bind_eq_ok.mp processed
      obtain ⟨submitted, replied, processed⟩ := bind_eq_ok.mp processed
      cases processed
      have handled := foldlM_handedFrom iterated
      rw [← handedFrames, ← List.foldlM_map] at handled
      rw [Completion.processed, if_neg (by simp [failed])]
      exact (submitReply_gatewayMac replied).trans
        (foldlM_onFrame_gatewayMac handled)

end OneFrame

section Runs

variable {config : RxConfig} {s next : UsbState} {event : UsbEvent}
  {history : List (Taken UsbState UsbEvent)}

/-- The processed frames of a step are all that changes `gateway_mac`; a
thread that has panicked is not followed any further. -/
theorem UsbStep.gatewayMac_eq (taken : UsbStep config s event next)
    (alive : next.pc ≠ .panicked) :
    s.pc ≠ .panicked ∧ next.io.gatewayMac =
      lastAssigned learnedFrom s.io.gatewayMac (event.frames config) := by
  cases taken with
  | submitIn atPc | primed atPc | refill atPc | refillEmpty atPc
  | refillFull atPc | loop atPc | loopEnds atPc | drain atPc | drained atPc
  | gone atPc | present atPc | drainOut atPc | outIdle atPc
  | completeOut atPc | nothingOut atPc | replace atPc | replaceEmpty atPc =>
      exact ⟨by simp [atPc], rfl⟩
  | nothingIn atPc =>
      exact ⟨by rcases atPc with atPc | atPc <;> simp [atPc], rfl⟩
  | complete comp atPc pending processed =>
      refine ⟨by rcases atPc with atPc | atPc <;> simp [atPc], ?_⟩
      have learned := processRxCompletion_gatewayMac processed
      exact learned
  | crash | waitPanics | outWaitPanics => exact absurd rfl alive
  | accept | refuse | stop => exact ⟨alive, rfl⟩

theorem processedFrames_concat (history : List (Taken UsbState UsbEvent))
    (taken : Taken UsbState UsbEvent) :
    processedFrames config (history ++ [taken]) =
      processedFrames config history ++ taken.label.frames config := by
  rw [processedFrames, List.flatMap_append, List.flatMap_singleton]
  rfl

theorem gatewayMac_of_run
    (run : Run (Recorded (UsbStep config)) .initial history s)
    (alive : s.pc ≠ .panicked) :
    s.io.gatewayMac =
      lastAssigned learnedFrom .broadcast (processedFrames config history) := by
  induction run with
  | nil => rfl
  | snoc run recorded ih =>
      obtain ⟨isStep⟩ := recorded
      obtain ⟨before, valueEq⟩ := isStep.gatewayMac_eq alive
      rw [valueEq, ih before, processedFrames_concat, lastAssigned_append]

end Runs

/-- What other threads can find in `gateway_mac` during a run, with the frames
that have been processed until then: between two steps, or between two frames
of a completion. -/
inductive GatewaySeen (config : RxConfig)
    (history : List (Taken UsbState UsbEvent)) : List Bytes → MacAddr → Prop
  | between {earlier later : List (Taken UsbState UsbEvent)} {s : UsbState}
      (split : history = earlier ++ later)
      (run : Run (Recorded (UsbStep config)) .initial earlier s)
      (alive : s.pc ≠ .panicked) :
      GatewaySeen config history (processedFrames config earlier)
        s.io.gatewayMac
  | during {earlier later : List (Taken UsbState UsbEvent)}
      {taken : Taken UsbState UsbEvent} {comp : Completion}
      {front : List Bytes} {scan : RxScan}
      (split : history = earlier ++ taken :: later)
      (label : taken.label = .completed comp ∨ taken.label = .crashed comp)
      (cut : front <+: comp.processed config)
      (handled : front.foldlM (onFrame config) taken.before.takeIn.scan =
        .ok scan) :
      GatewaySeen config history (processedFrames config earlier ++ front)
        scan.outer.gatewayMac

namespace GatewaySeen

variable {config : RxConfig} {history : List (Taken UsbState UsbEvent)}
  {frames : List Bytes} {mac : MacAddr} {s : UsbState}

theorem extend (seen : GatewaySeen config history frames mac)
    (more : List (Taken UsbState UsbEvent)) :
    GatewaySeen config (history ++ more) frames mac := by
  cases seen with
  | between split run alive =>
      exact .between (by rw [split, List.append_assoc]) run alive
  | during split label cut handled =>
      exact .during (by rw [split, List.append_assoc, List.cons_append])
        label cut handled

theorem value (seen : GatewaySeen config history frames mac)
    (run : Run (Recorded (UsbStep config)) .initial history s) :
    mac = lastAssigned learnedFrom .broadcast frames := by
  cases seen with
  | between split reached alive => exact gatewayMac_of_run reached alive
  | @during earlier later taken comp front scan split label cut handled =>
      subst split
      obtain ⟨state, next, before, recorded, -⟩ := run.split
      obtain ⟨isStep⟩ := recorded
      have waits : state.pc = .waiting ∨ state.pc = .drainWait := by
        rcases label with rfl | rfl
        · cases isStep with
          | complete comp atPc => exact atPc
        · cases isStep with
          | crash comp atPc => exact atPc
      have alive : state.pc ≠ .panicked := by
        rcases waits with atPc | atPc <;> simp [atPc]
      rw [foldlM_onFrame_gatewayMac handled, lastAssigned_append,
        ← gatewayMac_of_run before alive]
      rfl

theorem isPrefix (seen : GatewaySeen config history frames mac) :
    frames <+: processedFrames config history := by
  cases seen with
  | between split =>
      rw [split, processedFrames, processedFrames, List.flatMap_append]
      exact List.prefix_append _ _
  | @during earlier later taken comp front scan split label cut =>
      have own : taken.label.frames config = comp.processed config := by
        rcases label with labelEq | labelEq <;> rw [labelEq] <;> rfl
      rw [split, processedFrames, processedFrames, List.flatMap_append,
        List.flatMap_cons, own]
      exact (List.prefix_append_right_inj _).mpr
        (cut.trans (List.prefix_append _ _))

theorem exists_during {earlier : List (Taken UsbState UsbEvent)}
    {taken : Taken UsbState UsbEvent} {front : List Bytes}
    (cut : front <+: taken.label.frames config) :
    front = [] ∨ ∃ mac, GatewaySeen config (earlier ++ [taken])
      (processedFrames config earlier ++ front) mac := by
  have handles : ∃ scan, front.foldlM (onFrame config)
      taken.before.takeIn.scan = .ok scan := by
    obtain ⟨scan, handled, -⟩ := @Scanned.foldlM config
      taken.before.takeIn.scan (by simp [RxState.scan])
      (front.map fun frame => ⟨0, frame⟩)
    rw [List.foldlM_map] at handled
    exact ⟨scan, handled⟩
  obtain ⟨scan, handled⟩ := handles
  cases label : taken.label with
  | completed comp =>
      rw [label] at cut
      exact .inr ⟨_, .during rfl (.inl label) cut handled⟩
  | crashed comp =>
      rw [label] at cut
      exact .inr ⟨_, .during rfl (.inr label) cut handled⟩
  | tau | submitted | accepted | refused | declaredGone =>
      rw [label] at cut
      exact .inl (List.prefix_nil.mp cut)

/-- After any number of the frames that a run processes there is a moment at
which the others can look. -/
theorem exists_of_prefix {front : List Bytes}
    (run : Run (Recorded (UsbStep config)) .initial history s)
    (cut : front <+: processedFrames config history) :
    ∃ mac, GatewaySeen config history front mac := by
  induction run generalizing front with
  | nil =>
      obtain rfl := List.prefix_nil.mp cut
      exact ⟨_, .between rfl .nil (by simp [UsbState.initial])⟩
  | @snoc history state next taken run recorded ih =>
      rw [processedFrames_concat] at cut
      rcases List.prefix_or_prefix_of_prefix cut
          (List.prefix_append _ _) with inside | ⟨rest, rfl⟩
      · obtain ⟨mac, seen⟩ := ih inside
        exact ⟨mac, seen.extend [taken]⟩
      · rcases exists_during ((List.prefix_append_right_inj _).mp cut) with
          rfl | seen
        · obtain ⟨mac, seen⟩ := ih List.prefix_rfl
          rw [List.append_nil]
          exact ⟨mac, seen.extend [taken]⟩
        · exact seen

end GatewaySeen

section FirstStation

variable {frames front : List Bytes} {source : MacAddr}

theorem ne_broadcast (begins : source.beginsWithFF = false) :
    source ≠ .broadcast := by
  rintro rfl
  exact absurd begins (by decide)

theorem mem_sources_of_learned {mac : MacAddr} :
    mac ∈ frames.filterMap learnedFrom ↔
      mac ∈ sources frames ∧ mac.beginsWithFF = false := by
  rw [sources, List.mem_filterMap, List.mem_filterMap]
  constructor
  · rintro ⟨frame, member, learned⟩
    obtain ⟨sourceEq, begins⟩ := Option.filter_eq_some_iff.mp learned
    exact ⟨⟨frame, member, sourceEq⟩, by simpa using begins⟩
  · rintro ⟨⟨frame, member, sourceEq⟩, begins⟩
    exact ⟨frame, member, Option.filter_eq_some_iff.mpr
      ⟨sourceEq, by simpa using begins⟩⟩

/-- `gateway_mac` holds a source address that was learned, unless there is
none. -/
theorem lastAssigned_cases (frames : List Bytes) :
    (frames.filterMap learnedFrom = [] ∧
      lastAssigned learnedFrom .broadcast frames = .broadcast) ∨
    lastAssigned learnedFrom .broadcast frames ∈
      frames.filterMap learnedFrom := by
  rw [lastAssigned]
  cases last : (frames.filterMap learnedFrom).getLast? with
  | none => exact .inl ⟨List.getLast?_eq_none_iff.mp last, rfl⟩
  | some mac => exact .inr (List.mem_of_getLast? last)

theorem firstStation_extends (cut : front <+: frames)
    (first : firstStation front = some source) :
    firstStation frames = some source := by
  obtain ⟨rest, rfl⟩ := cut
  rw [firstStation] at first ⊢
  rw [sources, List.filterMap_append, List.find?_append, ← sources, first,
    Option.some_or]

/-- What the declaration of `gateway_mac` promises: the first station, and the
broadcast address until there is one. -/
def firstGateway (frames : List Bytes) : MacAddr :=
  (firstStation frames).getD .broadcast

/-- No second station is heard, and the first one can be learned. -/
structure OneStation (frames : List Bytes) : Prop where
  learnable : ∀ source, firstStation frames = some source →
    source.beginsWithFF = false
  only : ∀ source ∈ sources frames, source.beginsWithFF = false →
    firstStation frames = some source

theorem firstStation_mem (first : firstStation frames = some source) :
    source ∈ sources frames ∧ source ≠ .broadcast :=
  ⟨List.mem_of_find?_eq_some first, by simpa using List.find?_some first⟩

theorem firstStation_isSome (member : source ∈ sources frames)
    (foreign : source ≠ .broadcast) : ∃ first, firstStation frames = some first :=
  Option.isSome_iff_exists.mp
    (List.find?_isSome.mpr ⟨source, member, by simpa using foreign⟩)

namespace OneStation

theorem value (one : OneStation frames) (cut : front <+: frames) :
    lastAssigned learnedFrom .broadcast front = firstGateway front := by
  rw [firstGateway]
  rcases lastAssigned_cases front with ⟨unlearned, valueEq⟩ | learned
  · cases first : firstStation front with
    | none => exact valueEq
    | some source =>
        have learnable := one.learnable source (firstStation_extends cut first)
        have member := mem_sources_of_learned.mpr
          ⟨(firstStation_mem first).1, learnable⟩
        rw [unlearned] at member
        cases member
  · obtain ⟨member, begins⟩ := mem_sources_of_learned.mp learned
    have inFrames := (cut.sublist.filterMap sourceOf).subset member
    obtain ⟨first, firstEq⟩ := firstStation_isSome member (ne_broadcast begins)
    have same := one.only _ inFrames begins
    rw [firstStation_extends cut firstEq] at same
    rw [firstEq, Option.getD_some, Option.some.inj same]

/-- A second station would be seen. -/
theorem of_value (kept : ∀ front, front <+: frames →
    lastAssigned learnedFrom .broadcast front = firstGateway front) :
    OneStation frames where
  learnable source first := by
    have valueEq := kept frames List.prefix_rfl
    rw [firstGateway, first, Option.getD_some] at valueEq
    rcases lastAssigned_cases frames with ⟨-, broadcast⟩ | learned
    · exact absurd (valueEq.symm.trans broadcast) (firstStation_mem first).2
    · rw [valueEq] at learned
      exact (mem_sources_of_learned.mp learned).2
  only source member begins := by
    obtain ⟨frame, frameMem, sourceEq⟩ := List.mem_filterMap.mp member
    obtain ⟨before, behind, rfl⟩ := List.append_of_mem frameMem
    have cut : before ++ [frame] <+: before ++ frame :: behind :=
      ⟨behind, by simp⟩
    have learned : learnedFrom frame = some source :=
      Option.filter_eq_some_iff.mpr ⟨sourceEq, by simpa using begins⟩
    have valueEq := kept _ cut
    rw [lastAssigned_append, lastAssigned_cons, lastAssigned_nil, learned,
      Option.getD_some, firstGateway] at valueEq
    cases first : firstStation (before ++ [frame]) with
    | none =>
        rw [first] at valueEq
        exact absurd valueEq (ne_broadcast begins)
    | some other =>
        rw [first, Option.getD_some] at valueEq
        rw [valueEq]
        exact firstStation_extends cut first

end OneStation

end FirstStation

/-- The destination of every frame that the TX loop makes is the address it
was given. -/
theorem frameMessage_destination {config : TxConfig} {mac : MacAddr}
    {packet ebuf rbuf message : Bytes} {after : Bytes × Bytes}
    (framed : frameMessage config mac packet ebuf rbuf =
      .ok (some message, after)) :
    (message.drop 44).take 6 = mac.bytes := by
  rcases ipToEth_cases packet ebuf config.hostMac mac with
    rejected | ⟨ethertype, etherTypeEq, long, fits, written⟩
  · rw [frameMessage, rejected] at framed
    cases framed
  have frameLength := framedPacket_length config mac ethertype long
  by_cases room : 54 + packet.length ≤ rbuf.length
  · obtain ⟨ebuf', rbuf', messageEq, -⟩ := @frameMessage_eq config mac packet
      ebuf rbuf ethertype etherTypeEq long fits room
    rw [messageEq] at framed
    cases framed
    rw [List.drop_left' (dataPacketHeader_length _), framedPacket,
      EthHdr.bytes, List.append_assoc, List.append_assoc,
      List.take_left' mac.length_eq]
  · unfold frameMessage at framed
    rw [written, ← framedPacket, ok_bind] at framed
    dsimp only at framed
    rw [if_neg (by omega), range_eq_ok (by omega) (by simp; omega), ok_bind,
      List.drop_zero, Nat.sub_zero, List.take_left' frameLength,
      buildDataPacket_small (by omega), ok_bind] at framed
    cases framed

/-- At one moment: the variable holds the first station, and so do the frames
that are sent with it. -/
structure KeepsFirst (frames : List Bytes) (mac : MacAddr) : Prop where
  value : mac = firstGateway frames
  destination : ∀ config packet ebuf rbuf message after,
    frameMessage config mac packet ebuf rbuf = .ok (some message, after) →
      (message.drop 44).take 6 = (firstGateway frames).bytes

/-- Throughout a run `gateway_mac` is the first station, if and only if no
other is heard and the first one can be learned. -/
theorem keepsFirst_iff {config : RxConfig} {s : UsbState}
    {history : List (Taken UsbState UsbEvent)}
    (run : Run (Recorded (UsbStep config)) .initial history s) :
    (∀ frames mac, GatewaySeen config history frames mac →
      KeepsFirst frames mac) ↔ OneStation (processedFrames config history) := by
  constructor
  · intro kept
    refine .of_value fun front cut => ?_
    obtain ⟨mac, seen⟩ := GatewaySeen.exists_of_prefix run cut
    rw [← seen.value run]
    exact (kept front mac seen).value
  · intro one frames mac seen
    have valueEq : mac = firstGateway frames := by
      rw [seen.value run]
      exact one.value seen.isPrefix
    refine ⟨valueEq, fun txConfig packet ebuf rbuf message after framed => ?_⟩
    rw [← valueEq]
    exact frameMessage_destination framed

theorem processedFrames_of_labels {config : RxConfig}
    {history : List (Taken UsbState UsbEvent)} {trace : List UsbEvent}
    (labels : history.map Taken.label = trace) :
    processedFrames config history = trace.flatMap (UsbEvent.frames config) := by
  rw [← labels, List.flatMap_map]
  rfl

def phoneMac : MacAddr :=
  ⟨[0x02, 0, 0, 0, 0, 1], rfl⟩

def otherMac : MacAddr :=
  ⟨[0x02, 0, 0, 0, 0, 2], rfl⟩

theorem processed_oneRequest (mac : MacAddr) (ip : Ipv4Addr) :
    (requestCompletion neighbourConfig mac ip 1).processed neighbourConfig =
      [Arp.request mac ip neighbourConfig.ourIp] :=
  (if_neg Bool.false_ne_true).trans (requestCompletion_handed _ _ _ 1)

theorem run_oneStation :
    ∃ trace s, Run (UsbStep neighbourConfig) .initial trace s ∧
      trace.flatMap (UsbEvent.frames neighbourConfig) =
        [Arp.request phoneMac 0xC0A82A81 neighbourConfig.ourIp] ∧
      s.pc = .drainTest ∧ 0 < s.io.inPending := by
  let first := requestCompletion neighbourConfig phoneMac 0xC0A82A81 1
  obtain ⟨after, done, received⟩ := @processRxCompletion_of_decodes
    neighbourConfig first rfl (requestCompletion_decodes _ _ _ 1)
    UsbState.primed.takeIn
  have taken := ((run_primed neighbourConfig).snoc (.loop rfl rfl)).snoc
    (.complete first (.inl rfl) (show 0 < numRxBufs by decide) done)
  have quiet : (List.replicate numRxBufs UsbEvent.tau).flatMap
      (UsbEvent.frames neighbourConfig) = [] :=
    List.flatMap_eq_nil_iff.mpr fun event member =>
      List.eq_of_mem_replicate member ▸ rfl
  have firstFrames := processed_oneRequest phoneMac 0xC0A82A81
  refine ⟨_, _, taken, ?_, rfl, ?_⟩
  · simp only [List.flatMap_append, List.flatMap_singleton, quiet,
      UsbEvent.frames, first, firstFrames, List.nil_append]
  · rw [received.inPending]
    omega

/-- With one station nothing is ever redirected. -/
theorem oneStation_keepsFirst :
    ∃ history s, Run (Recorded (UsbStep neighbourConfig)) .initial history s ∧
      processedFrames neighbourConfig history =
        [Arp.request phoneMac 0xC0A82A81 neighbourConfig.ourIp] ∧
      ∀ frames mac, GatewaySeen neighbourConfig history frames mac →
        KeepsFirst frames mac := by
  obtain ⟨trace, s, labelled, framesEq, -⟩ := run_oneStation
  obtain ⟨history, run, labels⟩ := Recorded.of_run labelled
  rw [← processedFrames_of_labels labels] at framesEq
  refine ⟨history, s, run, framesEq, (keepsFirst_iff run).mpr ?_⟩
  rw [framesEq]
  have first : firstStation
      [Arp.request phoneMac 0xC0A82A81 neighbourConfig.ourIp] =
        some phoneMac := by
    decide
  have all : sources [Arp.request phoneMac 0xC0A82A81 neighbourConfig.ourIp] =
      [phoneMac] := by
    decide
  refine ⟨fun source sourceEq => ?_, fun source member _ => ?_⟩
  · obtain rfl := Option.some.inj (first.symm.trans sourceEq)
    decide
  · rw [all] at member
    obtain rfl := List.mem_singleton.mp member
    exact first

theorem run_twoStations :
    ∃ trace s, Run (UsbStep neighbourConfig) .initial trace s ∧
      trace.flatMap (UsbEvent.frames neighbourConfig) =
        [Arp.request phoneMac 0xC0A82A81 neighbourConfig.ourIp,
          Arp.request otherMac 0xC0A82A82 neighbourConfig.ourIp] := by
  obtain ⟨trace, s, run, framesEq, drains, pending⟩ := run_oneStation
  let second := requestCompletion neighbourConfig otherMac 0xC0A82A82 1
  have again := run.snoc (.drain drains pending)
  obtain ⟨after, done, -⟩ := @processRxCompletion_of_decodes
    neighbourConfig second rfl (requestCompletion_decodes _ _ _ 1)
    (UsbState.takeIn { s with pc := .drainWait })
  have secondFrames := processed_oneRequest otherMac 0xC0A82A82
  refine ⟨_, _, again.snoc (.complete second (.inr rfl) pending done), ?_⟩
  simp only [List.flatMap_append, List.flatMap_singleton, framesEq,
    UsbEvent.frames, second, secondFrames, List.append_nil,
    List.singleton_append]

/-- All that is sent after the second request goes to the second station. -/
theorem twoStations_notKept :
    ∃ history s, Run (Recorded (UsbStep neighbourConfig)) .initial history s ∧
      ∃ frames mac, GatewaySeen neighbourConfig history frames mac ∧
        mac = otherMac ∧ firstGateway frames = phoneMac ∧
        ¬ KeepsFirst frames mac := by
  obtain ⟨trace, s, labelled, framesEq⟩ := run_twoStations
  obtain ⟨history, run, labels⟩ := Recorded.of_run labelled
  rw [← processedFrames_of_labels labels] at framesEq
  obtain ⟨mac, seen⟩ := GatewaySeen.exists_of_prefix run List.prefix_rfl
  have macEq := seen.value run
  rw [framesEq] at seen macEq
  have last : mac = otherMac := macEq.trans (by decide)
  have first : firstGateway
      [Arp.request phoneMac 0xC0A82A81 neighbourConfig.ourIp,
        Arp.request otherMac 0xC0A82A82 neighbourConfig.ourIp] = phoneMac := by
    decide
  refine ⟨history, s, run, _, mac, seen, last, first, fun kept => ?_⟩
  have same : otherMac = phoneMac := last.symm.trans (kept.value.trans first)
  exact absurd same (by decide)

end AndroidTether
