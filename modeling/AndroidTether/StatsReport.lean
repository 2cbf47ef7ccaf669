import AndroidTether.Composition
import AndroidTether.IoStream
import AndroidTether.IpcServer
import AndroidTether.RelaxedCounter

/-!
# The statistics of the main loop

The main loop of `run_session` loads the counters of the I/O thread while that
thread runs.  The loads are relaxed, so each report is known only to see fronts
of the additions; the differences between reports still come out right.
-/

namespace AndroidTether

open Checked RelaxedCounter

/-- The additions to each counter, in order. -/
structure SharedStats where
  txBytes : List Nat
  rxBytes : List Nat
  txPkts : List Nat
  rxPkts : List Nat

namespace SharedStats

def none : SharedStats :=
  ⟨[], [], [], []⟩

def append (stats later : SharedStats) : SharedStats where
  txBytes := stats.txBytes ++ later.txBytes
  rxBytes := stats.rxBytes ++ later.rxBytes
  txPkts := stats.txPkts ++ later.txPkts
  rxPkts := stats.rxPkts ++ later.rxPkts

/-- One sees no more than the other. -/
structure Before (seen now : SharedStats) : Prop where
  txBytes : seen.txBytes <+: now.txBytes
  rxBytes : seen.rxBytes <+: now.rxBytes
  txPkts : seen.txPkts <+: now.txPkts
  rxPkts : seen.rxPkts <+: now.rxPkts

theorem Before.refl (stats : SharedStats) : stats.Before stats :=
  ⟨List.prefix_rfl, List.prefix_rfl, List.prefix_rfl, List.prefix_rfl⟩

theorem Before.trans {first second third : SharedStats}
    (before : first.Before second) (later : second.Before third) :
    first.Before third where
  txBytes := before.txBytes.trans later.txBytes
  rxBytes := before.rxBytes.trans later.rxBytes
  txPkts := before.txPkts.trans later.txPkts
  rxPkts := before.rxPkts.trans later.rxPkts

theorem before_append (stats later : SharedStats) :
    stats.Before (stats.append later) :=
  ⟨List.prefix_append .., List.prefix_append .., List.prefix_append ..,
    List.prefix_append ..⟩

end SharedStats

/-- What an event of the I/O thread adds. -/
def UsbEvent.adds (config : RxConfig) : UsbEvent → SharedStats
  | .submitted message => ⟨[message.length], [], [1], []⟩
  | .completed comp =>
    let frames := forwardedFrames (comp.processed config)
    ⟨[], frames.map List.length, [], frames.map fun _ => 1⟩
  | .tau | .crashed _ | .accepted _ | .refused _ | .declaredGone => .none

/-- What a trace of the I/O thread adds. -/
def statsOf (config : RxConfig) (trace : List UsbEvent) : SharedStats where
  txBytes := (submittedMessages trace).map List.length
  rxBytes := (forwardedFrames (receivedFrames config trace)).map List.length
  txPkts := (submittedMessages trace).map fun _ => 1
  rxPkts := (forwardedFrames (receivedFrames config trace)).map fun _ => 1

/-- A report, with the numbers that the rates are computed from. -/
structure StatsReport where
  elapsed : Float
  txDelta : UInt64
  rxDelta : UInt64
  txBytes : UInt64
  rxBytes : UInt64
  txPkts : UInt64
  rxPkts : UInt64

def mbps (delta : UInt64) (elapsed : Float) : Float :=
  delta.toFloat * 8.0 / elapsed / 1e6

/-- What `send_stats` is called with. -/
def StatsReport.stats (report : StatsReport) : TetherStats where
  txMbps := mbps report.txDelta report.elapsed
  rxMbps := mbps report.rxDelta report.elapsed
  txBytes := report.txBytes
  rxBytes := report.rxBytes
  txPkts := report.txPkts
  rxPkts := report.rxPkts

/-- `left - right` on `u64`. -/
def Build.subU64 (build : Build) (left right : UInt64) : Checked UInt64 :=
  if right ≤ left then .ok (left - right)
  else match build with
    | .debug => .error .arithmeticOverflow
    | .release => .ok (left - right)

/-- Position of the main loop in a report. -/
inductive ReportPc
  | waiting
  | loadTx
  | loadRx (curTx : UInt64)
  | rate (curTx curRx : UInt64)
  | loadTxPkts (curTx curRx txDelta rxDelta : UInt64)
  | loadRxPkts (curTx curRx txDelta rxDelta txPkts : UInt64)
  | panicked

structure ReportState where
  usb : UsbState
  made : SharedStats
  /-- What the main thread has seen of it. -/
  seen : SharedStats
  pc : ReportPc
  prevTx : UInt64
  prevRx : UInt64
  reports : List StatsReport

def ReportState.initial : ReportState where
  usb := .initial
  made := .none
  seen := .none
  pc := .waiting
  prevTx := 0
  prevRx := 0
  reports := []

/-- One step of the I/O thread, or of a report of the main loop. -/
inductive ReportStep (build : Build) (config : RxConfig) :
    ReportState → Option UsbEvent → ReportState → Prop
  | io {s : ReportState} {event : UsbEvent} {usb : UsbState}
      (taken : UsbStep config s.usb event usb) :
      ReportStep build config s (some event)
        { s with usb := usb, made := s.made.append (event.adds config) }
  | due {s : ReportState} (at_ : s.pc = .waiting) :
      ReportStep build config s none { s with pc := .loadTx }
  | loadTx {s : ReportState} {now : List Nat} (at_ : s.pc = .loadTx)
      -- in the middle of a step of the I/O thread a load sees some of its
      -- additions, as it may do when the step is over
      (loads : Loads s.made.txBytes s.seen.txBytes now) :
      ReportStep build config s none
        { s with
          seen := { s.seen with txBytes := now }
          pc := .loadRx (total now) }
  | loadRx {s : ReportState} {curTx : UInt64} {now : List Nat}
      (at_ : s.pc = .loadRx curTx)
      (loads : Loads s.made.rxBytes s.seen.rxBytes now) :
      ReportStep build config s none
        { s with
          seen := { s.seen with rxBytes := now }
          pc := .rate curTx (total now) }
  | rate {s : ReportState} {curTx curRx txDelta rxDelta : UInt64}
      (at_ : s.pc = .rate curTx curRx)
      (tx : build.subU64 curTx s.prevTx = .ok txDelta)
      (rx : build.subU64 curRx s.prevRx = .ok rxDelta) :
      ReportStep build config s none
        { s with pc := .loadTxPkts curTx curRx txDelta rxDelta }
  | ratePanics {s : ReportState} {curTx curRx : UInt64} {panic : Panic}
      (at_ : s.pc = .rate curTx curRx)
      (panics : build.subU64 curTx s.prevTx = .error panic ∨
        build.subU64 curRx s.prevRx = .error panic) :
      ReportStep build config s none { s with pc := .panicked }
  | loadTxPkts {s : ReportState} {curTx curRx txDelta rxDelta : UInt64}
      {now : List Nat} (at_ : s.pc = .loadTxPkts curTx curRx txDelta rxDelta)
      (loads : Loads s.made.txPkts s.seen.txPkts now) :
      ReportStep build config s none
        { s with
          seen := { s.seen with txPkts := now }
          pc := .loadRxPkts curTx curRx txDelta rxDelta (total now) }
  | loadRxPkts {s : ReportState}
      {curTx curRx txDelta rxDelta txPkts : UInt64} {now : List Nat}
      (at_ : s.pc = .loadRxPkts curTx curRx txDelta rxDelta txPkts)
      (loads : Loads s.made.rxPkts s.seen.rxPkts now) (elapsed : Float) :
      ReportStep build config s none
        { s with
          seen := { s.seen with rxPkts := now }
          pc := .waiting
          prevTx := curTx
          prevRx := curRx
          reports := s.reports ++ [{
            elapsed, txDelta, rxDelta, txBytes := curTx, rxBytes := curRx,
            txPkts, rxPkts := total now }] }

/-- The report from what is seen now and what the last report saw. -/
def SharedStats.report (now last : SharedStats) (elapsed : Float) :
    StatsReport where
  elapsed := elapsed
  txDelta := total (now.txBytes.drop last.txBytes.length)
  rxDelta := total (now.rxBytes.drop last.rxBytes.length)
  txBytes := total now.txBytes
  rxBytes := total now.rxBytes
  txPkts := total now.txPkts
  rxPkts := total now.rxPkts

/-- Reports each of which sees no less than the one before; the first index is
what the last one saw. -/
inductive Reported : SharedStats → List StatsReport → Prop
  | none : Reported .none []
  | next {last now : SharedStats} {reports : List StatsReport}
      (earlier : Reported last reports) (before : last.Before now)
      (elapsed : Float) :
      Reported now (reports ++ [now.report last elapsed])

namespace Reported

variable {last : SharedStats} {reports : List StatsReport}

/-- The differences add up to the totals. -/
theorem sum_delta (reported : Reported last reports) :
    reports.foldl (fun sum report => sum + report.txDelta) 0 =
        total last.txBytes ∧
      reports.foldl (fun sum report => sum + report.rxDelta) 0 =
        total last.rxBytes := by
  induction reported with
  | none => exact ⟨rfl, rfl⟩
  | next earlier before elapsed ih =>
      rw [List.foldl_concat, List.foldl_concat, ih.1, ih.2]
      exact ⟨total_add_drop before.txBytes, total_add_drop before.rxBytes⟩

/-- Before a counter overflows, its values in the reports do not decrease. -/
theorem ordered {value : StatsReport → UInt64}
    {adds : SharedStats → List Nat}
    (valueEq : ∀ now last elapsed,
      value (SharedStats.report now last elapsed) = total (adds now))
    (coherent : ∀ {seen now}, SharedStats.Before seen now →
      adds seen <+: adds now)
    (reported : Reported last reports) (fits : (adds last).sum < 2 ^ 64) :
    reports.Pairwise (fun earlier later => value earlier ≤ value later) ∧
      ∀ report ∈ reports, value report ≤ total (adds last) := by
  induction reported with
  | none => exact ⟨.nil, fun _ member => absurd member List.not_mem_nil⟩
  | @next last now reports earlier before elapsed ih =>
      have grows := coherent before
      obtain ⟨pairwise, below⟩ := ih (lt_of_le_of_lt (sum_le grows) fits)
      have below report (member : report ∈ reports) :
          value report ≤ total (adds now) :=
        UInt64.le_trans (below report member) (total_le grows fits)
      constructor
      · apply List.pairwise_append.mpr
        refine ⟨pairwise, List.pairwise_singleton _ _, ?_⟩
        intro report member later isLast
        rw [List.mem_singleton.mp isLast, valueEq]
        exact below report member
      · intro report member
        rcases List.mem_append.mp member with earlier | isLast
        · exact below report earlier
        · rw [List.mem_singleton.mp isLast, valueEq]
          exact UInt64.le_refl _

end Reported

section Subtraction

variable {build : Build} {seen now : List Nat} {delta : UInt64}

/-- A difference that is computed is what was added in between. -/
theorem subU64_total (coherent : seen <+: now)
    (computed : build.subU64 (total now) (total seen) = .ok delta) :
    delta = total (now.drop seen.length) := by
  rw [← total_sub coherent]
  unfold Build.subU64 at computed
  split at computed
  · exact (Except.ok.inj computed).symm
  · cases build with
    | debug => cases computed
    | release => exact (Except.ok.inj computed).symm

/-- Only a counter that has overflowed makes it fail. -/
theorem subU64_panics {panic : Panic} (coherent : seen <+: now)
    (panics : build.subU64 (total now) (total seen) = .error panic) :
    build = .debug ∧ 2 ^ 64 ≤ now.sum := by
  unfold Build.subU64 at panics
  split at panics
  case isTrue => cases panics
  case isFalse notLe =>
      cases build with
      | debug =>
          refine ⟨rfl, ?_⟩
          by_contra fits
          exact notLe (total_le coherent (not_le.mp fits))
      | release => cases panics

end Subtraction

/-- What is known of the values that the main thread holds. -/
def ReportPc.Holds (build : Build) (last seen : SharedStats) :
    ReportPc → Prop
  | .waiting | .loadTx => True
  | .loadRx curTx => curTx = total seen.txBytes
  | .rate curTx curRx =>
    curTx = total seen.txBytes ∧ curRx = total seen.rxBytes
  | .loadTxPkts curTx curRx txDelta rxDelta =>
    curTx = total seen.txBytes ∧ curRx = total seen.rxBytes ∧
      txDelta = total (seen.txBytes.drop last.txBytes.length) ∧
      rxDelta = total (seen.rxBytes.drop last.rxBytes.length)
  | .loadRxPkts curTx curRx txDelta rxDelta txPkts =>
    curTx = total seen.txBytes ∧ curRx = total seen.rxBytes ∧
      txDelta = total (seen.txBytes.drop last.txBytes.length) ∧
      rxDelta = total (seen.rxBytes.drop last.rxBytes.length) ∧
      txPkts = total seen.txPkts
  | .panicked => build = .debug ∧
    (2 ^ 64 ≤ seen.txBytes.sum ∨ 2 ^ 64 ≤ seen.rxBytes.sum)

theorem statsOf_concat (config : RxConfig) (trace : List UsbEvent)
    (event : UsbEvent) :
    statsOf config (trace ++ [event]) =
      (statsOf config trace).append (event.adds config) := by
  have submitted : submittedMessages (trace ++ [event]) =
      submittedMessages trace ++ submittedMessages [event] :=
    List.filterMap_append
  have received := receivedFrames_append config trace [event]
  have forwarded (earlier later : List Bytes) :
      forwardedFrames (earlier ++ later) =
        forwardedFrames earlier ++ forwardedFrames later :=
    List.filter_append ..
  rw [statsOf, statsOf, submitted, received, forwarded]
  simp only [List.map_append, SharedStats.append]
  cases event with
  | completed comp =>
      simp [UsbEvent.adds, submittedMessages, receivedFrames,
        UsbEvent.received]
  | submitted message | accepted message | refused message =>
      simp [UsbEvent.adds, submittedMessages, receivedFrames,
        UsbEvent.received, forwardedFrames, SharedStats.none]
  | tau | crashed comp | declaredGone =>
      simp [UsbEvent.adds, submittedMessages, receivedFrames,
        UsbEvent.received, forwardedFrames, SharedStats.none]

/-- The I/O thread in the composed system. -/
def ReportStep.ioPart (build : Build) (config : RxConfig) :
    ComponentOf (ReportStep build config) (UsbStep config) where
  view := ReportState.usb
  label := id
  moves taken := by
    cases taken with
    | io taken => exact .takes taken
    | due | loadTx | loadRx | rate | ratePanics | loadTxPkts | loadRxPkts =>
        exact .stays

structure ReportInvariant (build : Build) (config : RxConfig)
    (trace : List UsbEvent) (s : ReportState) : Prop where
  made : s.made = statsOf config trace
  seen : s.seen.Before s.made
  known : ∃ last, Reported last s.reports ∧ last.Before s.seen ∧
    s.prevTx = total last.txBytes ∧ s.prevRx = total last.rxBytes ∧
    s.pc.Holds build last s.seen

namespace ReportInvariant

variable {build : Build} {config : RxConfig} {trace : List UsbEvent}
  {s next : ReportState} {label : Option UsbEvent}

theorem initial : ReportInvariant build config [] .initial where
  made := rfl
  seen := .refl _
  known := ⟨.none, .none, .refl _, rfl, rfl, trivial⟩

theorem step (inv : ReportInvariant build config trace s)
    (taken : ReportStep build config s label next) :
    ReportInvariant build config (trace ++ label.toList) next := by
  obtain ⟨made, seen, last, reported, before, prevTx, prevRx, holds⟩ := inv
  cases taken with
  | io taken =>
      refine ⟨?_, seen.trans (SharedStats.before_append _ _), last, reported,
        before, prevTx, prevRx, holds⟩
      rw [Option.toList_some, statsOf_concat, made]
  | due atPc =>
      rw [Option.toList_none, List.append_nil]
      exact ⟨made, seen, last, reported, before, prevTx, prevRx, trivial⟩
  | loadTx atPc loads =>
      rw [Option.toList_none, List.append_nil]
      exact ⟨made, { seen with txBytes := loads.present }, last, reported,
        { before with txBytes := before.txBytes.trans loads.coherent },
        prevTx, prevRx, rfl⟩
  | loadRx atPc loads =>
      rw [atPc] at holds
      rw [Option.toList_none, List.append_nil]
      exact ⟨made, { seen with rxBytes := loads.present }, last, reported,
        { before with rxBytes := before.rxBytes.trans loads.coherent },
        prevTx, prevRx, holds, rfl⟩
  | rate atPc tx rx =>
      rw [atPc] at holds
      obtain ⟨curTx, curRx⟩ := holds
      rw [curTx, prevTx] at tx
      rw [curRx, prevRx] at rx
      rw [Option.toList_none, List.append_nil]
      exact ⟨made, seen, last, reported, before, prevTx, prevRx, curTx, curRx,
        subU64_total before.txBytes tx, subU64_total before.rxBytes rx⟩
  | ratePanics atPc panics =>
      rw [atPc] at holds
      obtain ⟨curTx, curRx⟩ := holds
      rw [curTx, curRx, prevTx, prevRx] at panics
      rw [Option.toList_none, List.append_nil]
      refine ⟨made, seen, last, reported, before, prevTx, prevRx, ?_⟩
      rcases panics with tx | rx
      · obtain ⟨isDebug, overflowed⟩ := subU64_panics before.txBytes tx
        exact ⟨isDebug, .inl overflowed⟩
      · obtain ⟨isDebug, overflowed⟩ := subU64_panics before.rxBytes rx
        exact ⟨isDebug, .inr overflowed⟩
  | loadTxPkts atPc loads =>
      rw [atPc] at holds
      obtain ⟨curTx, curRx, txDelta, rxDelta⟩ := holds
      rw [Option.toList_none, List.append_nil]
      exact ⟨made, { seen with txPkts := loads.present }, last, reported,
        { before with txPkts := before.txPkts.trans loads.coherent },
        prevTx, prevRx, curTx, curRx, txDelta, rxDelta, rfl⟩
  | @loadRxPkts _ _ _ _ _ now atPc loads elapsed =>
      rw [atPc] at holds
      obtain ⟨rfl, rfl, rfl, rfl, rfl⟩ := holds
      rw [Option.toList_none, List.append_nil]
      have sight : last.Before { s.seen with rxPkts := now } :=
        { before with rxPkts := before.rxPkts.trans loads.coherent }
      exact ⟨made, { seen with rxPkts := loads.present }, _,
        reported.next sight elapsed, .refl _, rfl, rfl, trivial⟩

theorem of_run {events : List (Option UsbEvent)}
    (run : Run (ReportStep build config) .initial events s) :
    ReportInvariant build config
      ((ReportStep.ioPart build config).trace events) s := by
  induction run with
  | nil => exact initial
  | snoc run taken ih =>
      rw [ComponentOf.trace_concat]
      exact ih.step taken

end ReportInvariant

/-- What the reports say of the I/O thread, whose events so far are given. -/
structure ReportsAccounted (build : Build) (config : RxConfig)
    (trace : List UsbEvent) (s : ReportState) : Prop where
  /-- The counters are those of the I/O thread. -/
  counters : s.usb.txBytes = total (statsOf config trace).txBytes ∧
    s.usb.io.rxBytes = total (statsOf config trace).rxBytes ∧
    s.usb.txPkts = total (statsOf config trace).txPkts ∧
    s.usb.io.rxPkts = total (statsOf config trace).rxPkts
  /-- Each report counts fronts of what was sent and received, and its
  differences what came behind the last report. -/
  reported : ∃ last, Reported last s.reports ∧
    last.Before (statsOf config trace) ∧
    s.reports.foldl (fun sum report => sum + report.txDelta) 0 =
      total last.txBytes ∧
    s.reports.foldl (fun sum report => sum + report.rxDelta) 0 =
      total last.rxBytes
  txOrdered : (statsOf config trace).txBytes.sum < 2 ^ 64 →
    s.reports.Pairwise fun earlier later => earlier.txBytes ≤ later.txBytes
  rxOrdered : (statsOf config trace).rxBytes.sum < 2 ^ 64 →
    s.reports.Pairwise fun earlier later => earlier.rxBytes ≤ later.rxBytes
  panics : s.pc = .panicked → build = .debug ∧
    (2 ^ 64 ≤ (statsOf config trace).txBytes.sum ∨
      2 ^ 64 ≤ (statsOf config trace).rxBytes.sum)

theorem total_ones {α : Type*} (items : List α) :
    total (items.map fun _ => 1) = UInt64.ofNat items.length := by
  rw [total, List.map_const', List.sum_replicate_nat, Nat.mul_one]

/-- The reports of the main loop are right in every interleaving with an I/O
thread that has not panicked. -/
theorem reportsAccounted {build : Build} {config : RxConfig}
    {events : List (Option UsbEvent)} {s : ReportState}
    (run : Run (ReportStep build config) .initial events s)
    (alive : s.usb.pc ≠ .panicked) :
    ReportsAccounted build config
      ((ReportStep.ioPart build config).trace events) s := by
  have io := (ReportStep.ioPart build config).run run
  have streams := Streams.of_run io alive
  have account : TxAccounted _ s.usb :=
    io.history .initial fun account taken => account.step taken
  obtain ⟨made, seen, last, reported, before, -, -, holds⟩ :=
    ReportInvariant.of_run run
  rw [made] at seen
  have sight := before.trans seen
  constructor
  · refine ⟨account.txBytes, streams.rxBytes, ?_, ?_⟩
    · exact account.txPkts.trans (total_ones _).symm
    · exact streams.rxPkts.trans (total_ones _).symm
  · exact ⟨last, reported, sight, reported.sum_delta⟩
  · intro fits
    exact (reported.ordered (fun _ _ _ => rfl) (fun before => before.txBytes)
      (lt_of_le_of_lt (sum_le sight.txBytes) fits)).1
  · intro fits
    exact (reported.ordered (fun _ _ _ => rfl) (fun before => before.rxBytes)
      (lt_of_le_of_lt (sum_le sight.rxBytes) fits)).1
  · intro atPc
    rw [atPc] at holds
    refine ⟨holds.1, ?_⟩
    exact holds.2.imp (fun overflowed => overflowed.trans (sum_le seen.txBytes))
      fun overflowed => overflowed.trans (sum_le seen.rxBytes)

theorem ReportStep.run_io {build : Build} {config : RxConfig}
    {trace : List UsbEvent} {usb : UsbState}
    (run : Run (UsbStep config) .initial trace usb) :
    Run (ReportStep build config) .initial (trace.map some)
      { ReportState.initial with usb := usb, made := statsOf config trace } := by
  induction run with
  | nil => exact .nil
  | @snoc trace usb next event run taken ih =>
      rw [List.map_append, statsOf_concat]
      exact ih.snoc (.io taken)

/-- A message goes out between two reports. -/
theorem oneMessage_reported :
    ∃ events s, ReportsAccounted .debug neighbourConfig
        ((ReportStep.ioPart .debug neighbourConfig).trace events) s ∧
      s.reports.map (fun report => (report.txDelta, report.txPkts)) =
        [(0, 0), (3, 1)] := by
  have waiting := ((run_priming neighbourConfig
    (Nat.add_zero numRxBufs)).snoc (.primed rfl)).snoc
    (.accept [1, 2, 3] ⟨by simp, by simp⟩ (show 0 < txCapacity by decide))
  have idle := @ReportStep.run_io .debug _ _ _ waiting
  have first := (((((idle.snoc (.due rfl)).snoc
    (.loadTx rfl ⟨List.prefix_rfl, List.nil_prefix⟩)).snoc
    (.loadRx rfl ⟨List.prefix_rfl, List.nil_prefix⟩)).snoc
    (.rate rfl rfl rfl)).snoc
    (.loadTxPkts rfl ⟨List.prefix_rfl, List.nil_prefix⟩)).snoc
    (.loadRxPkts rfl ⟨List.prefix_rfl, List.nil_prefix⟩ 5.0)
  have sent := first.snoc (.io (.refill rfl (show 0 < maxOutUrbs by decide) rfl))
  have second := (((((sent.snoc (.due rfl)).snoc
    (.loadTx rfl ⟨List.nil_prefix, List.prefix_rfl⟩)).snoc
    (.loadRx rfl ⟨List.prefix_rfl, List.nil_prefix⟩)).snoc
    (.rate rfl rfl rfl)).snoc
    (.loadTxPkts rfl ⟨List.nil_prefix, List.prefix_rfl⟩)).snoc
    (.loadRxPkts rfl ⟨List.prefix_rfl, List.nil_prefix⟩ 5.0)
  have alive : UsbPc.refilling ≠ .panicked := by decide
  exact ⟨_, _, reportsAccounted second alive, rfl⟩

end AndroidTether
