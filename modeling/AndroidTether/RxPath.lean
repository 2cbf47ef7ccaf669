import AndroidTether.Arp
import AndroidTether.Frame
import AndroidTether.RndisRoundTrip
import Mathlib.Data.List.Forall2

/-!
# One bulk-IN completion

`process_rx_completion` of `usb_io.rs`.  A closure looks at every frame of the
transfer: it learns the gateway's hardware address, collects ARP replies and
writes IP packets to the utun.  The replies are submitted once the iteration
is over, and the IN buffer is submitted again.
-/

namespace AndroidTether

open ByteWords Checked

structure RxConfig where
  build : Build
  hostMac : MacAddr
  ourIp : Ipv4Addr

/-- What the transport hands back for a bulk-IN buffer. -/
structure Completion where
  /-- `status.is_err()` -/
  failed : Bool
  buffer : Bytes
  actualLen : Nat
  fits : actualLen ≤ buffer.length

/-- A call that leaves the program. -/
inductive RxCall
  | write (utunPkt : Bytes)
  | submitOut (message : Bytes)
  | submitIn
  deriving DecidableEq

/-- What the handling of a completion changes outside. -/
structure RxState where
  gatewayMac : MacAddr
  frameLogged : Nat
  rxPkts : UInt64
  rxBytes : UInt64
  /-- `ep_in.pending()` -/
  inPending : Nat
  /-- `ep_out.pending()` -/
  outPending : Nat
  /-- The calls so far, in order. -/
  calls : List RxCall

namespace RxState

/-- Before the first transfer. -/
def initial : RxState where
  gatewayMac := .broadcast
  frameLogged := 0
  rxPkts := 0
  rxBytes := 0
  inPending := 0
  outPending := 0
  calls := []

/-- `ep_in.submit`: one more pending transfer. -/
def submitIn (s : RxState) : RxState :=
  { s with inPending := s.inPending + 1, calls := s.calls ++ [.submitIn] }

/-- `ep_out.submit` -/
def submitOut (s : RxState) (message : Bytes) : RxState :=
  { s with
    outPending := s.outPending + 1
    calls := s.calls ++ [.submitOut message] }

/-- `tun.write`, whose result is dropped, and the counters behind it. -/
def forward (s : RxState) (utunPkt : Bytes) (frameLength : Nat) : RxState :=
  { s with
    calls := s.calls ++ [.write utunPkt]
    rxPkts := s.rxPkts + 1
    rxBytes := s.rxBytes + UInt64.ofNat frameLength }

def logFrame (s : RxState) : RxState :=
  if s.frameLogged < 10 then { s with frameLogged := s.frameLogged + 1 } else s

/-- A source address that does not begin with 0xFF is taken for the
gateway's. -/
def learnGateway (s : RxState) (fsrc : MacAddr) : RxState :=
  if fsrc.bytes.getD 0 0 ≠ 0xFF then
    if s.gatewayMac ≠ fsrc then { s with gatewayMac := fsrc } else s
  else s

end RxState

/-- The variables that the closure shares with the code around it. -/
structure RxScan where
  outer : RxState
  utunBuf : Bytes
  arpReplies : List Bytes

/-- The closure `on_frame`. -/
def onFrame (config : RxConfig) (scan : RxScan) (frame : Bytes) :
    Checked RxScan :=
  if short : frame.length < 14 then .ok scan
  else do
    let ethertype := beNat [← index frame 12, ← index frame 13]
    let outer := (scan.outer.logFrame).learnGateway
      (.readAt frame 6 (by omega))
    if ethertype = arpEthertype then
      let replyBuf := List.replicate ethBufSize 0
      match ← Arp.handleRequest frame replyBuf config.hostMac config.ourIp with
      | (.ok len, replyBuf) =>
        if len > 0 then
          let reply ← range replyBuf 0 len
          return { scan with
            outer := outer, arpReplies := scan.arpReplies ++ [reply] }
        return { scan with outer := outer }
      | (.error _, _) => return { scan with outer := outer }
    else
      let (utunLen, utunBuf) ← ethToUtun frame scan.utunBuf
      if utunLen = 0 then
        return { scan with outer := outer, utunBuf := utunBuf }
      let utunPkt ← range utunBuf 0 utunLen
      return { scan with
        outer := outer.forward utunPkt frame.length, utunBuf := utunBuf }

/-- The loop body over `arp_replies`. -/
def submitReply (s : RxState) (reply : Bytes) : Checked RxState := do
  let rndisBuf := List.replicate rndisBufSize 0
  match ← buildDataPacket rndisBuf reply with
  | (.ok rlen, rndisBuf) => return s.submitOut (← range rndisBuf 0 rlen)
  | (.error _, _) => return s

/-- `process_rx_completion`: whether the buffer is pending again. -/
def processRxCompletion (config : RxConfig) (comp : Completion)
    (s : RxState) : Checked (Bool × RxState) :=
  if comp.failed then .ok (false, s)
  else if comp.actualLen = 0 then
    let pendingBefore := s.inPending
    let s := s.submitIn
    .ok (decide (s.inPending > pendingBefore), s)
  else do
    let data ← range comp.buffer 0 comp.actualLen
    let scan ← RndisPacketIter.forEach config.build
      (fun scan frame => onFrame config scan frame.content)
      ⟨s, List.replicate (ethBufSize + 4) 0, []⟩ (.new data)
    let s ← scan.arpReplies.foldlM submitReply scan.outer
    let pendingBefore := s.inPending
    let s := s.submitIn
    return (decide (s.inPending > pendingBefore), s)

/-- `utun_buf` has room for the address family and one Ethernet buffer. -/
def utunBufSize : Nat := ethBufSize + 4

/-- The frames that are written to the utun. -/
def forwardedFrames (frames : List Bytes) : List Bytes :=
  frames.filter (CarriesIp utunBufSize ·)

/-- The frames that ask for our address. -/
def requestFrames (config : RxConfig) (frames : List Bytes) : List Bytes :=
  frames.filter (Arp.IsRequest config.ourIp ·)

/-- What a number of frames makes of the variables of the closure. -/
structure Scanned (config : RxConfig) (frames : List Bytes)
    (before after : RxScan) : Prop where
  calls : after.outer.calls = before.outer.calls ++
    (forwardedFrames frames).map fun frame => .write (utunPacket frame)
  rxPkts : after.outer.rxPkts =
    before.outer.rxPkts + UInt64.ofNat (forwardedFrames frames).length
  rxBytes : after.outer.rxBytes = before.outer.rxBytes +
    UInt64.ofNat ((forwardedFrames frames).map List.length).sum
  arpReplies : ∃ replies, after.arpReplies = before.arpReplies ++ replies ∧
    List.Forall₂ (Arp.IsReplyTo config.hostMac config.ourIp)
      (requestFrames config frames) replies
  inPending : after.outer.inPending = before.outer.inPending
  outPending : after.outer.outPending = before.outer.outPending
  size : after.utunBuf.length = before.utunBuf.length

/-- What the closure does with every frame before it looks at its type. -/
theorem RxState.logFrame_learnGateway (s : RxState) (fsrc : MacAddr) :
    ∃ gatewayMac frameLogged, s.logFrame.learnGateway fsrc =
      { s with gatewayMac := gatewayMac, frameLogged := frameLogged } := by
  unfold logFrame learnGateway
  split_ifs <;> exact ⟨_, _, rfl⟩

namespace Scanned

variable {config : RxConfig}

theorem refl (scan : RxScan) : Scanned config [] scan scan where
  calls := by simp [forwardedFrames]
  rxPkts := by simp [forwardedFrames]
  rxBytes := by simp [forwardedFrames]
  arpReplies := ⟨[], by simp, .nil⟩
  inPending := rfl
  outPending := rfl
  size := rfl

theorem trans {earlier later : List Bytes} {before middle after : RxScan}
    (first : Scanned config earlier before middle)
    (second : Scanned config later middle after) :
    Scanned config (earlier ++ later) before after where
  calls := by
    rw [second.calls, first.calls, forwardedFrames, forwardedFrames,
      forwardedFrames, List.filter_append, List.map_append, List.append_assoc]
  rxPkts := by
    rw [second.rxPkts, first.rxPkts, forwardedFrames, forwardedFrames,
      forwardedFrames, List.filter_append, List.length_append,
      UInt64.ofNat_add, UInt64.add_assoc]
  rxBytes := by
    rw [second.rxBytes, first.rxBytes, forwardedFrames, forwardedFrames,
      forwardedFrames, List.filter_append, List.map_append, List.sum_append,
      UInt64.ofNat_add, UInt64.add_assoc]
  arpReplies := by
    obtain ⟨firstReplies, firstEq, firstRight⟩ := first.arpReplies
    obtain ⟨secondReplies, secondEq, secondRight⟩ := second.arpReplies
    refine ⟨firstReplies ++ secondReplies, ?_, ?_⟩
    · rw [secondEq, firstEq, List.append_assoc]
    · rw [requestFrames, List.filter_append]
      exact List.rel_append firstRight secondRight
  inPending := second.inPending.trans first.inPending
  outPending := second.outPending.trans first.outPending
  size := second.size.trans first.size

/-- A frame of no interest changes nothing that counts. -/
theorem of_ignored {frame : Bytes} {before after : RxScan}
    (notForwarded : ¬ CarriesIp utunBufSize frame)
    (notRequest : ¬ Arp.IsRequest config.ourIp frame)
    (same : ∃ gatewayMac frameLogged, after =
      { before with
        outer := { before.outer with
          gatewayMac := gatewayMac
          frameLogged := frameLogged } }) :
    Scanned config [frame] before after := by
  obtain ⟨gatewayMac, frameLogged, rfl⟩ := same
  exact
    { calls := by simp [forwardedFrames, notForwarded]
      rxPkts := by simp [forwardedFrames, notForwarded]
      rxBytes := by simp [forwardedFrames, notForwarded]
      arpReplies := ⟨[], by simp, by simp [requestFrames, notRequest]⟩
      inPending := rfl
      outPending := rfl
      size := rfl }

/-- The closure handles one frame without a panic. -/
theorem onFrame {scan : RxScan} (size : scan.utunBuf.length = utunBufSize)
    (frame : Bytes) :
    ∃ after, onFrame config scan frame = .ok after ∧
      Scanned config [frame] scan after := by
  by_cases short : frame.length < 14
  · refine ⟨scan, dif_pos short, of_ignored ?_ ?_ ⟨_, _, rfl⟩⟩
    · exact fun carries => absurd carries.1 (not_le.mpr short)
    · exact fun request => absurd request.1 (by omega)
  have typeWord : beNat [frame.getD 12 0, frame.getD 13 0] =
      beWordAt frame 12 2 :=
    (@beWordAt_eq_bytes frame 12 2 (by omega)).symm
  obtain ⟨gatewayMac, frameLogged, seen⟩ :=
    scan.outer.logFrame_learnGateway (.readAt frame 6 (by omega))
  rw [AndroidTether.onFrame, dif_neg short, index_eq_ok (by omega), ok_bind,
    index_eq_ok (by omega), ok_bind, typeWord, seen]
  dsimp only
  by_cases isArp : beWordAt frame 12 2 = arpEthertype
  · have notForwarded : ¬ CarriesIp utunBufSize frame := by
      rintro ⟨-, inet | inet6, -⟩
      · rw [inet] at isArp
        exact absurd isArp (by decide)
      · rw [inet6] at isArp
        exact absurd isArp (by decide)
    rw [if_pos isArp]
    by_cases request : Arp.IsRequest config.ourIp frame
    · obtain ⟨answer, answered, isReply⟩ :=
        @Arp.handleRequest_of_request frame (List.replicate ethBufSize 0)
          config.hostMac config.ourIp request
          (by rw [List.length_replicate]; decide)
      rw [answered, ok_bind]
      dsimp only
      rw [if_pos (by decide),
        range_eq_ok (Nat.zero_le _) (by simp [isReply.length]), ok_bind,
        List.drop_zero, Nat.sub_zero, List.take_left' isReply.length]
      refine ⟨_, rfl, ?_⟩
      exact
        { calls := by simp [forwardedFrames, notForwarded]
          rxPkts := by simp [forwardedFrames, notForwarded]
          rxBytes := by simp [forwardedFrames, notForwarded]
          arpReplies := ⟨[answer], rfl, by
            simpa [requestFrames, request] using isReply⟩
          inPending := rfl
          outPending := rfl
          size := rfl }
    · rw [Arp.handleRequest_of_not _ _ request, ok_bind]
      exact ⟨_, rfl, of_ignored notForwarded request ⟨_, _, rfl⟩⟩
  · have notRequest : ¬ Arp.IsRequest config.ourIp frame :=
      fun request => isArp request.2.1
    rw [if_neg isArp]
    by_cases forwarded : CarriesIp utunBufSize frame
    · have length := utunPacket_length frame
      rw [ethToUtun_of_carriesIp (size ▸ forwarded), ok_bind]
      dsimp only
      rw [if_neg (by omega),
        range_eq_ok (Nat.zero_le _) (by simp [length]), ok_bind,
        List.drop_zero, Nat.sub_zero, List.take_left' length]
      refine ⟨_, rfl, ?_⟩
      exact
        { calls := by simp [forwardedFrames, forwarded, RxState.forward]
          rxPkts := by simp [forwardedFrames, forwarded, RxState.forward]
          rxBytes := by simp [forwardedFrames, forwarded, RxState.forward]
          arpReplies := ⟨[], by simp, by simp [requestFrames, notRequest]⟩
          inPending := rfl
          outPending := rfl
          size := by
            have room := forwarded.2.2
            simp only [List.length_append, length, List.length_drop, size]
            omega }
    · rw [ethToUtun_of_not (size ▸ forwarded), ok_bind]
      exact ⟨_, rfl, of_ignored forwarded notRequest ⟨_, _, rfl⟩⟩

theorem foldlM {scan : RxScan} (size : scan.utunBuf.length = utunBufSize)
    (frames : List (Slice UInt8)) :
    ∃ after, frames.foldlM
        (fun scan frame => AndroidTether.onFrame config scan frame.content)
        scan = .ok after ∧
      Scanned config (frames.map Slice.content) scan after := by
  induction frames generalizing scan with
  | nil => exact ⟨scan, rfl, refl scan⟩
  | cons frame frames ih =>
      obtain ⟨middle, handled, first⟩ := onFrame size frame.content
      obtain ⟨after, rest, second⟩ := ih (first.size.trans size)
      refine ⟨after, ?_, first.trans second⟩
      rw [List.foldlM_cons, handled, ok_bind, rest]

end Scanned

/-- The message for one ARP reply. -/
def arpMessage (reply : Bytes) : Bytes :=
  dataPacketHeader reply.length ++ reply

theorem submitReply_eq (s : RxState) {reply : Bytes}
    (length : reply.length = 42) :
    submitReply s reply = .ok (s.submitOut (arpMessage reply)) := by
  have room : 44 + reply.length ≤ (List.replicate rndisBufSize
      (0 : UInt8)).length := by
    rw [length, List.length_replicate]
    decide
  have total : (dataPacketHeader reply.length ++ reply).length =
      44 + reply.length := by simp
  rw [submitReply, buildDataPacket_eq room, ok_bind]
  dsimp only
  rw [range_eq_ok (Nat.zero_le _) (by rw [List.length_append, total]; omega),
    ok_bind, List.drop_zero, Nat.sub_zero, List.take_left' total]
  rfl

theorem foldlM_submitReply {replies : List Bytes}
    (lengths : ∀ reply ∈ replies, reply.length = 42) (s : RxState) :
    replies.foldlM submitReply s = .ok
      { s with
        outPending := s.outPending + replies.length
        calls := s.calls ++
          (replies.map arpMessage).map .submitOut } := by
  induction replies generalizing s with
  | nil => simp
  | cons reply replies ih =>
      obtain ⟨first, rest⟩ := List.forall_mem_cons.mp lengths
      rw [List.foldlM_cons, submitReply_eq s first, ok_bind, ih rest]
      simp only [RxState.submitOut, List.length_cons, List.map_cons,
        List.append_assoc, List.singleton_append]
      rw [Nat.add_assoc, Nat.add_comm 1]

namespace Completion

/-- `comp.buffer[..n]` -/
def data (comp : Completion) : Bytes :=
  comp.buffer.take comp.actualLen

/-- The frames that the closure is called with. -/
def frames (build : Build) (comp : Completion) : List Bytes :=
  (handedFrames build comp.data).map Slice.content

/-- The number of OUT transfers that a completion causes. -/
def replies (config : RxConfig) (comp : Completion) : Nat :=
  if comp.failed then 0
  else (requestFrames config (comp.frames config.build)).length

end Completion

/-- What the handling of a completion without error changes. -/
structure Received (config : RxConfig) (frames : List Bytes)
    (before after : RxState) : Prop where
  calls : ∃ replies, after.calls = before.calls ++
      (forwardedFrames frames).map (fun frame => .write (utunPacket frame)) ++
      (replies.map arpMessage).map .submitOut ++ [.submitIn] ∧
    List.Forall₂ (Arp.IsReplyTo config.hostMac config.ourIp)
      (requestFrames config frames) replies
  rxPkts : after.rxPkts =
    before.rxPkts + UInt64.ofNat (forwardedFrames frames).length
  rxBytes : after.rxBytes = before.rxBytes +
    UInt64.ofNat ((forwardedFrames frames).map List.length).sum
  inPending : after.inPending = before.inPending + 1
  outPending : after.outPending =
    before.outPending + (requestFrames config frames).length

theorem lengths_of_replies {config : RxConfig} {requests replies : List Bytes}
    (right : List.Forall₂ (Arp.IsReplyTo config.hostMac config.ourIp)
      requests replies) : ∀ reply ∈ replies, reply.length = 42 := by
  intro reply member
  induction right with
  | nil => cases member
  | cons isReply _ ih =>
      rcases List.mem_cons.mp member with rfl | later
      · exact isReply.length
      · exact ih later

/-- The closure and its variables at the beginning. -/
def RxState.scan (s : RxState) : RxScan :=
  ⟨s, List.replicate utunBufSize 0, []⟩

theorem processRxCompletion_eq (config : RxConfig) {comp : Completion}
    (succeeded : comp.failed = false) (s : RxState) :
    processRxCompletion config comp s = (do
      let scan ← (messages comp.data).foldlM
        (RndisPacketIter.visit config.build
          fun scan frame => onFrame config scan frame.content) s.scan
      let after ← scan.arpReplies.foldlM submitReply scan.outer
      return (true, after.submitIn)) := by
  have again (before : RxState) :
      decide (before.submitIn.inPending > before.inPending) = true :=
    decide_eq_true (Nat.lt_succ_self _)
  rw [processRxCompletion, if_neg (by simp [succeeded])]
  by_cases empty : comp.actualLen = 0
  · have noData : comp.data = [] := by simp [Completion.data, empty]
    have noMessages : messages ([] : Bytes) = [] :=
      Delimiter.slices_of_none rfl
    rw [if_pos empty, noData, noMessages]
    exact congrArg (fun pending => Except.ok (pending, s.submitIn)) (again s)
  · have data : range comp.buffer 0 comp.actualLen = .ok comp.data := by
      rw [range_eq_ok (Nat.zero_le _) comp.fits, List.drop_zero, Nat.sub_zero]
      rfl
    rw [if_neg empty, data, ok_bind, forEach_new]
    simp only [again]
    rfl

/-- What remains to be done when the iteration is over. -/
theorem processRxCompletion_of_scanned {config : RxConfig} {comp : Completion}
    {s : RxState} {scan : RxScan} (succeeded : comp.failed = false)
    (iterated : (messages comp.data).foldlM
      (RndisPacketIter.visit config.build
        fun scan frame => onFrame config scan frame.content) s.scan =
          .ok scan)
    (scanned : Scanned config (comp.frames config.build) s.scan scan) :
    ∃ after, processRxCompletion config comp s = .ok (true, after) ∧
      Received config (comp.frames config.build) s after := by
  obtain ⟨replies, repliesEq, right⟩ := scanned.arpReplies
  rw [RxState.scan, List.nil_append] at repliesEq
  rw [processRxCompletion_eq config succeeded, iterated, ok_bind, repliesEq,
    foldlM_submitReply (lengths_of_replies right), ok_bind]
  refine ⟨_, rfl, ?_⟩
  exact
    { calls := ⟨replies, by
        simp only [RxState.submitIn, scanned.calls]
        rfl, right⟩
      rxPkts := scanned.rxPkts
      rxBytes := scanned.rxBytes
      inPending := congrArg (· + 1) scanned.inPending
      outPending := by
        simp only [RxState.submitIn, scanned.outPending, right.length_eq]
        rfl }

/-- The packets that went to the utun, in order. -/
def utunWrites (calls : List RxCall) : List Bytes :=
  calls.filterMap fun
    | .write utunPkt => some utunPkt
    | .submitOut _ | .submitIn => none

/-- The messages that went to the OUT endpoint, in order. -/
def outMessages (calls : List RxCall) : List Bytes :=
  calls.filterMap fun
    | .submitOut message => some message
    | .write _ | .submitIn => none

section Calls

variable (calls later : List RxCall)

@[simp]
theorem utunWrites_append :
    utunWrites (calls ++ later) = utunWrites calls ++ utunWrites later :=
  List.filterMap_append

@[simp]
theorem outMessages_append :
    outMessages (calls ++ later) = outMessages calls ++ outMessages later :=
  List.filterMap_append

@[simp]
theorem utunWrites_singleton (utunPkt : Bytes) :
    utunWrites [.write utunPkt] = [utunPkt] :=
  rfl

@[simp]
theorem streams_submitOut (message : Bytes) :
    utunWrites [.submitOut message] = [] ∧
      outMessages [.submitOut message] = [message] :=
  ⟨rfl, rfl⟩

@[simp]
theorem streams_submitIn :
    utunWrites [.submitIn] = [] ∧ outMessages [.submitIn] = [] :=
  ⟨rfl, rfl⟩

theorem streams_map_write (packets : List Bytes) :
    utunWrites (packets.map .write) = packets ∧
      outMessages (packets.map .write) = [] := by
  simp [utunWrites, outMessages, List.filterMap_map]

theorem streams_map_submitOut (messages : List Bytes) :
    utunWrites (messages.map .submitOut) = [] ∧
      outMessages (messages.map .submitOut) = messages := by
  simp [utunWrites, outMessages, List.filterMap_map]

end Calls

/-- What is received goes to the utun, and its requests are answered. -/
theorem Received.streams {config : RxConfig} {frames : List Bytes}
    {before after : RxState} (received : Received config frames before after) :
    ∃ replies,
      utunWrites after.calls = utunWrites before.calls ++
        (forwardedFrames frames).map utunPacket ∧
      outMessages after.calls =
        outMessages before.calls ++ replies.map arpMessage ∧
      List.Forall₂ (Arp.IsReplyTo config.hostMac config.ourIp)
        (requestFrames config frames) replies := by
  obtain ⟨replies, calls, right⟩ := received.calls
  have written :=
    streams_map_write ((forwardedFrames frames).map utunPacket)
  rw [List.map_map] at written
  have sent := streams_map_submitOut (replies.map arpMessage)
  refine ⟨replies, ?_, ?_, right⟩
  · rw [calls]
    simp only [utunWrites_append, streams_submitIn.1, sent.1, List.append_nil]
    exact congrArg (utunWrites before.calls ++ ·) written.1
  · rw [calls]
    simp only [outMessages_append, streams_submitIn.2, sent.2, List.append_nil]
    exact congrArg (outMessages before.calls ++ · ++ _) written.2 |>.trans
      (by rw [List.append_nil])

/-- A completion that was handled without a panic has been received. -/
theorem received_of_processed {config : RxConfig} {comp : Completion}
    {before after : RxState} {ok : Bool} (succeeded : comp.failed = false)
    (processed : processRxCompletion config comp before = .ok (ok, after)) :
    Received config (comp.frames config.build) before after := by
  cases iterated : (messages comp.data).foldlM
      (RndisPacketIter.visit config.build
        fun scan frame => onFrame config scan frame.content) before.scan with
  | error panic =>
      rw [processRxCompletion_eq config succeeded, iterated] at processed
      cases processed
  | ok scan =>
      obtain ⟨handledScan, handled, scanned⟩ := @Scanned.foldlM config
        before.scan (by simp [RxState.scan])
        (handedFrames config.build comp.data)
      have same := foldlM_handedFrom iterated
      rw [← handedFrames, handled] at same
      cases same
      obtain ⟨result, resultEq, received⟩ :=
        processRxCompletion_of_scanned succeeded iterated scanned
      rw [processed] at resultEq
      cases resultEq
      exact received

theorem processRxCompletion_of_decodes {config : RxConfig} {comp : Completion}
    (succeeded : comp.failed = false)
    (decodes : ∀ message ∈ messages comp.data,
      ∃ packet, dataPacket config.build message = .ok packet)
    (s : RxState) :
    ∃ after, processRxCompletion config comp s = .ok (true, after) ∧
      Received config (comp.frames config.build) s after := by
  obtain ⟨scan, handled, scanned⟩ := @Scanned.foldlM config s.scan
    (by simp [RxState.scan]) (handedFrames config.build comp.data)
  apply processRxCompletion_of_scanned succeeded _ scanned
  rw [foldlM_visit_eq decodes]
  exact handled

/-- Whatever a completion holds, either the iterator panics or the buffer is
pending again unless the transfer failed. -/
theorem processRxCompletion_cases (config : RxConfig) (comp : Completion)
    (s : RxState) :
    (∃ panic, processRxCompletion config comp s = .error panic) ∨
      ∃ after, processRxCompletion config comp s =
          .ok (!comp.failed, after) ∧
        after.inPending = s.inPending + (if comp.failed then 0 else 1) ∧
        after.outPending = s.outPending + comp.replies config := by
  cases failed : comp.failed with
  | true =>
      refine .inr ⟨s, if_pos failed, by simp, ?_⟩
      simp [Completion.replies, failed]
  | false =>
      cases iterated : (messages comp.data).foldlM
          (RndisPacketIter.visit config.build
            fun scan frame => onFrame config scan frame.content) s.scan with
      | ok scan =>
          obtain ⟨handledScan, handled, scanned⟩ := @Scanned.foldlM config
            s.scan (by simp [RxState.scan])
            (handedFrames config.build comp.data)
          have same := foldlM_handedFrom iterated
          rw [← handedFrames, handled] at same
          cases same
          obtain ⟨after, processed, received⟩ :=
            processRxCompletion_of_scanned failed iterated scanned
          refine .inr ⟨after, processed, by simp [received.inPending], ?_⟩
          simp [Completion.replies, failed, received.outPending]
      | error panic =>
          refine .inl ⟨panic, ?_⟩
          rw [processRxCompletion_eq config failed, iterated, error_bind]

/-- The frames that an iteration yields and that hold an Ethernet header. -/
def wholeFrames (frames : List (Slice UInt8)) : List Bytes :=
  (frames.map Slice.content).filter (14 ≤ ·.length)

/-- An IP frame that fits into the buffer for the utun. -/
def IsForwarded (frame : Bytes) : Prop :=
  (beWordAt frame 12 2 = 0x0800 ∨ beWordAt frame 12 2 = 0x86DD) ∧
    frame.length ≤ 2062

instance (frame : Bytes) : Decidable (IsForwarded frame) := by
  unfold IsForwarded
  infer_instance

theorem forwardedFrames_eq (frames : List (Slice UInt8)) :
    forwardedFrames (frames.map Slice.content) =
      (wholeFrames frames).filter (IsForwarded ·) := by
  rw [wholeFrames, List.filter_filter]
  refine List.filter_congr fun frame _ => ?_
  rw [← Bool.decide_and]
  exact decide_eq_decide.mpr and_comm.symm

theorem requestFrames_eq (config : RxConfig) (frames : List (Slice UInt8)) :
    requestFrames config (frames.map Slice.content) =
      (wholeFrames frames).filter (Arp.IsRequest config.ourIp ·) := by
  rw [wholeFrames, List.filter_filter]
  refine List.filter_congr fun frame _ => ?_
  rw [← Bool.decide_and]
  refine decide_eq_decide.mpr ⟨fun request => ⟨request, ?_⟩, And.left⟩
  have long := request.1
  omega

/-- The message decodes to the reply to the request. -/
def AnswersRequest (config : RxConfig) (request message : Bytes) : Prop :=
  ∃ reply, DecodesTo message reply ∧
    Arp.IsReplyTo config.hostMac config.ourIp request reply

theorem answersRequest_of_replies {config : RxConfig}
    {requests replies : List Bytes}
    (right : List.Forall₂ (Arp.IsReplyTo config.hostMac config.ourIp)
      requests replies) :
    List.Forall₂ (AnswersRequest config) requests
      (replies.map arpMessage) := by
  induction right with
  | nil => exact .nil
  | @cons request reply requests replies isReply _ ih =>
      have length := isReply.length
      have decodes : DecodesTo (arpMessage reply) reply :=
        decodesTo_dataPacket (List.length_pos_iff.mp (by omega)) (by omega)
      exact .cons ⟨reply, decodes, isReply⟩ ih

/-- The whole effect of a completion without error: the frames that go to the
utun, the replies that go to the phone, the counters and the buffer. -/
theorem processRxCompletion_effect {config : RxConfig} {comp : Completion}
    (succeeded : comp.failed = false)
    (fits : ∀ message ∈ messages comp.data, ¬ OffsetOverflows message)
    (s : RxState) :
    ∃ frames outMessages after,
      packetFrames config.build comp.data = .ok frames ∧
      processRxCompletion config comp s = .ok (true, after) ∧
      after.calls = s.calls ++
        ((wholeFrames frames).filter (IsForwarded ·)).map
          (fun frame => .write (utunPacket frame)) ++
        outMessages.map .submitOut ++ [.submitIn] ∧
      List.Forall₂ (AnswersRequest config)
        ((wholeFrames frames).filter (Arp.IsRequest config.ourIp ·))
        outMessages ∧
      after.rxPkts = s.rxPkts + UInt64.ofNat
        ((wholeFrames frames).filter (IsForwarded ·)).length ∧
      after.rxBytes = s.rxBytes + UInt64.ofNat
        (((wholeFrames frames).filter (IsForwarded ·)).map List.length).sum ∧
      after.inPending = s.inPending + 1 := by
  have decodes : ∀ message ∈ messages comp.data,
      dataPacket config.build message = .ok (referenceFrame message) :=
    fun message member => dataPacket_of_fits config.build (fits message member)
  obtain ⟨after, processed, received⟩ := processRxCompletion_of_decodes
    succeeded (fun message member => ⟨_, decodes message member⟩) s
  have framesEq : packetFrames config.build comp.data =
      .ok (handedFrames config.build comp.data) :=
    packetFrames_of_decodes fun message member => ⟨_, decodes message member⟩
  obtain ⟨replies, calls, right⟩ := received.calls
  refine ⟨_, replies.map arpMessage, after, framesEq, processed, ?_⟩
  rw [← forwardedFrames_eq, ← requestFrames_eq]
  exact ⟨calls, answersRequest_of_replies right, received.rxPkts,
    received.rxBytes, received.inPending⟩

section Requests

variable (config : RxConfig) (theirMac : MacAddr) (theirIp : Ipv4Addr)

/-- The encoding of one request for our address. -/
def encodedRequest : EncodedFrame where
  ethFrame := Arp.request theirMac theirIp config.ourIp
  buf := List.replicate 86 0
  nonempty := List.length_pos_iff.mp (by rw [Arp.request_length]; decide)
  representable := by rw [Arp.request_length]; decide
  fits := by rw [Arp.request_length, List.length_replicate]

/-- A transfer of that many requests. -/
def requestTransfer (count : Nat) : Bytes :=
  transfer (List.replicate count
    (.frame (encodedRequest config theirMac theirIp))) ⟨[], .inl (by decide)⟩

def requestCompletion (count : Nat) : Completion where
  failed := false
  buffer := requestTransfer config theirMac theirIp count
  actualLen := (requestTransfer config theirMac theirIp count).length
  fits := le_rfl

theorem requestCompletion_data (count : Nat) :
    (requestCompletion config theirMac theirIp count).data =
      requestTransfer config theirMac theirIp count :=
  List.take_length

theorem requestCompletion_frames (count : Nat) :
    (referenceFrames (requestTransfer config theirMac theirIp count)).map
        Slice.content =
      List.replicate count (Arp.request theirMac theirIp config.ourIp) := by
  rw [requestTransfer, referenceFrames_transfer, List.filterMap_replicate]
  rfl

theorem requestCompletion_fits (count : Nat) :
    ∀ message ∈ messages (requestCompletion config theirMac theirIp
      count).data, ¬ OffsetOverflows message := by
  rw [requestCompletion_data]
  intro message member
  obtain ⟨item, -, messageEq⟩ := message_of_transfer member
  rw [messageEq]
  exact item.not_offsetOverflows _

theorem requestCompletion_decodes (count : Nat) :
    ∀ message ∈ messages (requestCompletion config theirMac theirIp
      count).data, ∃ packet,
        dataPacket config.build message = .ok packet :=
  fun message member => ⟨_, dataPacket_of_fits config.build
    (requestCompletion_fits config theirMac theirIp count message member)⟩

theorem requestCompletion_handed (count : Nat) :
    (requestCompletion config theirMac theirIp count).frames config.build =
      List.replicate count (Arp.request theirMac theirIp config.ourIp) := by
  have handed := packetFrames_of_decodes
    (requestCompletion_decodes config theirMac theirIp count)
  rw [requestCompletion_data, requestTransfer, packetFrames_transfer]
    at handed
  have content := requestCompletion_frames config theirMac theirIp count
  rw [requestTransfer, Except.ok.inj handed] at content
  rw [Completion.frames, requestCompletion_data, requestTransfer, content]

theorem requestCompletion_replies (count : Nat) :
    (requestCompletion config theirMac theirIp count).replies config =
      count := by
  have isRequest := Arp.request_isRequest theirMac theirIp config.ourIp
  rw [Completion.replies, if_neg (by simp [requestCompletion]),
    requestCompletion_handed, requestFrames, List.filter_eq_self.mpr,
    List.length_replicate]
  intro frame member
  rw [List.eq_of_mem_replicate member]
  exact decide_eq_true isRequest

end Requests

theorem request_not_forwarded {config : RxConfig} {frame : Bytes}
    (request : Arp.IsRequest config.ourIp frame) : ¬ IsForwarded frame := by
  have etherType := request.2.1
  rintro ⟨inet | inet6, -⟩ <;> omega

def neighbourConfig : RxConfig where
  build := .debug
  hostMac := .broadcast
  ourIp := 0xC0A82A64

/-- A request from a neighbour is answered, and its buffer goes back. -/
theorem oneRequest_effect :
    ∃ message after,
      processRxCompletion neighbourConfig
        (requestCompletion neighbourConfig .broadcast 0xC0A82A81 1) .initial =
          .ok (true, after) ∧
      AnswersRequest neighbourConfig
        (Arp.request .broadcast 0xC0A82A81 neighbourConfig.ourIp) message ∧
      after.calls = [.submitOut message, .submitIn] := by
  obtain ⟨frames, outMessages, after, framesEq, processed, calls, answers,
    -⟩ := @processRxCompletion_effect neighbourConfig
      (requestCompletion neighbourConfig .broadcast 0xC0A82A81 1) rfl
      (requestCompletion_fits _ _ _ 1) .initial
  have content := requestCompletion_frames neighbourConfig .broadcast
    0xC0A82A81 1
  rw [requestCompletion_data, requestTransfer, packetFrames_transfer]
    at framesEq
  rw [requestTransfer, Except.ok.inj framesEq] at content
  have isRequest := Arp.request_isRequest .broadcast 0xC0A82A81
    neighbourConfig.ourIp
  have notForwarded := request_not_forwarded isRequest
  have long := Arp.request_length .broadcast 0xC0A82A81 neighbourConfig.ourIp
  have whole : wholeFrames frames =
      [Arp.request .broadcast 0xC0A82A81 neighbourConfig.ourIp] := by
    rw [wholeFrames, content]
    simp [long]
  rw [whole] at calls answers
  simp only [List.filter_cons, List.filter_nil, isRequest, decide_true,
    if_true] at answers
  cases answers with
  | cons answer none =>
      cases none
      refine ⟨_, after, processed, answer, ?_⟩
      rw [calls]
      simp [notForwarded, RxState.initial]

end AndroidTether
