import AndroidTether.GatewayMac
import AndroidTether.UsbTransmit

/-!
# The streams of the I/O thread

What the I/O thread has written to the utun and submitted to the OUT endpoint
after a whole run.  Both are read off the events of the run: the utun gets the
packets of the frames that were received, the OUT endpoint the messages of the
TX channel and one reply for each ARP request, everything in order.
-/

namespace AndroidTether

open ByteWords Checked

/-- The frames of a transfer that was handled without a panic. -/
def UsbEvent.received (config : RxConfig) : UsbEvent → List Bytes
  | .completed comp => comp.processed config
  | .tau | .crashed _ | .submitted _ | .accepted _ | .refused _
  | .declaredGone => []

/-- The frames that a run has received, in order. -/
def receivedFrames (config : RxConfig) (trace : List UsbEvent) : List Bytes :=
  trace.flatMap (UsbEvent.received config)

/-- The messages that an event puts on the OUT endpoint. -/
def SentBy (config : RxConfig) (event : UsbEvent) (sent : List Bytes) : Prop :=
  match event with
  | .submitted message => sent = [message]
  | .completed comp => ∃ replies, sent = replies.map arpMessage ∧
      List.Forall₂ (Arp.IsReplyTo config.hostMac config.ourIp)
        (requestFrames config (comp.processed config)) replies
  | .tau | .crashed _ | .accepted _ | .refused _ | .declaredGone => sent = []

theorem receivedFrames_append (config : RxConfig)
    (earlier later : List UsbEvent) :
    receivedFrames config (earlier ++ later) =
      receivedFrames config earlier ++ receivedFrames config later :=
  List.flatMap_append

theorem length_of_forwarded {frames : List Bytes} {frame : Bytes}
    (member : frame ∈ forwardedFrames frames) :
    frame.length = (utunPacket frame).length + 10 := by
  have long := (of_decide_eq_true (List.mem_filter.mp member).2).1
  rw [utunPacket_length]
  omega

theorem sum_of_forwarded (frames : List Bytes) :
    ((forwardedFrames frames).map List.length).sum =
      (((forwardedFrames frames).map utunPacket).map (·.length + 10)).sum := by
  rw [List.map_map]
  exact congrArg List.sum
    (List.map_congr_left fun frame member => length_of_forwarded member)

section Step

variable {config : RxConfig} {s next : UsbState} {event : UsbEvent}

/-- What a step adds to the two streams and to the counters of what was
received. -/
structure Adds (config : RxConfig) (event : UsbEvent) (before after : RxState)
    (sent : List Bytes) : Prop where
  writes : utunWrites after.calls = utunWrites before.calls ++
    (forwardedFrames (event.received config)).map utunPacket
  out : outMessages after.calls = outMessages before.calls ++ sent
  sentBy : SentBy config event sent
  rxPkts : after.rxPkts = before.rxPkts +
    UInt64.ofNat (forwardedFrames (event.received config)).length
  rxBytes : after.rxBytes = before.rxBytes + UInt64.ofNat
    ((forwardedFrames (event.received config)).map List.length).sum

theorem Adds.of_calls {before after : RxState} {sent : List Bytes}
    {calls : List RxCall} (callsEq : after.calls = before.calls ++ calls)
    (nothing : utunWrites calls = []) (outEq : outMessages calls = sent)
    (sentBy : SentBy config event sent) (none : event.received config = [])
    (pktsEq : after.rxPkts = before.rxPkts)
    (bytesEq : after.rxBytes = before.rxBytes) :
    Adds config event before after sent where
  writes := by rw [callsEq, utunWrites_append, nothing, none]; rfl
  out := by rw [callsEq, outMessages_append, outEq]
  sentBy := sentBy
  rxPkts := by
    rw [none, pktsEq]
    exact (UInt64.add_zero _).symm
  rxBytes := by
    rw [none, bytesEq]
    exact (UInt64.add_zero _).symm

theorem adds_of_processed {comp : Completion} {before after : RxState}
    {ok : Bool}
    (processed : processRxCompletion config comp before = .ok (ok, after)) :
    ∃ sent, Adds config (.completed comp) before after sent := by
  cases failed : comp.failed with
  | true =>
      rw [processRxCompletion, if_pos failed] at processed
      cases processed
      have none : comp.processed config = [] := by
        rw [Completion.processed, if_pos failed]
      refine ⟨[], .of_calls (List.append_nil _).symm rfl rfl ⟨[], rfl, ?_⟩ none
        rfl rfl⟩
      rw [none]
      exact .nil
  | false =>
      have received := received_of_processed failed processed
      obtain ⟨replies, writes, out, right⟩ := received.streams
      have whole : comp.frames config.build = comp.processed config := by
        rw [Completion.processed, if_neg (by simp [failed])]
      rw [whole] at received writes right
      exact ⟨replies.map arpMessage,
        { writes := writes
          out := out
          sentBy := ⟨replies, rfl, right⟩
          rxPkts := received.rxPkts
          rxBytes := received.rxBytes }⟩

/-- What a step that does not end in a panic adds. -/
theorem UsbStep.adds (taken : UsbStep config s event next)
    (alive : next.pc ≠ .panicked) :
    s.pc ≠ .panicked ∧ ∃ sent, Adds config event s.io next.io sent := by
  have same {state after : RxState} (eq : after.calls = state.calls) :
      after.calls = state.calls ++ [] := by
    rw [eq, List.append_nil]
  cases taken with
  | submitIn atPc =>
      exact ⟨by simp [atPc], [], .of_calls rfl rfl rfl rfl rfl rfl rfl⟩
  | primed atPc | refillEmpty atPc | refillFull atPc | loop atPc
  | loopEnds atPc | drain atPc | drained atPc | gone atPc | present atPc
  | drainOut atPc | outIdle atPc | completeOut atPc | nothingOut atPc
  | replaceEmpty atPc =>
      exact ⟨by simp [atPc], [],
        .of_calls (same rfl) rfl rfl rfl rfl rfl rfl⟩
  | nothingIn atPc =>
      exact ⟨by rcases atPc with atPc | atPc <;> simp [atPc], [],
        .of_calls (same rfl) rfl rfl rfl rfl rfl rfl⟩
  | @refill message rest atPc | @replace message rest atPc =>
      exact ⟨by simp [atPc], [message],
        .of_calls rfl rfl rfl rfl rfl rfl rfl⟩
  | complete comp atPc pending processed =>
      obtain ⟨sent, adds⟩ := adds_of_processed processed
      exact ⟨by rcases atPc with atPc | atPc <;> simp [atPc], sent,
        ⟨adds.writes, adds.out, adds.sentBy, adds.rxPkts, adds.rxBytes⟩⟩
  | crash | waitPanics | outWaitPanics => exact absurd rfl alive
  | accept | refuse | stop =>
      exact ⟨alive, [], .of_calls (same rfl) rfl rfl rfl rfl rfl rfl⟩

end Step

/-- What both streams and the counters hold after a run. -/
structure Streams (config : RxConfig) (trace : List UsbEvent) (s : UsbState) :
    Prop where
  writes : utunWrites s.io.calls =
    (forwardedFrames (receivedFrames config trace)).map utunPacket
  sent : ∃ groups, outMessages s.io.calls = groups.flatten ∧
    List.Forall₂ (SentBy config) trace groups
  rxPkts : s.io.rxPkts =
    UInt64.ofNat (forwardedFrames (receivedFrames config trace)).length
  rxBytes : s.io.rxBytes = UInt64.ofNat
    ((forwardedFrames (receivedFrames config trace)).map List.length).sum

namespace Streams

variable {config : RxConfig} {trace : List UsbEvent} {s : UsbState}

theorem initial : Streams config [] .initial where
  writes := rfl
  sent := ⟨[], rfl, .nil⟩
  rxPkts := rfl
  rxBytes := rfl

theorem step {next : UsbState} {event : UsbEvent} {sent : List Bytes}
    (streams : Streams config trace s)
    (adds : Adds config event s.io next.io sent) :
    Streams config (trace ++ [event]) next := by
  have frames : receivedFrames config (trace ++ [event]) =
      receivedFrames config trace ++ event.received config := by
    rw [receivedFrames_append]
    exact congrArg (receivedFrames config trace ++ ·)
      (List.flatMap_singleton _ _)
  have forwarded : forwardedFrames (receivedFrames config (trace ++ [event])) =
      forwardedFrames (receivedFrames config trace) ++
        forwardedFrames (event.received config) := by
    rw [frames, forwardedFrames, List.filter_append]
    rfl
  obtain ⟨groups, outEq, each⟩ := streams.sent
  refine ⟨?_, ⟨groups ++ [sent], ?_, ?_⟩, ?_, ?_⟩
  · rw [adds.writes, streams.writes, forwarded, List.map_append]
  · rw [adds.out, outEq, List.flatten_append, List.flatten_singleton]
  · exact List.rel_append each (.cons adds.sentBy .nil)
  · rw [adds.rxPkts, streams.rxPkts, forwarded, List.length_append,
      UInt64.ofNat_add]
  · rw [adds.rxBytes, streams.rxBytes, forwarded, List.map_append,
      List.sum_append, UInt64.ofNat_add]

theorem of_run (run : Run (UsbStep config) .initial trace s)
    (alive : s.pc ≠ .panicked) : Streams config trace s := by
  induction run with
  | nil => exact initial
  | snoc run taken ih =>
      obtain ⟨before, sent, adds⟩ := taken.adds alive
      exact (ih before).step adds

end Streams

section Outgoing

variable {config : RxConfig}

/-- What an event sends, measured: its channel message, and as much for each
request. -/
theorem SentBy.sum_eq {event : UsbEvent} {sent : List Bytes}
    (sentBy : SentBy config event sent) (measure : Bytes → Nat) {cost : Nat}
    (ofReply : ∀ reply : Bytes, reply.length = 42 →
      measure (arpMessage reply) = cost) :
    (sent.map measure).sum = ((submittedMessages [event]).map measure).sum +
      cost * (requestFrames config (event.received config)).length := by
  cases event with
  | submitted message =>
      cases sentBy
      simp [submittedMessages, UsbEvent.received, requestFrames]
  | completed comp =>
      obtain ⟨replies, rfl, right⟩ := sentBy
      have lengths := lengths_of_replies right
      have costs : (replies.map arpMessage).map measure =
          replies.map fun _ => cost := by
        rw [List.map_map]
        exact List.map_congr_left fun reply member =>
          ofReply reply (lengths reply member)
      rw [costs, List.map_const', List.sum_replicate_nat,
        UsbEvent.received, right.length_eq, Nat.mul_comm]
      exact (Nat.zero_add _).symm
  | tau | crashed | accepted | refused | declaredGone =>
      cases sentBy
      simp [submittedMessages, UsbEvent.received, requestFrames]

theorem sum_of_sentBy {trace : List UsbEvent} {groups : List (List Bytes)}
    (each : List.Forall₂ (SentBy config) trace groups)
    (measure : Bytes → Nat) {cost : Nat}
    (ofReply : ∀ reply : Bytes, reply.length = 42 →
      measure (arpMessage reply) = cost) :
    (groups.flatten.map measure).sum =
      ((submittedMessages trace).map measure).sum +
        cost * (requestFrames config (receivedFrames config trace)).length := by
  induction each with
  | nil => rfl
  | @cons event sent trace groups sentBy _ ih =>
      have submitted : submittedMessages (event :: trace) =
          submittedMessages [event] ++ submittedMessages trace :=
        @List.filterMap_append _ _ [event] trace _
      have requests : requestFrames config
          (receivedFrames config (event :: trace)) =
            requestFrames config (event.received config) ++
              requestFrames config (receivedFrames config trace) := by
        rw [receivedFrames, List.flatMap_cons, requestFrames,
          List.filter_append]
        rfl
      rw [List.flatten_cons, List.map_append, List.sum_append, ih,
        sentBy.sum_eq measure ofReply, submitted, requests, List.map_append,
        List.sum_append, List.length_append]
      ring

end Outgoing

/-- The streams of a run, and the counters as functions of the streams. -/
structure IoAccounted (config : RxConfig) (trace : List UsbEvent)
    (s : UsbState) : Prop where
  /-- The utun gets the packet of every IP frame, once and in order. -/
  writes : utunWrites s.io.calls =
    (forwardedFrames (receivedFrames config trace)).map utunPacket
  /-- The OUT endpoint gets what each event sends, in the order of the
  events. -/
  sent : ∃ groups, outMessages s.io.calls = groups.flatten ∧
    List.Forall₂ (SentBy config) trace groups
  rxPkts : s.io.rxPkts = UInt64.ofNat (utunWrites s.io.calls).length
  /-- Bytes are counted with the Ethernet header and without the family. -/
  rxBytes : s.io.rxBytes =
    UInt64.ofNat ((utunWrites s.io.calls).map (·.length + 10)).sum
  /-- Replies go out uncounted. -/
  txPkts : s.txPkts + UInt64.ofNat
      (requestFrames config (receivedFrames config trace)).length =
    UInt64.ofNat (outMessages s.io.calls).length
  txBytes : s.txBytes + UInt64.ofNat (86 *
      (requestFrames config (receivedFrames config trace)).length) =
    UInt64.ofNat ((outMessages s.io.calls).map List.length).sum

/-- In every run the streams and the counters follow from the events. -/
theorem ioAccounted {config : RxConfig} {trace : List UsbEvent} {s : UsbState}
    (run : Run (UsbStep config) .initial trace s) (alive : s.pc ≠ .panicked) :
    IoAccounted config trace s := by
  have streams := Streams.of_run run alive
  have account : TxAccounted trace s :=
    run.history .initial fun account taken => account.step taken
  obtain ⟨groups, outEq, each⟩ := streams.sent
  have counted := sum_of_sentBy each (fun _ => 1) fun _ _ => rfl
  have measured := sum_of_sentBy each List.length fun reply length => by
    rw [arpMessage, List.length_append, dataPacketHeader_length, length]
  simp only [List.map_const', List.sum_replicate_nat, Nat.mul_one, Nat.one_mul]
    at counted
  refine
    { writes := streams.writes
      sent := ⟨groups, outEq, each⟩
      rxPkts := ?_
      rxBytes := ?_
      txPkts := ?_
      txBytes := ?_ }
  · rw [streams.writes, List.length_map]
    exact streams.rxPkts
  · rw [streams.writes, ← sum_of_forwarded]
    exact streams.rxBytes
  · rw [outEq, counted, UInt64.ofNat_add, account.txPkts]
  · rw [outEq, measured, UInt64.ofNat_add, account.txBytes]

/-- A request comes in, and its reply is all that goes out. -/
theorem oneRequest_ioAccounted :
    ∃ trace s reply, IoAccounted neighbourConfig trace s ∧
      outMessages s.io.calls = [arpMessage reply] ∧
      utunWrites s.io.calls = [] := by
  let comp := requestCompletion neighbourConfig .broadcast 0xC0A82A81 1
  obtain ⟨after, processed, received⟩ := @processRxCompletion_of_decodes
    neighbourConfig comp rfl (requestCompletion_decodes neighbourConfig
      .broadcast 0xC0A82A81 1) UsbState.primed.takeIn
  have completed := UsbStep.complete (s := { UsbState.primed with
    pc := .waiting }) comp (.inl rfl) (show 0 < numRxBufs by decide) processed
  have run := ((run_primed neighbourConfig).snoc (.loop rfl rfl)).snoc
    completed
  have accounted := ioAccounted run (by simp)
  obtain ⟨replies, calls, right⟩ := received.calls
  have frames : comp.frames neighbourConfig.build =
      [Arp.request .broadcast 0xC0A82A81 neighbourConfig.ourIp] :=
    requestCompletion_handed neighbourConfig .broadcast 0xC0A82A81 1
  have isRequest := Arp.request_isRequest .broadcast 0xC0A82A81
    neighbourConfig.ourIp
  have notCarries : ¬ CarriesIp utunBufSize
      (Arp.request .broadcast 0xC0A82A81 neighbourConfig.ourIp) :=
    fun carries => request_not_forwarded isRequest
      ⟨carries.2.1, by rw [Arp.request_length]; decide⟩
  have notForwarded : forwardedFrames (comp.frames neighbourConfig.build) =
      [] := by
    rw [frames, forwardedFrames]
    simp only [List.filter_cons, List.filter_nil, notCarries, decide_false,
      Bool.false_eq_true, if_false]
  rw [frames, requestFrames] at right
  simp only [List.filter_cons, List.filter_nil, isRequest, decide_true,
    if_true] at right
  rw [notForwarded] at calls
  cases right with
  | cons isReply none =>
      cases none
      exact ⟨_, _, _, accounted, by rw [calls]; rfl, by rw [calls]; rfl⟩

end AndroidTether
