import AndroidTether.UsbIo

/-!
# OUT transfers

How many OUT transfers the I/O thread keeps pending, and what it does with
the TX channel.  The two places that take messages from the channel watch the
limit; the replies to ARP requests are submitted without looking at it.
-/

namespace AndroidTether

/-- The condition on a step: the replies to a completion find room. -/
def UsbState.Roomy (config : RxConfig) (s : UsbState) : UsbEvent → Prop
  | .completed comp => s.io.outPending + comp.replies config ≤ maxOutUrbs
  | .tau | .crashed _ | .submitted _ | .accepted _ | .refused _
  | .declaredGone => True

/-- The limit holds, and a message that replaces a finished transfer finds
its place. -/
def UsbState.WithinLimit (s : UsbState) : Prop :=
  s.io.outPending ≤ maxOutUrbs ∧
    (s.pc = .outTake → s.io.outPending < maxOutUrbs)

/-- The handling of a completion adds its replies. -/
theorem UsbStep.outPending_completed {config : RxConfig} {s next : UsbState}
    {comp : Completion} (taken : UsbStep config s (.completed comp) next) :
    next.io.outPending = s.io.outPending + comp.replies config ∧
      next.pc = .drainTest := by
  cases taken with
  | complete comp atPc pending processed =>
      rcases processRxCompletion_cases config comp s.takeIn with
        ⟨panic, panics⟩ | ⟨after, handled, -, outPending⟩
      · rw [panics] at processed
        cases processed
      · rw [handled] at processed
        cases processed
        exact ⟨outPending, rfl⟩

theorem UsbState.WithinLimit.step {config : RxConfig} {s next : UsbState}
    {event : UsbEvent} (within : s.WithinLimit)
    (roomy : s.Roomy config event) (taken : UsbStep config s event next) :
    next.WithinLimit := by
  obtain ⟨bounded, replacing⟩ := within
  cases taken with
  | submitIn | primed | refillEmpty | refillFull | loop | loopEnds | crash
  | nothingIn | waitPanics | drain | drained | gone | present | drainOut
  | outIdle | nothingOut | outWaitPanics | replaceEmpty =>
      exact ⟨bounded, by simp [UsbState.leave]⟩
  | refill atPc room =>
      exact ⟨room, by simp [UsbState.submitNext, atPc]⟩
  | complete comp atPc pending processed =>
      obtain ⟨total, nextPc⟩ :=
        (UsbStep.complete comp atPc pending processed).outPending_completed
      exact ⟨total.trans_le roomy, fun atTake => by simp at atTake⟩
  | completeOut atPc pending =>
      have less : s.io.outPending - 1 < maxOutUrbs := by omega
      exact ⟨less.le, fun _ => less⟩
  | replace atPc => exact ⟨replacing atPc, by simp⟩
  | accept | refuse | stop => exact ⟨bounded, replacing⟩

theorem withinLimit_of_run {config : RxConfig} {s : UsbState}
    {history : List (Taken UsbState UsbEvent)}
    (run : Run (Recorded (UsbStep config)) .initial history s)
    (roomy : ∀ taken ∈ history, taken.before.Roomy config taken.label) :
    s.WithinLimit ∧ ∀ taken ∈ history, taken.after.WithinLimit := by
  induction run with
  | nil =>
      exact ⟨⟨Nat.zero_le _, by simp [UsbState.initial]⟩,
        fun taken member => absurd member List.not_mem_nil⟩
  | snoc run recorded ih =>
      obtain ⟨before, earlier⟩ := ih fun taken member =>
        roomy taken (List.mem_append_left _ member)
      obtain ⟨isStep⟩ := recorded
      have last := roomy _ (List.mem_append_right _ (List.mem_singleton_self _))
      have after := before.step last isStep
      refine ⟨after, List.forall_mem_append.mpr ⟨earlier, ?_⟩⟩
      exact List.forall_mem_singleton.mpr after

/-- No more than `MAX_OUT_URBS` OUT transfers are pending throughout a run if
and only if every completion finds room for the replies it causes. -/
theorem outPending_bounded_iff {config : RxConfig} {s : UsbState}
    {history : List (Taken UsbState UsbEvent)}
    (run : Run (Recorded (UsbStep config)) .initial history s) :
    (∀ taken ∈ history, taken.after.io.outPending ≤ maxOutUrbs) ↔
      ∀ taken ∈ history, taken.before.Roomy config taken.label := by
  constructor
  · intro bounded taken member
    have isStep := Recorded.step_of_mem run member
    have after := bounded taken member
    cases label : taken.label with
    | completed comp =>
        rw [label] at isStep
        rw [isStep.outPending_completed.1] at after
        exact after
    | tau | crashed | submitted | accepted | refused | declaredGone =>
        trivial
  · intro roomy taken member
    exact ((withinLimit_of_run run roomy).2 taken member).1

theorem primed_outPending :
    ∃ history, Run (Recorded (UsbStep neighbourConfig)) .initial history
        .primed ∧
      ∀ taken ∈ history, taken.after.io.outPending ≤ maxOutUrbs := by
  obtain ⟨history, run, labels⟩ := Recorded.of_run (run_primed neighbourConfig)
  refine ⟨history, run, (outPending_bounded_iff run).mpr ?_⟩
  intro taken member
  have quiet : taken.label = .tau := by
    have isLabel := List.mem_map_of_mem (f := Taken.label) member
    rw [labels] at isLabel
    rcases List.mem_append.mp isLabel with earlier | isLast
    · rcases List.mem_append.mp earlier with earlier | isLast
      · exact List.eq_of_mem_replicate earlier
      · exact List.mem_singleton.mp isLast
    · exact List.mem_singleton.mp isLast
  rw [quiet]
  trivial

/-- Never more than `MAX_OUT_URBS` OUT transfers are pending. -/
def OutBounded (config : RxConfig) : Prop :=
  ∀ trace s, Run (UsbStep config) .initial trace s →
    s.io.outPending ≤ maxOutUrbs

/-- A single completion with 33 requests for our address exceeds the limit. -/
theorem not_outBounded : ¬ OutBounded neighbourConfig := by
  intro bounded
  let comp := requestCompletion neighbourConfig .broadcast 0xC0A82A81 33
  obtain ⟨after, processed, -⟩ := @processRxCompletion_of_decodes
    neighbourConfig comp rfl (requestCompletion_decodes neighbourConfig
      .broadcast 0xC0A82A81 33) UsbState.primed.takeIn
  have completed := UsbStep.complete (s := { UsbState.primed with
    pc := .waiting }) comp (.inl rfl) (show 0 < numRxBufs by decide) processed
  have run := ((run_primed neighbourConfig).snoc (.loop rfl rfl)).snoc
    completed
  have exceeded := completed.outPending_completed.1
  rw [requestCompletion_replies] at exceeded
  have within := bounded _ _ run
  rw [exceeded] at within
  exact absurd within (by decide)

/-- The messages that the TX channel has accepted. -/
def acceptedMessages (trace : List UsbEvent) : List Bytes :=
  trace.filterMap fun
    | .accepted message => some message
    | .tau | .completed _ | .crashed _ | .submitted _ | .refused _
    | .declaredGone => none

/-- The messages that went from the TX channel to the OUT endpoint. -/
def submittedMessages (trace : List UsbEvent) : List Bytes :=
  trace.filterMap fun
    | .submitted message => some message
    | .tau | .completed _ | .crashed _ | .accepted _ | .refused _
    | .declaredGone => none

/-- The handling of a completion submits replies and nothing else. -/
theorem outMessages_of_processed {config : RxConfig} {comp : Completion}
    {before after : RxState} {ok : Bool}
    (processed : processRxCompletion config comp before = .ok (ok, after)) :
    ∃ replies : List Bytes, outMessages after.calls =
      outMessages before.calls ++ replies.map arpMessage := by
  cases failed : comp.failed with
  | true =>
      rw [processRxCompletion, if_pos failed] at processed
      cases processed
      exact ⟨[], (List.append_nil _).symm⟩
  | false =>
      obtain ⟨replies, -, out, -⟩ :=
        (received_of_processed failed processed).streams
      exact ⟨replies, out⟩

/-- What an event puts on the OUT endpoint: the message that went there from
the TX channel, or replies to ARP requests. -/
def UsbEvent.Submits (event : UsbEvent) (sent : List Bytes) : Prop :=
  match event with
  | .submitted message => sent = [message]
  | .completed _ => ∃ replies : List Bytes, sent = replies.map arpMessage
  | .tau | .crashed _ | .accepted _ | .refused _ | .declaredGone => sent = []

/-- The messages between the two ends of the TX channel. -/
structure TxAccounted (trace : List UsbEvent) (s : UsbState) : Prop where
  /-- What has been accepted is submitted or still waits, in order. -/
  conserved : s.pc.Serving →
    acceptedMessages trace = submittedMessages trace ++ s.queue
  isPrefix : submittedMessages trace <+: acceptedMessages trace
  /-- The endpoint got each message where it was submitted and just once, and
  nothing else but replies. -/
  onEndpoint : ∃ groups, outMessages s.io.calls = groups.flatten ∧
    List.Forall₂ UsbEvent.Submits trace groups
  txPkts : s.txPkts = UInt64.ofNat (submittedMessages trace).length
  txBytes : s.txBytes =
    UInt64.ofNat ((submittedMessages trace).map List.length).sum

namespace TxAccounted

variable {config : RxConfig} {trace : List UsbEvent} {s next : UsbState}
  {event : UsbEvent}

theorem initial : TxAccounted [] .initial where
  conserved _ := rfl
  isPrefix := List.prefix_rfl
  onEndpoint := ⟨[], rfl, .nil⟩
  txPkts := rfl
  txBytes := rfl

theorem onEndpoint_concat (account : TxAccounted trace s) {sent : List Bytes}
    (added : outMessages next.io.calls = outMessages s.io.calls ++ sent)
    (submits : event.Submits sent) :
    ∃ groups, outMessages next.io.calls = groups.flatten ∧
      List.Forall₂ UsbEvent.Submits (trace ++ [event]) groups := by
  obtain ⟨groups, outEq, each⟩ := account.onEndpoint
  refine ⟨groups ++ [sent], ?_, List.rel_append each (.cons submits .nil)⟩
  rw [added, outEq, List.flatten_append, List.flatten_singleton]

theorem quiet (account : TxAccounted trace s)
    (noAccept : acceptedMessages [event] = [])
    (noSubmit : submittedMessages [event] = [])
    (sent : ∃ sent, outMessages next.io.calls =
      outMessages s.io.calls ++ sent ∧ event.Submits sent)
    (stays : next.pc.Serving → s.pc.Serving ∧ next.queue = s.queue)
    (pktsEq : next.txPkts = s.txPkts) (bytesEq : next.txBytes = s.txBytes) :
    TxAccounted (trace ++ [event]) next := by
  have acceptedEq : acceptedMessages (trace ++ [event]) =
      acceptedMessages trace := by
    rw [acceptedMessages, List.filterMap_append]
    exact (congrArg _ noAccept).trans (List.append_nil _)
  have submittedEq : submittedMessages (trace ++ [event]) =
      submittedMessages trace := by
    rw [submittedMessages, List.filterMap_append]
    exact (congrArg _ noSubmit).trans (List.append_nil _)
  constructor
  · intro serving
    obtain ⟨servingBefore, queueEq⟩ := stays serving
    rw [acceptedEq, submittedEq, queueEq]
    exact account.conserved servingBefore
  · rw [acceptedEq, submittedEq]
    exact account.isPrefix
  · obtain ⟨sent, added, submits⟩ := sent
    exact account.onEndpoint_concat added submits
  · rw [submittedEq, pktsEq]
    exact account.txPkts
  · rw [submittedEq, bytesEq]
    exact account.txBytes

/-- A message is taken from the channel at either place. -/
theorem submit {message : Bytes} {rest : List Bytes} {pc : UsbPc}
    (account : TxAccounted trace s) (serving : s.pc.Serving)
    (first : s.queue = message :: rest) :
    TxAccounted (trace ++ [.submitted message])
      { s.submitNext message rest with pc := pc } := by
  have acceptedEq : acceptedMessages (trace ++ [.submitted message]) =
      acceptedMessages trace := by
    simp [acceptedMessages]
  have submittedEq : submittedMessages (trace ++ [.submitted message]) =
      submittedMessages trace ++ [message] := by
    simp [submittedMessages]
  have conserved := account.conserved serving
  rw [first] at conserved
  have whole : acceptedMessages (trace ++ [.submitted message]) =
      submittedMessages (trace ++ [.submitted message]) ++ rest := by
    rw [acceptedEq, submittedEq, conserved, List.append_assoc]
    rfl
  constructor
  · exact fun _ => whole
  · exact ⟨rest, whole.symm⟩
  · have added : outMessages (s.io.submitOut message).calls =
        outMessages s.io.calls ++ [message] :=
      (outMessages_append _ _).trans
        (congrArg _ (streams_submitOut message).2)
    exact account.onEndpoint_concat added rfl
  · simp only [UsbState.submitNext]
    rw [submittedEq, account.txPkts, List.length_append, UInt64.ofNat_add]
    rfl
  · simp only [UsbState.submitNext]
    rw [submittedEq, account.txBytes, List.map_append, List.sum_append,
      UInt64.ofNat_add]
    simp

theorem step (account : TxAccounted trace s)
    (taken : UsbStep config s event next) :
    TxAccounted (trace ++ [event]) next := by
  have nothing {after : RxState}
      (same : outMessages after.calls = outMessages s.io.calls) :
      outMessages after.calls = outMessages s.io.calls ++ [] := by
    rw [same, List.append_nil]
  cases taken with
  | submitIn atPc =>
      have serving : s.pc.Serving := by simp [UsbPc.Serving, atPc]
      have same : outMessages s.io.submitIn.calls =
          outMessages s.io.calls ++ [] :=
        (outMessages_append _ _).trans (congrArg _ streams_submitIn.2)
      exact account.quiet rfl rfl ⟨[], same, rfl⟩ (fun _ => ⟨serving, rfl⟩)
        rfl rfl
  | primed atPc | refillEmpty atPc | refillFull atPc | loop atPc | drain atPc
  | drained atPc | present atPc | drainOut atPc | outIdle atPc
  | completeOut atPc | nothingOut atPc | replaceEmpty atPc =>
      have serving : s.pc.Serving := by simp [UsbPc.Serving, atPc]
      exact account.quiet rfl rfl ⟨[], nothing rfl, rfl⟩
        (fun _ => ⟨serving, rfl⟩) rfl rfl
  | nothingIn atPc =>
      have serving : s.pc.Serving := by
        rcases atPc with atPc | atPc <;> simp [UsbPc.Serving, atPc]
      exact account.quiet rfl rfl ⟨[], nothing rfl, rfl⟩
        (fun _ => ⟨serving, rfl⟩) rfl rfl
  | complete comp atPc pending processed =>
      have serving : s.pc.Serving := by
        rcases atPc with atPc | atPc <;> simp [UsbPc.Serving, atPc]
      obtain ⟨replies, added⟩ := outMessages_of_processed processed
      exact account.quiet rfl rfl ⟨_, added, replies, rfl⟩
        (fun _ => ⟨serving, rfl⟩) rfl rfl
  | loopEnds | crash | waitPanics | gone | outWaitPanics =>
      exact account.quiet rfl rfl ⟨[], nothing rfl, rfl⟩
        (fun serving => by simp [UsbPc.Serving, UsbState.leave] at serving)
        rfl rfl
  | refill atPc room first =>
      have serving : s.pc.Serving := by simp [UsbPc.Serving, atPc]
      exact account.submit serving first
  | replace atPc first =>
      have serving : s.pc.Serving := by simp [UsbPc.Serving, atPc]
      exact account.submit serving first
  | accept message serving =>
      have acceptedEq : acceptedMessages (trace ++ [.accepted message]) =
          acceptedMessages trace ++ [message] := by
        simp [acceptedMessages]
      have submittedEq : submittedMessages (trace ++ [.accepted message]) =
          submittedMessages trace := by
        simp [submittedMessages]
      constructor
      · intro _
        rw [acceptedEq, submittedEq, account.conserved serving,
          List.append_assoc]
      · rw [acceptedEq, submittedEq]
        exact account.isPrefix.trans (List.prefix_append _ _)
      · exact account.onEndpoint_concat (nothing rfl) rfl
      · rw [submittedEq]
        exact account.txPkts
      · rw [submittedEq]
        exact account.txBytes
  | refuse | stop =>
      exact account.quiet rfl rfl ⟨[], nothing rfl, rfl⟩
        (fun serving => ⟨serving, rfl⟩) rfl rfl

end TxAccounted

/-- In every run the messages submitted are a prefix of those accepted, and
the counters describe that prefix. -/
theorem txAccounted {config : RxConfig} {trace : List UsbEvent}
    {s : UsbState} (run : Run (UsbStep config) .initial trace s) :
    TxAccounted trace s :=
  run.history .initial fun account taken => account.step taken

theorem twoMessages_accounted :
    ∃ trace s, TxAccounted trace s ∧
      acceptedMessages trace = [[1], [2, 3]] ∧
      submittedMessages trace = [[1]] ∧ outMessages s.io.calls = [[1]] ∧
      s.txBytes = 1 := by
  have ready := run_priming neighbourConfig (Nat.add_zero numRxBufs)
  have refilling := ready.snoc (.primed rfl)
  have first := refilling.snoc
    (.accept [1] (by simp [UsbPc.Serving]) (show 0 < txCapacity by decide))
  have second := first.snoc
    (.accept [2, 3] (by simp [UsbPc.Serving]) (show 1 < txCapacity by decide))
  have sent := second.snoc
    (.refill rfl (show 0 < maxOutUrbs by decide) rfl)
  refine ⟨_, _, txAccounted sent, rfl, rfl, rfl, rfl⟩

end AndroidTether
