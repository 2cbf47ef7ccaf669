import AndroidTether.DhcpFrames
import AndroidTether.RndisReference

/-!
# Which received frames a run of the DHCP client survives

Every frame that a run of `discover` hands to a callback is listed as a call.
The run is safe when all of them are, and in a release build it panics exactly
when one of them does.
-/

namespace AndroidTether

open ByteWords Checked

/-- A frame handed to a callback, with the state it finds. -/
structure Call (σ : Type) where
  transfer : Transfer
  state : σ
  frame : Slice UInt8

/-- The calls of a callback during one transfer. -/
def transferCalls {σ : Type} (build : Build)
    (callback : Transfer → σ → Slice UInt8 → Checked (Handled σ))
    (transfer : Transfer) (state : σ) : List (Call σ) :=
  (calls (fun state frame =>
      (callback transfer state frame).map Handled.state) state
    (handedFrames build transfer.data)).map
      fun call => ⟨transfer, call.1, call.2⟩

/-- The calls of `process_frame` in the loop that waits for an OFFER. -/
def offerCalls (build : Build) (exchange : Exchange) :
    Nat → Nat → OfferState → List (Call OfferState)
  | 0, _, _ => []
  | attempts + 1, received, state =>
      match exchange.receive received with
      | .error _ => []
      | .ok transfer =>
          if transfer.data.length = 0 then
            offerCalls build exchange attempts (received + 1) state
          else
            transferCalls build processFrame transfer state ++
              match forEachFrame build processFrame transfer state with
              | .error _ => []
              | .ok after =>
                  if after.offeredAddr.isSome then []
                  else offerCalls build exchange attempts (received + 1) after

/-- The calls of `process_ack` in the loop that waits for an ACK. -/
def ackCalls (build : Build) (exchange : Exchange) :
    Nat → Nat → List (Call AckState)
  | 0, _ => []
  | attempts + 1, received =>
      match exchange.receive received with
      | .error _ => []
      | .ok transfer =>
          if transfer.data.length = 0 then
            ackCalls build exchange attempts (received + 1)
          else
            transferCalls build processAck transfer ⟨false, none⟩ ++
              match forEachFrame build processAck transfer ⟨false, none⟩ with
              | .error _ => []
              | .ok after =>
                  if after.resultLease.isSome then []
                  else ackCalls build exchange attempts (received + 1)

/-- The calls of `process_frame` in a run of `discover`. -/
def offerPhaseCalls (build : Build) (exchange : Exchange) :
    List (Call OfferState) :=
  match exchange.send 0 with
  | .error _ => []
  | .ok _ => offerCalls build exchange 50 0 .initial

/-- The calls of `process_ack` in a run of `discover`. -/
def ackPhaseCalls (build : Build) (mac : MacAddr) (exchange : Exchange) :
    List (Call AckState) :=
  match requestPhase build mac exchange with
  | .ok (.ok request) =>
      match exchange.send 1 with
      | .error _ => []
      | .ok _ => ackCalls build exchange 50 request.calls
  | _ => []

/-- No callback of the run panics or reads outside its frame. -/
def HandlesSafely (build : Build) (mac : MacAddr) (exchange : Exchange) :
    Prop :=
  (∀ call ∈ offerPhaseCalls build exchange,
    HandledSafely (processFrame call.transfer call.state call.frame)) ∧
  ∀ call ∈ ackPhaseCalls build mac exchange,
    HandledSafely (processAck call.transfer call.state call.frame)

/-- A run of `discover` is safe exactly when every frame handed to a callback
that looks at it has its header inside and, in the OFFER phase, does not end
in a cut-off message type or server identifier. -/
theorem handlesSafely_iff (build : Build) (mac : MacAddr)
    (exchange : Exchange) :
    HandlesSafely build mac exchange ↔
      (∀ call ∈ offerPhaseCalls build exchange,
        OfferInBounds call.frame.content) ∧
      ∀ call ∈ ackPhaseCalls build mac exchange,
        call.state.found = false → AckInBounds call.frame.content := by
  constructor
  · rintro ⟨offers, acks⟩
    refine ⟨fun call member => ?_, fun call member => ?_⟩
    · exact (processFrame_safe_iff _ call.state _).mp (offers call member)
    · exact (processAck_safe_iff call.transfer _ _).mp (acks call member)
  · rintro ⟨offers, acks⟩
    refine ⟨fun call member => ?_, fun call member => ?_⟩
    · exact (processFrame_safe_iff _ _ _).mpr (offers call member)
    · exact (processAck_safe_iff _ _ _).mpr (acks call member)

/-- One transfer without a panic of the iterator: it ends well exactly when
all its calls do. -/
theorem forEachFrame_release_ok_iff {σ : Type}
    {callback : Transfer → σ → Slice UInt8 → Checked (Handled σ)}
    {transfer : Transfer} {state : σ} :
    (∃ after, forEachFrame .release callback transfer state = .ok after) ↔
      ∀ call ∈ transferCalls .release callback transfer state,
        ∃ after, callback call.transfer call.state call.frame = .ok after := by
  have decodes : ∀ message ∈ messages transfer.data, ∃ packet,
      dataPacket .release message = .ok packet :=
    fun message _ => ⟨_, dataPacket_release message⟩
  rw [forEachFrame, forEach_new, foldlM_visit_eq decodes,
    foldlM_ok_iff_calls]
  simp only [transferCalls, List.forall_mem_map, handedFrames, map_ok_iff]

/-- The receive loop panics exactly when one of its calls does. -/
theorem offerLoop_returns_iff (exchange : Exchange)
    (attempts received : Nat) (state : OfferState) :
    Returns (offerLoop .release exchange attempts received state) ↔
      ∀ call ∈ offerCalls .release exchange attempts received state,
        ∃ after, processFrame call.transfer call.state call.frame =
          .ok after := by
  induction attempts generalizing received state with
  | zero => exact ⟨fun _ => List.forall_mem_nil _, fun _ => returns_pure _⟩
  | succ attempts ih =>
      rw [offerLoop, offerCalls]
      cases exchange.receive received with
      | error error =>
          exact ⟨fun _ => List.forall_mem_nil _, fun _ => ⟨_, rfl⟩⟩
      | ok transfer =>
          simp only [orReturn_ok_bind]
          by_cases empty : transfer.data.length = 0
          · rw [if_pos empty, if_pos empty]
            exact ih (received + 1) state
          · rw [if_neg empty, if_neg empty, List.forall_mem_append,
              ← forEachFrame_release_ok_iff]
            cases forEachFrame .release processFrame transfer state with
            | error panic => simp
            | ok after =>
                rw [checked_ok_bind]
                by_cases offered : after.offeredAddr.isSome
                · simp only [offered, if_true]
                  exact ⟨fun _ => ⟨⟨after, rfl⟩, by simp⟩,
                    fun _ => ⟨_, rfl⟩⟩
                · simp only [offered, if_false, Bool.false_eq_true]
                  rw [ih]
                  simp

theorem ackLoop_returns_iff (exchange : Exchange)
    (attempts received : Nat) :
    Returns (ackLoop .release exchange attempts received) ↔
      ∀ call ∈ ackCalls .release exchange attempts received,
        ∃ after, processAck call.transfer call.state call.frame =
          .ok after := by
  induction attempts generalizing received with
  | zero => exact ⟨fun _ => List.forall_mem_nil _, fun _ => ⟨_, rfl⟩⟩
  | succ attempts ih =>
      rw [ackLoop, ackCalls]
      cases exchange.receive received with
      | error error =>
          exact ⟨fun _ => List.forall_mem_nil _, fun _ => ⟨_, rfl⟩⟩
      | ok transfer =>
          simp only [orReturn_ok_bind]
          by_cases empty : transfer.data.length = 0
          · rw [if_pos empty, if_pos empty]
            exact ih (received + 1)
          · rw [if_neg empty, if_neg empty, List.forall_mem_append,
              ← forEachFrame_release_ok_iff]
            cases forEachFrame .release processAck transfer
                ⟨false, none⟩ with
            | error panic => simp
            | ok after =>
                rw [checked_ok_bind]
                cases leaseEq : after.resultLease with
                | some lease =>
                    exact ⟨fun _ => ⟨⟨after, rfl⟩, by simp [leaseEq]⟩,
                      fun _ => ⟨_, rfl⟩⟩
                | none =>
                    simp only [leaseEq]
                    rw [ih]
                    simp

theorem discover_returns_iff (mac : MacAddr) (exchange : Exchange) :
    Returns (discover .release mac exchange) ↔
      (∀ call ∈ offerPhaseCalls .release exchange, ∃ after,
        processFrame call.transfer call.state call.frame = .ok after) ∧
      ∀ call ∈ ackPhaseCalls .release mac exchange, ∃ after,
        processAck call.transfer call.state call.frame = .ok after := by
  unfold discover ackPhaseCalls offerPhaseCalls
  cases sendEq : exchange.send 0 with
  | error error =>
      rw [requestPhase_unsent .release mac sendEq, orReturn_error_bind]
      simp only [returns_orReturn, true_iff]
      exact ⟨List.forall_mem_nil _, List.forall_mem_nil _⟩
  | ok _ =>
      obtain ⟨requestBuf, holds, requestEq⟩ :=
        requestPhase_eq .release mac sendEq
      simp only [requestEq]
      rw [← offerLoop_returns_iff]
      rcases (offerLoop .release exchange 50 0 .initial).cases with
        ⟨panic, looped⟩ | ⟨error, looped⟩ | ⟨⟨state, received⟩, looped⟩
      · simp only [looped, checked_error_bind, not_returns_checked_error,
          false_and]
      · simp only [looped, orReturn_error_bind, returns_orReturn, true_and,
          true_iff]
        exact List.forall_mem_nil _
      · cases offered : state.offeredAddr with
        | none =>
            simp only [looped, orReturn_ok_bind, offered, orReturn_error_bind,
              returns_orReturn, true_and, true_iff]
            exact List.forall_mem_nil _
        | some offeredIp =>
            have lengthEq : 314 ≤ (requestBuf offeredIp
                (state.serverAddr.getD .unspecified)).length := by
              rw [(holds _ _).1]
              decide
            simp only [looped, orReturn_ok_bind, offered, returns_orReturn,
              true_and, pure_bind,
              sendFrame_eq (exchange.send 1) lengthEq (by decide)]
            change _ ↔ ∀ call ∈ match exchange.send 1 with
              | .error _ => []
              | .ok _ => ackCalls .release exchange 50 received, _
            cases exchange.send 1 with
            | error error =>
                simp only [Except.map, orReturn_error_bind, returns_orReturn,
                  true_iff]
                exact List.forall_mem_nil _
            | ok _ =>
                simp only [Except.map, orReturn_ok_bind]
                exact ackLoop_returns_iff exchange 50 received

/-- A reply whose option area is a message type option without its value. -/
def truncatedReply : Bytes :=
  datagramFrame 0x45 (replyMessage 0 [53, 1])

/-- A frame of the minimum length whose header length moves the DHCP message
past its end. -/
def longHeaderFrame : Bytes :=
  datagramFrame 0x4F (List.replicate 32 0 ++ [0, 67, 0, 68] ++
    List.replicate 204 0)

instance {σ : Type} (outcome : Checked (Handled σ)) :
    Decidable (HandledSafely outcome) :=
  match outcome with
  | .error _ => .isFalse fun ⟨_, handled⟩ => nomatch handled
  | .ok ⟨_, true⟩ => .isFalse fun ⟨_, handled⟩ => nomatch handled
  | .ok ⟨state, false⟩ => .isTrue ⟨state, rfl⟩

/-- A truncated option ends the process; a long header length makes the
callback read behind the frame. -/
theorem truncatedReply_not_handlesSafely :
    (¬ HandlesSafely .release .broadcast
        (exchangeOf [truncatedReply] (by decide +kernel)) ∧
      ¬ Returns (discover .release .broadcast
        (exchangeOf [truncatedReply] (by decide +kernel)))) ∧
      ¬ HandlesSafely .release .broadcast
        (exchangeOf [longHeaderFrame] (by decide +kernel)) :=
  ⟨⟨fun safe => absurd safe.1 (by decide +kernel),
      fun returns => absurd ((discover_returns_iff _ _).mp returns).1
        (by decide +kernel)⟩,
    fun safe => absurd safe.1 (by decide +kernel)⟩

end AndroidTether
