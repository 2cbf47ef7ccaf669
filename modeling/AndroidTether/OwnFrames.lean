import AndroidTether.Bridge

/-!
# The frames of this host

What a station can receive from the bridge.  Each message holds one frame, the
frame names the host's own hardware address as its source, and an ARP packet
gives away no other pair of addresses than the host's.
-/

namespace AndroidTether

open ByteWords Checked

/-- A frame that may go out. -/
structure OwnFrame (config : BridgeConfig) (frame : Bytes) : Prop where
  source : (frame.drop 6).take 6 = config.hostMac.bytes
  etherType : beWordAt frame 12 2 = 0x0800 ∨ beWordAt frame 12 2 = 0x86DD ∨
    beWordAt frame 12 2 = 0x0806
  /-- Sender addresses of an ARP packet. -/
  sender : beWordAt frame 12 2 = 0x0806 →
    (frame.drop 22).take 6 = config.hostMac.bytes ∧
      beWordAt frame 28 4 = config.ourIp.toNat
  fits : frame.length ≤ ethBufSize

/-- A message with one such frame and nothing else. -/
def OwnMessage (config : BridgeConfig) (message : Bytes) : Prop :=
  ∃ frame, DecodesTo message frame ∧ OwnFrame config frame ∧
    message.length = 44 + frame.length

section Messages

variable {config : BridgeConfig}

theorem ownMessage_of_frame {frame : Bytes} (nonempty : frame ≠ [])
    (own : OwnFrame config frame) :
    OwnMessage config (dataPacketHeader frame.length ++ frame) := by
  have ethSize : ethBufSize = 2048 := rfl
  have fits := own.fits
  exact ⟨frame, decodesTo_dataPacket nonempty (by omega), own, by simp⟩

theorem ownMessage_reply {request reply : Bytes}
    (isReply : Arp.IsReplyTo config.hostMac config.ourIp request reply) :
    OwnMessage config (arpMessage reply) := by
  have length := isReply.length
  refine ownMessage_of_frame (List.length_pos_iff.mp (by omega)) ?_
  exact
    { source := isReply.source
      etherType := .inr (.inr isReply.etherType)
      sender := fun _ => ⟨isReply.senderMac, isReply.senderIp⟩
      fits := by rw [length]; decide }

theorem ownMessage_broadcast {arp : ArpPacket}
    (mac : arp.senderMac = config.hostMac) (ip : arp.senderIp = config.ourIp) :
    OwnMessage config (arpMessage (Arp.broadcastFrame config.hostMac arp)) := by
  have length := Arp.broadcastFrame_length config.hostMac arp
  have bound := config.ourIp.toNat_lt
  obtain ⟨source, -⟩ := Arp.broadcastFrame_cut config.hostMac arp
  obtain ⟨senderMac, senderIp⟩ :=
    Arp.broadcastFrame_sender config.hostMac arp
  refine ownMessage_of_frame (List.length_pos_iff.mp (by omega)) ?_
  refine
    { source := source
      etherType := .inr (.inr (Arp.broadcastFrame_etherType _ _))
      sender := fun _ => ⟨by rw [senderMac, mac], ?_⟩
      fits := by rw [length]; decide }
  rw [beWordAt_beBytes senderIp, ip]
  exact Nat.mod_eq_of_lt bound

theorem ownMessage_keepalive {message : Bytes}
    (built : Arp.keepaliveMessage config.hostMac config.ourIp =
      .ok (.ok message)) : OwnMessage config message := by
  rw [Arp.keepaliveMessage, Arp.broadcastMessage_eq] at built
  cases built
  exact ownMessage_broadcast rfl rfl

theorem ownMessage_framed {packet message : Bytes}
    (framed : IsFramed config.tx packet message)
    (bounded : message.length ≤ 44 + ethBufSize) :
    OwnMessage config message := by
  obtain ⟨mac, ethertype, long, -, etherTypeEq, rfl⟩ := framed
  have frameLength := framedPacket_length config.tx mac ethertype long
  obtain ⟨typeWord, -⟩ := utunPacket_framedPacket config.tx mac etherTypeEq long
  obtain ⟨-, known⟩ := restoredPacket_eq etherTypeEq long
  rw [List.length_append, dataPacketHeader_length, frameLength] at bounded
  rw [← frameLength]
  refine ownMessage_of_frame (List.length_pos_iff.mp (by omega)) ?_
  refine
    { source := ?_
      etherType := by
        rw [typeWord, ← or_assoc]
        exact .inl known
      sender := fun isArp => ?_
      fits := by omega }
  · rw [framedPacket, EthHdr.bytes, List.append_assoc, List.append_assoc,
      List.drop_left' mac.length_eq]
    exact List.take_left' config.hostMac.length_eq
  · rw [typeWord] at isArp
    rcases known with rfl | rfl <;> cases isArp

end Messages

/-- Every reply answers a request. -/
theorem request_of_reply {mac : MacAddr} {ip : Ipv4Addr}
    {requests replies : List Bytes} {reply : Bytes}
    (right : List.Forall₂ (Arp.IsReplyTo mac ip) requests replies)
    (member : reply ∈ replies) :
    ∃ request, Arp.IsReplyTo mac ip request reply := by
  induction right with
  | nil => cases member
  | cons isReply _ ih =>
      rcases List.mem_cons.mp member with rfl | later
      · exact ⟨_, isReply⟩
      · exact ih later

/-- Where a message on the OUT endpoint or in the channel comes from. -/
theorem UsbStep.origin {config : RxConfig} {s next : UsbState}
    {event : UsbEvent} (taken : UsbStep config s event next)
    (alive : next.pc ≠ .panicked) {message : Bytes}
    (member : message ∈ outMessages next.io.calls ++ next.queue) :
    message ∈ outMessages s.io.calls ++ s.queue ∨ event = .accepted message ∨
      ∃ request reply,
        Arp.IsReplyTo config.hostMac config.ourIp request reply ∧
          message = arpMessage reply := by
  cases taken with
  | primed | refillEmpty | refillFull | loop | nothingIn | drain | drained
  | present | drainOut | outIdle | completeOut | nothingOut | replaceEmpty
  | refuse | stop =>
      exact .inl member
  | submitIn =>
      rw [RxState.submitIn, outMessages_append, streams_submitIn.2,
        List.append_nil] at member
      exact .inl member
  | @refill sent rest _ _ queueEq | @replace sent rest _ queueEq =>
      rw [queueEq]
      simpa [UsbState.submitNext, RxState.submitOut] using Or.inl member
  | complete comp atPc pending processed =>
      obtain ⟨sent, adds⟩ := adds_of_processed processed
      obtain ⟨replies, rfl, right⟩ := adds.sentBy
      have out : outMessages _ = _ := adds.out
      rw [out, List.append_assoc] at member
      rcases List.mem_append.mp member with earlier | later
      · exact .inl (List.mem_append_left _ earlier)
      rcases List.mem_append.mp later with replied | waiting
      · obtain ⟨reply, replyMem, rfl⟩ := List.mem_map.mp replied
        obtain ⟨request, isReply⟩ := request_of_reply right replyMem
        exact .inr (.inr ⟨request, reply, isReply, rfl⟩)
      · exact .inl (List.mem_append_right _ waiting)
  | loopEnds | gone =>
      rw [UsbState.leave, List.append_nil] at member
      exact .inl (List.mem_append_left _ member)
  | accept accepted =>
      rw [← List.append_assoc] at member
      rcases List.mem_append.mp member with earlier | isNew
      · exact .inl earlier
      · obtain rfl := List.mem_singleton.mp isNew
        exact .inr (.inl rfl)
  | crash | waitPanics | outWaitPanics => exact absurd rfl alive

/-- All that the bridge holds or has sent is its own. -/
structure OwnMessages (config : BridgeConfig) (s : BridgeState) : Prop where
  out : ∀ message ∈ outMessages s.usb.io.calls ++ s.usb.queue,
    OwnMessage config message
  pending : ∀ message ∈ s.tx.pending, OwnMessage config message

namespace OwnMessages

variable {config : BridgeConfig} {s next : BridgeState} {event : BridgeEvent}

theorem initial : OwnMessages config .initial where
  out := fun _ member => absurd member List.not_mem_nil
  pending := fun _ member => absurd member List.not_mem_nil

/-- Framing is the only step that makes a message of the TX thread. -/
theorem tx_step {s next : TxState} {event : TxEvent}
    (own : ∀ message ∈ s.pending, OwnMessage config message)
    (bounded : BoundedMessages s) (taken : TxStep config.tx s event next) :
    ∀ message ∈ next.pending, OwnMessage config message := by
  cases taken with
  | @forward count tlen message ebuf rbuf atPc framed =>
      have size := bounded.size
      obtain ⟨result, ebuf', rbuf', resultEq, -, isFramed⟩ :=
        frameMessage_cases config.tx s.gatewayMac (s.tbuf.take tlen) s.ebuf
          s.rbuf (by simp; omega)
      rw [framed] at resultEq
      cases resultEq
      obtain ⟨shape, length⟩ := isFramed message rfl
      rw [bounded.room] at length
      exact List.forall_mem_singleton.mpr (ownMessage_framed shape length)
  | pollTimeout | resolverTakes | resolverAnswers | resolverFails
  | resolverStops | learnGateway | stop => exact own
  | receivedGo =>
      by_cases system : config.tx.dnsMode = .system
      · simp [TxState.pending, system]
      · simp [TxState.pending, system]
  | pollReadable | pollStopped | readableGo | readableStopped | readPacket
  | readNothing | batchDone | receivedStopped | intercept | pass
  | interceptPanics | warmSkips | coldForwards | reject | forwardPanics
  | send | sendFails =>
      exact fun _ member => absurd member List.not_mem_nil

/-- What the I/O thread holds afterwards is its own if the channel has
accepted nothing else. -/
theorem usb_step {s next : UsbState} {event : UsbEvent}
    (own : ∀ message ∈ outMessages s.io.calls ++ s.queue,
      OwnMessage config message)
    (accepted : ∀ message, event = .accepted message →
      OwnMessage config message)
    (taken : UsbStep config.rx s event next) (alive : next.pc ≠ .panicked) :
    ∀ message ∈ outMessages next.io.calls ++ next.queue,
      OwnMessage config message := by
  intro message member
  rcases taken.origin alive member with
    earlier | isNew | ⟨request, reply, isReply, rfl⟩
  · exact own message earlier
  · exact accepted message isNew
  · exact ownMessage_reply isReply

theorem step (own : OwnMessages config s) (bounded : BoundedMessages s.tx)
    (taken : BridgeStep config s event next)
    (alive : next.usb.pc ≠ .panicked) : OwnMessages config next := by
  cases taken with
  | tx taken => exact ⟨own.out, tx_step own.pending bounded taken⟩
  | usb taken alone =>
      exact ⟨usb_step own.out
        (fun message isNew => absurd isNew (alone.channel message).1) taken
        alive, own.pending⟩
  | @send count packet message atPc serving room =>
      refine ⟨usb_step own.out ?_ (.accept message serving room) alive,
        fun _ member => absurd member List.not_mem_nil⟩
      rintro _ ⟨⟩
      exact own.pending message (by simp [TxState.pending, atPc])
  | @keepalive message built serving room =>
      refine ⟨usb_step own.out ?_ (.accept message serving room) alive,
        own.pending⟩
      rintro _ ⟨⟩
      exact ownMessage_keepalive built
  | sendFails =>
      exact ⟨own.out, fun _ member => absurd member List.not_mem_nil⟩
  | keepaliveLost => exact own
  | stop => exact ⟨own.out, own.pending⟩
  | gone taken =>
      exact ⟨usb_step own.out (fun _ isNew => by cases isNew) taken alive,
        own.pending⟩

theorem of_run {trace : List BridgeEvent}
    (run : Run (BridgeStep config) .initial trace s)
    (alive : s.usb.pc ≠ .panicked) : OwnMessages config s := by
  induction run with
  | nil => exact initial
  | snoc run taken ih =>
      have bounded : BoundedMessages _ :=
        .of_run ((BridgeStep.txPart config).run run)
      have before := ((BridgeStep.usbPart config).moves taken).reflects
        UsbStep.alive_of_alive alive
      exact (ih before).step bounded taken alive

end OwnMessages

theorem sendGratuitous_eq (config : BridgeConfig) :
    ∃ message, OwnMessage config message ∧ ∀ sendBulk,
      Arp.sendGratuitous sendBulk config.hostMac config.ourIp =
        .ok ((sendBulk message).map fun _ => ()) := by
  refine ⟨_, @ownMessage_broadcast config
    (Arp.gratuitous config.hostMac config.ourIp) rfl rfl, fun sendBulk => ?_⟩
  rw [Arp.sendGratuitous, Arp.broadcastMessage_eq, ok_bind]
  rfl

/-- What other stations can receive from a session. -/
structure OwnTraffic (config : BridgeConfig) (s : BridgeState) : Prop where
  /-- The packet that is sent before the threads are started. -/
  announcement : ∃ message, OwnMessage config message ∧ ∀ sendBulk,
    Arp.sendGratuitous sendBulk config.hostMac config.ourIp =
      .ok ((sendBulk message).map fun _ => ())
  /-- What has been submitted, waits in the channel or is about to be sent. -/
  messages : ∀ message ∈
    outMessages s.usb.io.calls ++ s.usb.queue ++ s.tx.pending,
      OwnMessage config message

/-- Whatever is received and read, all that a session sends is its own. -/
theorem ownTraffic {config : BridgeConfig} {trace : List BridgeEvent}
    {s : BridgeState} (run : Run (BridgeStep config) .initial trace s)
    (alive : s.usb.pc ≠ .panicked) : OwnTraffic config s where
  announcement := sendGratuitous_eq config
  messages := by
    have own := OwnMessages.of_run run alive
    exact List.forall_mem_append.mpr ⟨own.out, own.pending⟩

theorem oneBridged_own :
    ∃ s, OwnTraffic plainBridge s ∧ s.usb.queue ≠ [] ∧
      ∀ message ∈ s.usb.queue, OwnMessage plainBridge message := by
  obtain ⟨history, s, run, -, -, serving, -, waits, -⟩ :=
    @run_oneBridged shortDatagram 0x0800 (by decide) (by decide) (by decide)
  have traffic := ownTraffic (Recorded.forget run) serving.2
  refine ⟨s, traffic, waits, fun message member => ?_⟩
  exact traffic.messages message
    (List.mem_append_left _ (List.mem_append_right _ member))

end AndroidTether
