import AndroidTether.ArpAnnouncements
import AndroidTether.Composition
import AndroidTether.FrameInverse
import AndroidTether.IoStream
import AndroidTether.TransferSize
import AndroidTether.TxSequence

/-!
# The bridge of a session

The TX thread and the I/O thread of `run_session` side by side, with what they
share: the TX channel, which the main thread puts its keepalive packets into
as well, and the flag `running_bridge`.  No packet is lost, repeated or
reordered between the utun and the OUT endpoint.
-/

namespace AndroidTether

open ByteWords Checked

structure BridgeConfig where
  build : Build
  dnsMode : DnsMode
  ourIp : Ipv4Addr
  gatewayIp : Ipv4Addr
  hostMac : MacAddr

namespace BridgeConfig

variable (config : BridgeConfig)

/-- What the TX thread is started with. -/
def tx : TxConfig where
  dnsMode := config.dnsMode
  ourIp := config.ourIp
  gatewayIp := config.gatewayIp
  hostMac := config.hostMac

/-- What the I/O thread is started with. -/
def rx : RxConfig where
  build := config.build
  hostMac := config.hostMac
  ourIp := config.ourIp

end BridgeConfig

structure BridgeState where
  tx : TxState
  usb : UsbState

def BridgeState.initial : BridgeState :=
  ⟨.initial, .initial⟩

/-- What the two threads do in a step. -/
structure BridgeEvent where
  tx : Option TxEvent
  usb : Option UsbEvent

/-- A step that leaves the flag and the channel alone, whatever `gateway_mac`
and the resolver do. -/
structure TxAlone (s next : TxState) : Prop where
  running : next.running = s.running
  sending : ∀ count packet message, s.pc = .sending count packet message →
    next.pc = s.pc

/-- The same on the other side of the channel. -/
structure UsbAlone (s : UsbState) (event : UsbEvent) (next : UsbState) :
    Prop where
  running : next.running = s.running
  channel : ∀ message, event ≠ .accepted message ∧ event ≠ .refused message

/-- One step of the threads. -/
inductive BridgeStep (config : BridgeConfig) :
    BridgeState → BridgeEvent → BridgeState → Prop
  | tx {s : BridgeState} {event : TxEvent} {next : TxState}
      (taken : TxStep config.tx s.tx event next) (alone : TxAlone s.tx next) :
      BridgeStep config s ⟨some event, none⟩ { s with tx := next }
  | usb {s : BridgeState} {event : UsbEvent} {next : UsbState}
      (taken : UsbStep config.rx s.usb event next)
      (alone : UsbAlone s.usb event next) :
      BridgeStep config s ⟨none, some event⟩ { s with usb := next }
  /-- `send` blocks while the channel is full. -/
  | send {s : BridgeState} {count : Nat} {packet message : Bytes}
      (at_ : s.tx.pc = .sending count packet message)
      (serving : s.usb.pc.Serving) (room : s.usb.queue.length < txCapacity) :
      BridgeStep config s
        ⟨some (.handed packet message), some (.accepted message)⟩
        { tx := { s.tx with pc := .batch (count + 1) }
          usb := { s.usb with queue := s.usb.queue ++ [message] } }
  | sendFails {s : BridgeState} {count : Nat} {packet message : Bytes}
      (at_ : s.tx.pc = .sending count packet message)
      (dropped : ¬ s.usb.pc.Serving) :
      BridgeStep config s ⟨some .tau, some (.refused message)⟩
        { s with tx := { s.tx with pc := .polling } }
  /-- `try_send` of the main thread. -/
  | keepalive {s : BridgeState} {message : Bytes}
      (built : Arp.keepaliveMessage config.hostMac config.ourIp =
        .ok (.ok message))
      (serving : s.usb.pc.Serving) (room : s.usb.queue.length < txCapacity) :
      BridgeStep config s ⟨none, some (.accepted message)⟩
        { s with usb := { s.usb with queue := s.usb.queue ++ [message] } }
  | keepaliveLost {s : BridgeState} {message : Bytes}
      (closed : txCapacity ≤ s.usb.queue.length ∨ ¬ s.usb.pc.Serving) :
      BridgeStep config s ⟨none, some (.refused message)⟩ s
  /-- Another thread stores `running_bridge`. -/
  | stop {s : BridgeState} :
      BridgeStep config s ⟨some .tau, some .tau⟩
        { tx := { s.tx with running := false }
          usb := { s.usb with running := false } }
  /-- The I/O thread does. -/
  | gone {s : BridgeState} {next : UsbState}
      (taken : UsbStep config.rx s.usb .declaredGone next) :
      BridgeStep config s ⟨some .tau, some .declaredGone⟩
        { tx := { s.tx with running := false }, usb := next }

theorem UsbStep.serving_of_serving {config : RxConfig} {s next : UsbState}
    {event : UsbEvent} (taken : UsbStep config s event next)
    (serving : next.pc.Serving) : s.pc.Serving := by
  cases taken with
  | submitIn atPc | primed atPc | refill atPc | refillEmpty atPc
  | refillFull atPc | loop atPc | loopEnds atPc | drain atPc | drained atPc
  | gone atPc | present atPc | drainOut atPc | outIdle atPc
  | completeOut atPc | nothingOut atPc | outWaitPanics atPc | replace atPc
  | replaceEmpty atPc =>
      simp [UsbPc.Serving, atPc]
  | complete _ atPc | crash _ atPc | nothingIn atPc | waitPanics atPc =>
      rcases atPc with atPc | atPc <;> simp [UsbPc.Serving, atPc]
  | accept | refuse | stop => exact serving

theorem UsbStep.alive_of_alive {config : RxConfig} {s next : UsbState}
    {event : UsbEvent} (taken : UsbStep config s event next)
    (alive : next.pc ≠ .panicked) : s.pc ≠ .panicked :=
  (taken.adds alive).1

namespace BridgeStep

variable {config : BridgeConfig}

/-- The TX thread in the bridge. -/
def txPart (config : BridgeConfig) :
    ComponentOf (BridgeStep config) (TxStep config.tx) where
  view := BridgeState.tx
  label := BridgeEvent.tx
  moves taken := by
    cases taken with
    | tx taken => exact .takes taken
    | usb | keepalive | keepaliveLost => exact .stays
    | send atPc => exact .takes (.send atPc)
    | sendFails atPc => exact .takes (.sendFails atPc)
    | stop | gone => exact .takes .stop

/-- The I/O thread in the bridge. -/
def usbPart (config : BridgeConfig) :
    ComponentOf (BridgeStep config) (UsbStep config.rx) where
  view := BridgeState.usb
  label := BridgeEvent.usb
  moves taken := by
    cases taken with
    | tx => exact .stays
    | usb taken => exact .takes taken
    | send _ serving room | keepalive _ serving room =>
        exact .takes (.accept _ serving room)
    | sendFails _ dropped => exact .takes (.refuse _ (.inr dropped))
    | keepaliveLost closed => exact .takes (.refuse _ closed)
    | stop => exact .takes .stop
    | gone taken => exact .takes taken

variable {s next : BridgeState} {event : BridgeEvent}

theorem running_of_running (taken : BridgeStep config s event next)
    (on : next.tx.running = true) : s.tx.running = true := by
  cases taken with
  | tx _ alone => exact alone.running.symm.trans on
  | usb | send | sendFails | keepalive | keepaliveLost => exact on
  | stop | gone => exact absurd on Bool.false_ne_true

theorem serving_of_serving (taken : BridgeStep config s event next)
    (serving : next.usb.pc.Serving) : s.usb.pc.Serving :=
  ((usbPart config).moves taken).reflects UsbStep.serving_of_serving serving

end BridgeStep

/-- The frames that a station finds in some messages. -/
def wireFrames (messages : List Bytes) : List Bytes :=
  messages.flatMap fun message => (referenceFrames message).map Slice.content

/-- The packets that it takes out of them, as `eth_to_utun` would. -/
def carriedPackets (messages : List Bytes) : List Bytes :=
  (forwardedFrames (wireFrames messages)).map utunPacket

theorem wireFrames_append (earlier later : List Bytes) :
    wireFrames (earlier ++ later) = wireFrames earlier ++ wireFrames later :=
  List.flatMap_append

@[simp]
theorem carriedPackets_append (earlier later : List Bytes) :
    carriedPackets (earlier ++ later) =
      carriedPackets earlier ++ carriedPackets later := by
  rw [carriedPackets, wireFrames_append, forwardedFrames, List.filter_append,
    List.map_append]
  rfl

@[simp]
theorem carriedPackets_nil : carriedPackets [] = [] :=
  rfl

/-- A data packet carries its frame and nothing else. -/
theorem wireFrames_dataPacket {frame : Bytes} (nonempty : frame ≠ [])
    (representable : 44 + frame.length < 2 ^ 32) :
    wireFrames [dataPacketHeader frame.length ++ frame] = [frame] := by
  let encoded := EncodedFrame.ofFrame frame nonempty representable
  have wire : transfer [.frame encoded] ⟨[], .inl (by decide)⟩ =
      dataPacketHeader frame.length ++ frame := by
    have bytes : encoded.wire = dataPacketHeader frame.length ++ frame :=
      encoded.wire_eq
    simpa [transfer, TransferItem.wire] using bytes
  have decoded := referenceFrames_transfer [.frame encoded]
    ⟨[], .inl (by decide)⟩
  rw [wire] at decoded
  rw [wireFrames, List.flatMap_singleton, decoded]
  rfl

/-- ARP is not for the utun. -/
theorem carriedPackets_arp {frame : Bytes} (length : frame.length = 42)
    (etherType : beWordAt frame 12 2 = 0x0806) :
    carriedPackets [arpMessage frame] = [] := by
  have notCarries : ¬ CarriesIp utunBufSize frame := by
    rintro ⟨-, inet | inet6, -⟩ <;> omega
  rw [carriedPackets, arpMessage, wireFrames_dataPacket
    (List.length_pos_iff.mp (by omega)) (by omega), forwardedFrames]
  simp [notCarries]

theorem carriedPackets_keepalive {mac : MacAddr} {ip : Ipv4Addr}
    {message : Bytes}
    (built : Arp.keepaliveMessage mac ip = .ok (.ok message)) :
    carriedPackets [message] = [] := by
  rw [Arp.keepaliveMessage, Arp.broadcastMessage_eq] at built
  cases built
  exact carriedPackets_arp (Arp.broadcastFrame_length _ _)
    (Arp.broadcastFrame_etherType _ _)

theorem utunPacket_framedPacket (config : TxConfig) (mac : MacAddr)
    {packet : Bytes} {ethertype : Nat}
    (etherTypeEq : packetEtherType packet = .ok (some ethertype))
    (long : 5 ≤ packet.length) :
    beWordAt (framedPacket config mac ethertype packet) 12 2 = ethertype ∧
      utunPacket (framedPacket config mac ethertype packet) =
        restoredPacket packet := by
  obtain ⟨restored, known⟩ := restoredPacket_eq etherTypeEq long
  have typeWord : beWordAt (framedPacket config mac ethertype packet) 12 2 =
      ethertype := by
    have cut : ((framedPacket config mac ethertype packet).drop 12).take 2 =
        beBytes 2 ethertype := by
      rw [framedPacket, EthHdr.bytes, List.append_assoc,
        List.drop_left' (by simp [MacAddr.length_eq]),
        List.take_left' (beBytes_length ..)]
    rw [beWordAt_beBytes cut]
    rcases known with rfl | rfl <;> rfl
  refine ⟨typeWord, ?_⟩
  rw [utunPacket, typeWord, framedPacket_datagram, restored]

/-- The message for a packet that has to be sent carries the packet. -/
theorem carriedPackets_framed {config : TxConfig} {seen : TxSeen}
    {message : Bytes} (sent : seen.sent config = true)
    (framed : seen.FramedAs config message) :
    carriedPackets [message] = [restoredPacket seen.packet] := by
  obtain ⟨ethertype, etherTypeEq, known, rfl, -⟩ := framed
  have ethSize : (List.replicate ethBufSize (0 : UInt8)).length = 2048 :=
    List.length_replicate
  have accepted : seen.rejected config = false := by
    rw [TxSeen.sent, Bool.and_eq_true, Bool.not_eq_true'] at sent
    simpa using sent.2
  rcases ipToEth_cases seen.packet (List.replicate ethBufSize 0) config.hostMac
      seen.gatewayMac with rejected | ⟨other, -, long, fits, -⟩
  · simp [TxSeen.rejected, rejected] at accepted
  have frameLength :=
    framedPacket_length config seen.gatewayMac ethertype long
  obtain ⟨typeWord, packetEq⟩ :=
    utunPacket_framedPacket config seen.gatewayMac etherTypeEq long
  have carries : CarriesIp utunBufSize
      (framedPacket config seen.gatewayMac ethertype seen.packet) := by
    have utunSize : utunBufSize = 2052 := rfl
    exact ⟨by omega, by rw [typeWord]; exact known, by omega⟩
  rw [carriedPackets, ← frameLength, wireFrames_dataPacket
    (List.length_pos_iff.mp (by omega)) (by omega), forwardedFrames]
  simp [carries, packetEq]

theorem carriedPackets_framedAll {config : TxConfig} {seens : List TxSeen}
    {messages : List Bytes} (sent : ∀ seen ∈ seens, seen.sent config = true)
    (framed : List.Forall₂ (TxSeen.FramedAs config) seens messages) :
    carriedPackets messages =
      seens.map fun seen => restoredPacket seen.packet := by
  induction framed with
  | nil => rfl
  | @cons seen message seens messages isFramed _ ih =>
      obtain ⟨first, rest⟩ := List.forall_mem_cons.mp sent
      rw [← List.singleton_append, carriedPackets_append,
        carriedPackets_framed first isFramed, ih rest]
      rfl

theorem carriedPackets_replies {mac : MacAddr} {ip : Ipv4Addr}
    {requests replies : List Bytes}
    (right : List.Forall₂ (Arp.IsReplyTo mac ip) requests replies) :
    carriedPackets (replies.map arpMessage) = [] := by
  induction right with
  | nil => rfl
  | cons isReply _ ih =>
      rw [List.map_cons, ← List.singleton_append, carriedPackets_append,
        carriedPackets_arp isReply.length isReply.etherType, ih]
      rfl

/-- The replies among the messages of an event carry nothing. -/
theorem carriedPackets_sentBy {config : RxConfig} {event : UsbEvent}
    {sent : List Bytes} (sentBy : SentBy config event sent) :
    carriedPackets sent = carriedPackets (submittedMessages [event]) := by
  cases event with
  | submitted message =>
      cases sentBy
      rfl
  | completed comp =>
      obtain ⟨replies, rfl, right⟩ := sentBy
      exact carriedPackets_replies right
  | tau | crashed | accepted | refused | declaredGone =>
      cases sentBy
      rfl

theorem carriedPackets_groups {config : RxConfig} {trace : List UsbEvent}
    {groups : List (List Bytes)}
    (each : List.Forall₂ (SentBy config) trace groups) :
    carriedPackets groups.flatten =
      carriedPackets (submittedMessages trace) := by
  induction each with
  | nil => rfl
  | @cons event sent trace groups sentBy _ ih =>
      have submitted : submittedMessages (event :: trace) =
          submittedMessages [event] ++ submittedMessages trace :=
        @List.filterMap_append _ _ [event] trace _
      rw [List.flatten_cons, submitted, carriedPackets_append,
        carriedPackets_append, ih, carriedPackets_sentBy sentBy]

section Runs

variable {config : BridgeConfig} {s next : BridgeState} {event : BridgeEvent}
  {history : List (Taken BridgeState BridgeEvent)}

/-- What the TX thread has done in a history of the bridge. -/
def txHistory (config : BridgeConfig)
    (history : List (Taken BridgeState BridgeEvent)) :
    List (Taken TxState TxEvent) :=
  (BridgeStep.txPart config).history history

/-- What the I/O thread has done. -/
def usbTrace (config : BridgeConfig)
    (history : List (Taken BridgeState BridgeEvent)) : List UsbEvent :=
  (BridgeStep.usbPart config).trace (history.map Taken.label)

/-- The packets of the channel are those of the TX thread. -/
theorem BridgeStep.carried_eq (taken : BridgeStep config s event next) :
    carriedPackets (acceptedMessages event.usb.toList) =
      carriedPackets (handedMessages
        ((txPart config).taken ⟨s, event, next⟩).toList) := by
  cases taken with
  | @tx event next taken alone =>
      have silent : handedMessages [⟨s.tx, event, next⟩] = [] := by
        cases event with
        | handed packet message =>
            cases taken with
            | send atPc =>
                have stays := alone.sending _ _ _ atPc
                rw [atPc] at stays
                cases stays
        | tau | read | diverted | warmed => rfl
      exact (congrArg carriedPackets silent).symm
  | @usb event next taken alone =>
      have silent : acceptedMessages [event] = [] := by
        cases event with
        | accepted message => exact absurd rfl (alone.channel message).1
        | tau | completed | crashed | submitted | refused | declaredGone =>
            rfl
      exact congrArg carriedPackets silent
  | keepalive built => exact carriedPackets_keepalive built
  | send | sendFails | keepaliveLost | stop | gone => rfl

theorem carried_of_run
    (run : Run (Recorded (BridgeStep config)) .initial history s) :
    carriedPackets (acceptedMessages (usbTrace config history)) =
      carriedPackets (handedMessages (txHistory config history)) := by
  induction run with
  | nil => rfl
  | @snoc history state next step run recorded ih =>
      obtain ⟨isStep⟩ := recorded
      rw [usbTrace, List.map_append, List.map_singleton,
        ComponentOf.trace_concat, txHistory, ComponentOf.history_concat,
        acceptedMessages, List.filterMap_append, handedMessages_append,
        carriedPackets_append, carriedPackets_append]
      exact congrArg₂ (· ++ ·) ih isStep.carried_eq

/-- A step while the session is on and the channel is served. -/
structure ServedBridgeStep (config : BridgeConfig) (s : BridgeState)
    (event : BridgeEvent) (next : BridgeState) : Prop where
  step : BridgeStep config s event next
  on : next.tx.running = true
  serving : next.usb.pc.Serving

/-- A session that is on and served has been so all the time. -/
theorem served_of_run
    (run : Run (Recorded (BridgeStep config)) .initial history s)
    (on : s.tx.running = true) (serving : s.usb.pc.Serving) :
    Run (Recorded (ServedBridgeStep config)) .initial history s := by
  induction run with
  | nil => exact .nil
  | snoc run recorded ih =>
      obtain ⟨taken⟩ := recorded
      exact (ih (taken.running_of_running on)
        (taken.serving_of_serving serving)).snoc ⟨⟨taken, on, serving⟩⟩

/-- The TX thread of a served bridge is served. -/
def servedPart (config : BridgeConfig) :
    ComponentOf (ServedBridgeStep config) (ServedStep config.tx) where
  view := BridgeState.tx
  label := BridgeEvent.tx
  moves := by
    rintro s event next ⟨taken, on, serving⟩
    cases taken with
    | tx taken alone =>
        refine .takes ⟨taken, on, fun count packet message atPc => ?_⟩
        rw [alone.sending count packet message atPc, atPc]
        nofun
    | usb | keepalive | keepaliveLost => exact .stays
    | send atPc => exact .takes ⟨.send atPc, on, nofun⟩
    | sendFails _ dropped => exact absurd serving dropped
    | stop | gone => exact absurd on Bool.false_ne_true

/-- What has become of the packets that were read. -/
structure UplinkConserved (config : BridgeConfig)
    (history : List (Taken BridgeState BridgeEvent)) (s : BridgeState) :
    Prop where
  /-- Every packet is settled once, in order; at most one is underway. -/
  reads : readPackets (txHistory config history) =
    (txAccount (txHistory config history)).settled.map TxSeen.packet ++
      s.tx.underway
  /-- The packets that have to be sent are those that a station finds on the
  OUT endpoint, in the channel, and with the TX thread, in this order. -/
  carried : carriedPackets
      (outMessages s.usb.io.calls ++ s.usb.queue ++ s.tx.pending) =
    ((txAccount (txHistory config history)).settled.filter
      (·.sent config.tx)).map fun seen => restoredPacket seen.packet

/-- While the session is on, nothing gets lost between the utun and the OUT
endpoint. -/
theorem uplinkConserved
    (run : Run (Recorded (BridgeStep config)) .initial history s)
    (on : s.tx.running = true) (serving : s.usb.pc.Serving) :
    UplinkConserved config history s := by
  have sequenced : TxSequenced config.tx (txHistory config history) s.tx :=
    .of_run ((servedPart config).recorded (served_of_run run on serving))
  have usbRun : Run (UsbStep config.rx) .initial (usbTrace config history)
      s.usb := (BridgeStep.usbPart config).run (Recorded.forget run)
  refine ⟨sequenced.reads, ?_⟩
  obtain ⟨groups, outEq, each⟩ := (Streams.of_run usbRun serving.2).sent
  have account : TxAccounted (usbTrace config history) s.usb :=
    usbRun.history .initial fun account taken => account.step taken
  calc
    carriedPackets (outMessages s.usb.io.calls ++ s.usb.queue ++ s.tx.pending) =
        carriedPackets (submittedMessages (usbTrace config history) ++
          s.usb.queue) ++ carriedPackets s.tx.pending := by
      rw [carriedPackets_append, carriedPackets_append, carriedPackets_append,
        outEq, carriedPackets_groups each]
    _ = carriedPackets (handedMessages (txHistory config history) ++
          s.tx.pending) := by
      rw [← account.conserved serving, carried_of_run run,
        carriedPackets_append]
    _ = _ := carriedPackets_framedAll
      (fun seen member => (List.mem_filter.mp member).2) sequenced.messages

end Runs

/-- A session with the DNS of the system. -/
def plainBridge : BridgeConfig where
  build := .debug
  dnsMode := .system
  ourIp := plainConfig.ourIp
  gatewayIp := plainConfig.gatewayIp
  hostMac := plainConfig.hostMac

theorem run_oneBridged {packet : Bytes} {ethertype : Nat}
    (etherTypeEq : packetEtherType packet = .ok (some ethertype))
    (long : 5 ≤ packet.length) (short : packet.length ≤ 1504) :
    ∃ history final,
      Run (Recorded (BridgeStep plainBridge)) .initial history final ∧
        readPackets (txHistory plainBridge history) = [packet] ∧
        final.tx.running = true ∧ final.usb.pc.Serving ∧
        outMessages final.usb.io.calls = [] ∧ final.usb.queue ≠ [] ∧
        final.tx.underway = [] ∧ final.tx.pending = [] := by
  have ethSize : ethBufSize = 2048 := rfl
  have rndisSize : rndisBufSize = 32768 := rfl
  have ebufSize : TxState.initial.ebuf.length = ethBufSize :=
    List.length_replicate
  have rbufSize : TxState.initial.rbuf.length = rndisBufSize :=
    List.length_replicate
  have tbufSize : TxState.initial.tbuf.length = 2304 := List.length_replicate
  obtain ⟨ebuf, rbuf, framed, -⟩ := @frameMessage_eq plainBridge.tx .broadcast
    packet TxState.initial.ebuf TxState.initial.rbuf ethertype etherTypeEq long
    (by omega) (by omega)
  have front : (packet ++ TxState.initial.tbuf.drop packet.length).take
      packet.length = packet := List.take_left
  rw [← front] at framed
  have alone {s next : TxState} {event : TxEvent}
      (step : TxStep plainBridge.tx s event next)
      (running : next.running = s.running)
      (sending : ∀ count packet message, s.pc ≠ .sending count packet message) :
      Recorded (BridgeStep plainBridge) ⟨s, .initial⟩
        ⟨⟨s, .initial⟩, ⟨some event, none⟩, ⟨next, .initial⟩⟩
        ⟨next, .initial⟩ :=
    ⟨.tx step ⟨running, fun count packet message atPc =>
      absurd atPc (sending count packet message)⟩⟩
  have readable := Run.nil.snoc
    (alone (@TxStep.pollReadable plainBridge.tx .initial rfl rfl) rfl nofun)
  have batch := readable.snoc (alone (.readableGo rfl rfl) rfl nofun)
  have nonempty : packet ≠ [] := List.length_pos_iff.mp (by omega)
  have received := batch.snoc (alone (.readPacket packet rfl (by decide)
    nonempty (show packet.length ≤ TxState.initial.tbuf.length by omega))
    rfl nofun)
  have forwarding := received.snoc
    (alone (.receivedGo rfl rfl) rfl nofun)
  rw [if_pos (show plainBridge.tx.dnsMode = .system from rfl)] at forwarding
  have sending := forwarding.snoc (alone (.forward rfl framed) rfl nofun)
  exact ⟨_, _, sending.snoc ⟨.send rfl (by simp [UsbPc.Serving,
    UsbState.initial]) (show 0 < txCapacity by decide)⟩, rfl, rfl,
    by simp [UsbPc.Serving, UsbState.initial], rfl, List.cons_ne_nil _ _, rfl,
    rfl⟩

/-- The packet waits in the channel. -/
theorem oneBridged_conserved :
    ∃ history s, UplinkConserved plainBridge history s ∧
      readPackets (txHistory plainBridge history) = [shortDatagram] ∧
      carriedPackets s.usb.queue = [shortDatagram] := by
  obtain ⟨history, s, run, reads, on, serving, quiet, -, settled, handed⟩ :=
    @run_oneBridged shortDatagram 0x0800 (by decide) (by decide) (by decide)
  have conserved := uplinkConserved run on serving
  have packets := conserved.reads
  have carried := conserved.carried
  rw [reads, settled, List.append_nil] at packets
  obtain ⟨seen, only, packetEq⟩ := List.map_eq_singleton_iff.mp packets.symm
  have accepted : seen.rejected plainBridge.tx = false :=
    seen.not_rejected plainBridge.tx (by rw [packetEq]; decide)
      (by rw [packetEq]; decide) (by rw [packetEq]; decide)
  have sent : seen.sent plainBridge.tx = true := by
    have passed : seen.suppressed plainBridge.tx = false := rfl
    rw [TxSeen.sent, accepted, passed]
    rfl
  rw [quiet, handed, only, List.filter_cons, sent, List.append_nil] at carried
  refine ⟨history, s, conserved, reads, carried.trans ?_⟩
  rw [if_pos rfl, List.filter_nil, List.map_singleton, packetEq]
  rfl

end AndroidTether
