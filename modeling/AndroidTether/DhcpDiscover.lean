import AndroidTether.DhcpWire
import AndroidTether.RndisFraming

/-!
# The DHCP client

`discover` of `dhcp.rs`: a DISCOVER is sent, received transfers are searched
for an OFFER, a REQUEST is built from what the callback collected, and further
transfers are searched for an ACK.  Frames are read in part through a raw
pointer to a packed struct, so a header field that lies behind the end of a
frame is read from whatever memory holds there.
-/

namespace AndroidTether

open ByteWords Checked

/-- A non-panicking computation may still return early with `?`. -/
abbrev Fallible := ExceptT TetherError Checked

def checked {α : Type} (outcome : Checked α) : Fallible α :=
  ExceptT.lift outcome

/-- The `?` operator. -/
def orReturn {α : Type} (result : Except TetherError α) : Fallible α :=
  ExceptT.mk (.ok result)

@[simp]
theorem checked_ok_bind {α β : Type} (value : α) (next : α → Fallible β) :
    (checked (.ok value) >>= next) = next value :=
  rfl

@[simp]
theorem checked_error_bind {α β : Type} (panic : Panic)
    (next : α → Fallible β) :
    (checked (.error panic) >>= next) = checked (.error panic) :=
  rfl

@[simp]
theorem orReturn_ok_bind {α β : Type} (value : α) (next : α → Fallible β) :
    (orReturn (.ok value) >>= next) = next value :=
  rfl

@[simp]
theorem orReturn_error_bind {α β : Type} (error : TetherError)
    (next : α → Fallible β) :
    (orReturn (.error error) >>= next) = orReturn (.error error) :=
  rfl

theorem Fallible.cases {α : Type} (outcome : Fallible α) :
    (∃ panic, outcome = checked (.error panic)) ∨
      (∃ error, outcome = orReturn (.error error)) ∨
      ∃ value, outcome = orReturn (.ok value) := by
  rcases outcome with panic | error | value
  · exact .inl ⟨panic, rfl⟩
  · exact .inr (.inl ⟨error, rfl⟩)
  · exact .inr (.inr ⟨value, rfl⟩)

/-- The computation does not panic. -/
def Returns {α : Type} (outcome : Fallible α) : Prop :=
  ∃ result, outcome = Except.ok result

@[simp]
theorem returns_orReturn {α : Type} (result : Except TetherError α) :
    Returns (orReturn result) :=
  ⟨result, rfl⟩

@[simp]
theorem returns_pure {α : Type} (value : α) :
    Returns (pure value : Fallible α) :=
  ⟨.ok value, rfl⟩

@[simp]
theorem not_returns_checked_error {α : Type} (panic : Panic) :
    ¬ Returns (checked (.error panic) : Fallible α) := by
  rintro ⟨result, ⟨⟩⟩

/-- One filling of the receive buffer: the bytes received, and what memory
holds behind them, by position from the start of the buffer. -/
structure Transfer where
  data : Bytes
  behind : Nat → UInt8
  fits : data.length ≤ rndisBufSize

/-- What the calls of `recv_bulk` and `send_bulk` return, in order. -/
structure Exchange where
  receive : Nat → Except TetherError Transfer
  send : Nat → Except TetherError Unit

/-- A struct field read through a raw pointer into a frame, and whether it
lies outside the frame. -/
structure RawRead where
  value : Nat
  outside : Bool

def rawByte (transfer : Transfer) (frame : Slice UInt8) (position : Nat) :
    UInt8 :=
  if position < frame.content.length then frame.content.getD position 0
  else if frame.start + position < transfer.data.length then
    transfer.data.getD (frame.start + position) 0
  else transfer.behind (frame.start + position)

def rawRead (transfer : Transfer) (frame : Slice UInt8)
    (position width : Nat) : RawRead where
  value := beNat ((List.range' position width).map (rawByte transfer frame))
  outside := frame.content.length < position + width

def discoverXid : Nat := 0x12345678

/-- Outcome of the checks that both callbacks begin with: where the DHCP
message starts, and whether a header field was read outside the frame. -/
structure Accepted where
  dhcpStart : Option Nat
  strayRead : Bool
  deriving DecidableEq

/-- The test of the magic cookie and the transaction id. -/
def inspectHeader (transfer : Transfer) (frame : Slice UInt8)
    (dhcpStart : Nat) : Accepted :=
  let magic := rawRead transfer frame (dhcpStart + 236) 4
  if magic.value ≠ dhcpMagicCookie then ⟨none, magic.outside⟩
  else
    let xid := rawRead transfer frame (dhcpStart + 4) 4
    if xid.value ≠ discoverXid then ⟨none, magic.outside || xid.outside⟩
    else ⟨some dhcpStart, magic.outside || xid.outside⟩

def acceptFrame (transfer : Transfer) (frame : Slice UInt8) :
    Checked Accepted := do
  let bytes := frame.content
  if bytes.length < ethHdrSize + 20 + 8 + dhcpFixedSize then
    return ⟨none, false⟩
  -- the Ethernet header lies inside by the check above
  if beWordAt bytes 12 2 ≠ 0x0800 then return ⟨none, false⟩
  let ipHdr ← range bytes ethHdrSize bytes.length
  if ipHdr.length < 20 then return ⟨none, false⟩
  if (← index ipHdr 9) ≠ 0x11 then return ⟨none, false⟩
  let ipHl := ((← index ipHdr 0) &&& 0x0F).toNat * 4
  let udpStart := ethHdrSize + ipHl
  if udpStart + 10 > bytes.length then return ⟨none, false⟩
  let dport :=
    beNat [← index bytes (udpStart + 2), ← index bytes (udpStart + 3)]
  if dport ≠ dhcpClientPort then return ⟨none, false⟩
  return inspectHeader transfer frame (udpStart + 8)

/-- The state of a callback after a frame. -/
structure Handled (σ : Type) where
  state : σ
  strayRead : Bool

structure OfferState where
  offeredAddr : Option Ipv4Addr
  serverAddr : Option Ipv4Addr
  final : ParsedOptions
  deriving DecidableEq

def OfferState.initial : OfferState :=
  ⟨none, none, ⟨none, none, none, none⟩⟩

/-- The callback of the OFFER phase. -/
def processFrame (transfer : Transfer) (state : OfferState)
    (frame : Slice UInt8) : Checked (Handled OfferState) := do
  match ← acceptFrame transfer frame with
  | ⟨none, strayRead⟩ => return ⟨state, strayRead⟩
  | ⟨some dhcpStart, strayRead⟩ =>
    let opts ← range frame.content (dhcpStart + 240) frame.content.length
    let scan ← scanOffer opts state.serverAddr
    let yiaddr := rawRead transfer frame (dhcpStart + 16) 4
    let strayRead := strayRead || yiaddr.outside
    if scan.msgType = 2 then
      let final ← parseDhcpOptions opts
      return ⟨⟨some (UInt32.ofNat yiaddr.value), scan.serverAddr, final⟩,
        strayRead⟩
    else return ⟨{ state with serverAddr := scan.serverAddr }, strayRead⟩

structure DhcpLease where
  ip : Ipv4Addr
  gateway : Ipv4Addr
  netmask : Ipv4Addr
  dns1 : Ipv4Addr
  dns2 : Ipv4Addr
  deriving DecidableEq

/-- The parsed default constants of `net_types.rs`. -/
def defaultLease : DhcpLease where
  ip := .new 192 168 42 100
  gateway := .new 192 168 42 129
  netmask := .new 255 255 255 0
  dns1 := .new 8 8 8 8
  dns2 := .new 8 8 4 4

structure AckState where
  found : Bool
  resultLease : Option DhcpLease
  deriving DecidableEq

/-- The callback of the ACK phase. -/
def processAck (transfer : Transfer) (state : AckState)
    (frame : Slice UInt8) : Checked (Handled AckState) := do
  if state.found then return ⟨state, false⟩
  match ← acceptFrame transfer frame with
  | ⟨none, strayRead⟩ => return ⟨state, strayRead⟩
  | ⟨some dhcpStart, strayRead⟩ =>
    let opts ← range frame.content (dhcpStart + 240) frame.content.length
    let optsEnd ← subtract frame.content.length (dhcpStart + 240)
    let msgType ← scanAck opts optsEnd
    if msgType = 5 then
      let found ← parseDhcpOptions opts
      let yiaddr := rawRead transfer frame (dhcpStart + 16) 4
      return ⟨⟨true, some
        { ip := UInt32.ofNat yiaddr.value
          gateway := found.gateway.getD defaultLease.gateway
          netmask := found.netmask.getD defaultLease.netmask
          dns1 := found.dns1.getD defaultLease.dns1
          dns2 := found.dns2.getD defaultLease.dns2 }⟩,
        strayRead || yiaddr.outside⟩
    else return ⟨state, strayRead⟩

/-- Iterate a callback over the frames of one transfer. -/
def forEachFrame {σ : Type} (build : Build)
    (callback : Transfer → σ → Slice UInt8 → Checked (Handled σ))
    (transfer : Transfer) (state : σ) : Checked σ :=
  RndisPacketIter.forEach build
    (fun state frame => (callback transfer state frame).map Handled.state)
    state (.new transfer.data)

/-- The loop that waits for an OFFER, from the given call of `recv_bulk` on:
its state and the number of calls made so far. -/
def offerLoop (build : Build) (exchange : Exchange) :
    Nat → Nat → OfferState → Fallible (OfferState × Nat)
  | 0, calls, state => return (state, calls)
  | attempts + 1, calls, state => do
      let transfer ← orReturn (exchange.receive calls)
      if transfer.data.length = 0 then
        offerLoop build exchange attempts (calls + 1) state
      else
        let state ← checked (forEachFrame build processFrame transfer state)
        if state.offeredAddr.isSome then return (state, calls + 1)
        offerLoop build exchange attempts (calls + 1) state

/-- The loop that waits for an ACK. -/
def ackLoop (build : Build) (exchange : Exchange) :
    Nat → Nat → Fallible DhcpLease
  | 0, _ => return defaultLease
  | attempts + 1, calls => do
      let transfer ← orReturn (exchange.receive calls)
      if transfer.data.length = 0 then
        ackLoop build exchange attempts (calls + 1)
      else
        let after ←
          checked (forEachFrame build processAck transfer ⟨false, none⟩)
        match after.resultLease with
        | some lease => return lease
        | none => ackLoop build exchange attempts (calls + 1)

/-- Wrap the first `len` bytes of the Ethernet buffer and send them.  The
buffer of the message may hold received bytes; those that are sent have all
been overwritten. -/
def sendFrame (send : Except TetherError Unit) (ethBuf : Bytes) (len : Nat) :
    Fallible Bytes := do
  let ethFrame ← checked (range ethBuf 0 len)
  let (wrapped, rndisBuf) ←
    checked (buildDataPacket (List.replicate rndisBufSize 0) ethFrame)
  let rndisLen ← orReturn wrapped
  let message ← checked (range rndisBuf 0 rndisLen)
  orReturn send
  return message

/-- A REQUEST that has been built, and the calls of `recv_bulk` before it. -/
structure Request where
  ethBuf : Bytes
  len : Nat
  calls : Nat

/-- The first half of `discover`, up to the REQUEST it builds. -/
def requestPhase (build : Build) (mac : MacAddr) (exchange : Exchange) :
    Fallible Request := do
  let (built, ethBuf) ← checked
    (buildDiscover build (List.replicate ethBufSize 0) mac discoverXid)
  let len ← orReturn built
  let _ ← sendFrame (exchange.send 0) ethBuf len
  let (state, calls) ← offerLoop build exchange 50 0 .initial
  match state.offeredAddr with
  | none => orReturn (.error (.dhcp "no DHCP offer received"))
  | some offeredIp =>
    let srvIp := state.serverAddr.getD .unspecified
    let (built, ethBuf) ←
      checked (buildRequest build ethBuf mac discoverXid offeredIp srvIp)
    let len ← orReturn built
    return ⟨ethBuf, len, calls⟩

def discover (build : Build) (mac : MacAddr) (exchange : Exchange) :
    Fallible DhcpLease := do
  let request ← requestPhase build mac exchange
  let _ ← sendFrame (exchange.send 1) request.ethBuf request.len
  ackLoop build exchange 50 request.calls

theorem sendFrame_eq (send : Except TetherError Unit) {ethBuf : Bytes}
    {len : Nat} (inside : len ≤ ethBuf.length)
    (fits : 44 + len ≤ rndisBufSize) :
    sendFrame send ethBuf len = orReturn (send.map fun _ =>
      dataPacketHeader len ++ ethBuf.take len) := by
  have frameLength : (ethBuf.take len).length = len := by
    rw [List.length_take]
    omega
  have wrapped := @buildDataPacket_eq (List.replicate rndisBufSize 0)
    (ethBuf.take len) (by rw [frameLength, List.length_replicate]; exact fits)
  rw [frameLength] at wrapped
  have prefixLength :
      (dataPacketHeader len ++ ethBuf.take len).length = 44 + len := by
    rw [List.length_append, dataPacketHeader_length, frameLength]
  rw [sendFrame, range_eq_ok (Nat.zero_le _) inside, checked_ok_bind,
    Nat.sub_zero, List.drop_zero, wrapped, checked_ok_bind]
  simp only [orReturn_ok_bind]
  rw [range_eq_ok (Nat.zero_le _)
      (by rw [List.length_append, prefixLength]; omega), checked_ok_bind,
    Nat.sub_zero, List.drop_zero, List.take_left' prefixLength]
  cases send <;> rfl

/-- The Ethernet buffer holds a REQUEST for the given addresses. -/
def HoldsRequest (ethBuf : Bytes) (offeredIp serverIp : Ipv4Addr) : Prop :=
  ethBuf.length = ethBufSize ∧ ∃ header rest, header.length = 282 ∧
    ethBuf = header ++ requestOptions offeredIp serverIp ++ rest

theorem discover_built (build : Build) (mac : MacAddr) :
    ∃ ethBuf : Bytes, ethBuf.length = ethBufSize ∧
      buildDiscover build (List.replicate ethBufSize 0) mac discoverXid =
        .ok (.ok 314, ethBuf) := by
  obtain ⟨⟨built, ethBuf⟩, discovered, rfl, lengthEq⟩ :=
    @buildDiscover_succeeds build (List.replicate ethBufSize 0) mac
      discoverXid (by rw [List.length_replicate]; decide)
  exact ⟨ethBuf, lengthEq.trans List.length_replicate, discovered⟩

/-- What the OFFER loop leaves behind determines the REQUEST. -/
theorem requestPhase_eq (build : Build) (mac : MacAddr) {exchange : Exchange}
    (sent : exchange.send 0 = .ok ()) :
    ∃ requestBuf : Ipv4Addr → Ipv4Addr → Bytes,
      (∀ offeredIp serverIp,
        HoldsRequest (requestBuf offeredIp serverIp) offeredIp serverIp) ∧
      requestPhase build mac exchange = (do
        let (state, calls) ← offerLoop build exchange 50 0 .initial
        match state.offeredAddr with
        | none => orReturn (.error (.dhcp "no DHCP offer received"))
        | some offeredIp =>
          return ⟨requestBuf offeredIp
            (state.serverAddr.getD .unspecified), 314, calls⟩) := by
  obtain ⟨ethBuf, discoverLength, discovered⟩ := discover_built build mac
  have large : 594 ≤ ethBuf.length := by
    rw [discoverLength]
    decide
  have requests (offeredIp serverIp : Ipv4Addr) : ∃ requestBuf,
      buildRequest build ethBuf mac discoverXid offeredIp serverIp =
        .ok (.ok 314, requestBuf) ∧
      HoldsRequest requestBuf offeredIp serverIp := by
    obtain ⟨⟨built, requestBuf⟩, requestEq, rfl, lengthEq, layout⟩ :=
      buildRequest_succeeds build mac discoverXid offeredIp serverIp large
    exact ⟨requestBuf, requestEq, lengthEq.trans discoverLength, layout⟩
  choose requestBuf requestEq holds using requests
  refine ⟨requestBuf, holds, ?_⟩
  rw [requestPhase, discovered, checked_ok_bind]
  simp only [orReturn_ok_bind]
  rw [sendFrame_eq _ (by omega) (by decide), sent]
  simp only [Except.map, orReturn_ok_bind]
  refine congrArg (offerLoop build exchange 50 0 .initial >>= ·) ?_
  funext ⟨state, calls⟩
  cases state.offeredAddr with
  | none => rfl
  | some offeredIp =>
      simp only [requestEq, checked_ok_bind, orReturn_ok_bind]

theorem requestPhase_unsent (build : Build) (mac : MacAddr)
    {exchange : Exchange} {error : TetherError}
    (failed : exchange.send 0 = .error error) :
    requestPhase build mac exchange = orReturn (.error error) := by
  obtain ⟨ethBuf, discoverLength, discovered⟩ := discover_built build mac
  have large : 314 ≤ ethBuf.length := by
    rw [discoverLength]
    decide
  rw [requestPhase, discovered, checked_ok_bind]
  simp only [orReturn_ok_bind]
  rw [sendFrame_eq _ large (by decide), failed]
  rfl

end AndroidTether
