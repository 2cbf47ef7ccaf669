import AndroidTether.DnsLeak
import AndroidTether.RndisControl

/-!
# The negotiated transfer size

What an INIT completion says about transfers, what `parse_init_cmplt` stores
of it, and how long the messages are that the TX loop hands out afterwards.
The parser takes the transfer size from the word behind it, and nothing
consults the size that is stored.
-/

namespace AndroidTether

open ByteWords Checked

/-- `REMOTE_NDIS_INITIALIZE_CMPLT` with status success. -/
structure InitCmplt where
  messageLength : UInt32
  requestId : UInt32
  majorVersion : UInt32
  minorVersion : UInt32
  deviceFlags : UInt32
  medium : UInt32
  maxPacketsPerTransfer : UInt32
  maxTransferSize : UInt32
  packetAlignmentFactor : UInt32
  afListOffset : UInt32
  afListSize : UInt32
  /-- What the device sends behind the message. -/
  trailing : Bytes

namespace InitCmplt

def words (message : InitCmplt) : List Nat :=
  [rndisMsgInitC, message.messageLength.toNat, message.requestId.toNat,
    rndisStatusSuccess, message.majorVersion.toNat,
    message.minorVersion.toNat, message.deviceFlags.toNat,
    message.medium.toNat, message.maxPacketsPerTransfer.toNat,
    message.maxTransferSize.toNat, message.packetAlignmentFactor.toNat,
    message.afListOffset.toNat, message.afListSize.toNat]

/-- The RNDIS layout: Medium at offset 28, MaxPacketsPerTransfer at 32,
MaxTransferSize at 36, PacketAlignmentFactor at 40. -/
def bytes (message : InitCmplt) : Bytes :=
  wordBytes message.words ++ message.trailing

theorem leWordAt_bytes (message : InitCmplt) {place : Nat}
    (inside : place < 13) :
    leWordAt message.bytes (4 * place) 4 =
      message.words[place] % 2 ^ 32 :=
  leWordAt_wordBytes inside message.trailing

theorem isInitCmplt (message : InitCmplt) : IsInitCmplt message.bytes := by
  refine ⟨by simp [bytes, words], ?_, ?_⟩
  · exact message.leWordAt_bytes (show 0 < 13 by decide)
  · exact message.leWordAt_bytes (show 3 < 13 by decide)

theorem parse_eq (message : InitCmplt) (state : RndisState) :
    parseInitCmplt message.bytes state =
      .ok (.ok (),
        { state with
          maxTransferSize := message.packetAlignmentFactor
          medium := message.medium }) := by
  have word (value : UInt32) : UInt32.ofNat (value.toNat % 2 ^ 32) = value := by
    rw [Nat.mod_eq_of_lt value.toNat_lt, UInt32.ofNat_toNat]
  have tenth := message.leWordAt_bytes (show 10 < 13 by decide)
  have seventh := message.leWordAt_bytes (show 7 < 13 by decide)
  rw [parseInitCmplt_ok message.isInitCmplt, tenth, seventh]
  simp only [words, List.getElem_cons_succ, List.getElem_cons_zero, word]

end InitCmplt

/-- The state of the TX loop as far as the length of messages depends on
it. -/
structure BoundedMessages (s : TxState) : Prop where
  size : s.tbuf.length = tunBufSize
  room : s.ebuf.length = ethBufSize
  sending : ∀ count packet message, s.pc = .sending count packet message →
    message.length ≤ 44 + ethBufSize

namespace BoundedMessages

variable {config : TxConfig} {s next : TxState} {event : TxEvent}

theorem initial : BoundedMessages .initial where
  size := List.length_replicate
  room := List.length_replicate
  sending := nofun

theorem move (inv : BoundedMessages s)
    (size : next.tbuf.length = s.tbuf.length)
    (room : next.ebuf.length = s.ebuf.length)
    (sending : ∀ count packet message, next.pc = .sending count packet message →
      s.pc = .sending count packet message) : BoundedMessages next where
  size := size.trans inv.size
  room := room.trans inv.room
  sending count packet message at_ :=
    inv.sending count packet message (sending count packet message at_)

theorem step (inv : BoundedMessages s) (taken : TxStep config s event next) :
    BoundedMessages next := by
  have framing {gatewayMac : MacAddr} {tlen : Nat} {message : Option Bytes}
      {ebuf rbuf : Bytes}
      (framed : frameMessage config gatewayMac (s.tbuf.take tlen) s.ebuf
        s.rbuf = .ok (message, ebuf, rbuf)) :
      ebuf.length = s.ebuf.length ∧
        ∀ bytes ∈ message, bytes.length ≤ 44 + ethBufSize := by
    have size := inv.size
    obtain ⟨result, ebuf', rbuf', resultEq, kept, bounded⟩ :=
      frameMessage_cases config gatewayMac (s.tbuf.take tlen) s.ebuf s.rbuf
        (by simp; omega)
    rw [framed] at resultEq
    cases resultEq
    rw [inv.room] at bounded
    exact ⟨kept, fun bytes member => (bounded bytes member).2⟩
  cases taken with
  | readPacket packet atPc more nonempty fits =>
      exact inv.move (by simp; omega) rfl nofun
  | receivedGo atPc on =>
      refine inv.move rfl rfl fun count packet message at_ => ?_
      dsimp only at at_
      split at at_ <;> cases at_
  | forward atPc framed =>
      refine ⟨inv.size, (framing framed).1.trans inv.room, ?_⟩
      rintro count packet message ⟨⟩
      exact (framing framed).2 _ rfl
  | reject atPc rejected =>
      exact inv.move rfl (framing rejected).1 nofun
  | _ => exact inv.move rfl rfl (by simp)

theorem of_run {trace : List TxEvent}
    (run : Run (TxStep config) .initial trace s) : BoundedMessages s :=
  run.invariant initial fun inv taken => inv.step taken

end BoundedMessages

/-- No message that the TX loop hands out is longer than its buffers allow. -/
theorem handed_length_le {config : TxConfig} {trace : List TxEvent}
    {s : TxState} (run : Run (TxStep config) .initial trace s)
    {packet message : Bytes} (handed : .handed packet message ∈ trace) :
    message.length ≤ 2092 := by
  have ethSize : ethBufSize = 2048 := rfl
  obtain ⟨earlier, later, rfl⟩ := List.append_of_mem handed
  obtain ⟨before, next, earlierRun, taken, -⟩ := run.split
  cases taken with
  | send atPc =>
      have bounded := (BoundedMessages.of_run earlierRun).sending _ _ _ atPc
      omega

/-- A packet of the IPv4 family whose bytes are zero. -/
def blankPacket (count : Nat) : Bytes :=
  [0, 0, 0, 2] ++ List.replicate count 0

@[simp]
theorem blankPacket_length (count : Nat) :
    (blankPacket count).length = 4 + count := by
  simp only [blankPacket, List.length_append, List.length_replicate]
  rfl

theorem blankPacket_not_dns (count : Nat) (ourIp gatewayIp : Ipv4Addr) :
    isDnsToGateway (blankPacket count) ourIp gatewayIp = .ok none := by
  rcases isDnsToGateway_cases (blankPacket count) ourIp gatewayIp with
    ⟨taken, -⟩ | ⟨-, passed⟩
  · have version := taken.version
    have first : ((blankPacket count).drop 4).getD 0 0 = 0 := by
      cases count <;> rfl
    rw [first] at version
    exact absurd version (by decide)
  · exact passed

theorem blankPacket_handed {config : TxConfig}
    (encrypted : config.dnsMode ≠ .system) {count : Nat} (some_ : 0 < count)
    (fits : 14 + count ≤ ethBufSize) :
    ∃ trace s message, Run (TxStep config) .initial trace s ∧
      .handed (blankPacket count) message ∈ trace ∧
      message.length = 58 + count := by
  have length := blankPacket_length count
  obtain ⟨final, run⟩ := @run_passed config encrypted (blankPacket count)
    (by omega) (by omega) (packetEtherType_inet (by omega) rfl)
    (blankPacket_not_dns count _ _)
  refine ⟨_, final, _, run, List.mem_append_right _ (List.mem_singleton_self _),
    ?_⟩
  rw [firstMessage, List.length_append, dataPacketHeader_length,
    framedPacket_length _ _ _ (by omega), length]
  omega

/-- What the negotiation owes: the fields of the completion are stored, and
every message that is handed out afterwards keeps to the stored size. -/
structure TransferSizeNegotiated (message : InitCmplt)
    (before after : RndisState) : Prop where
  accepted : parseInitCmplt message.bytes before = .ok (.ok (), after)
  medium : after.medium = message.medium
  maxTransferSize : after.maxTransferSize = message.maxTransferSize
  kept : ∀ config trace s, Run (TxStep config) .initial trace s →
    ∀ packet bytes, .handed packet bytes ∈ trace →
      bytes.length ≤ after.maxTransferSize.toNat

/-- The negotiation holds exactly for the devices that announce their transfer
size as alignment too, and announce room for the largest message. -/
theorem transferSizeNegotiated_iff (message : InitCmplt) (before : RndisState) :
    (∃ after, TransferSizeNegotiated message before after) ↔
      message.packetAlignmentFactor = message.maxTransferSize ∧
        2092 ≤ message.maxTransferSize.toNat := by
  constructor
  · rintro ⟨after, negotiated⟩
    have stored := negotiated.accepted
    rw [message.parse_eq] at stored
    cases stored
    have same : message.packetAlignmentFactor = message.maxTransferSize :=
      negotiated.maxTransferSize
    obtain ⟨trace, s, bytes, run, handed, length⟩ :=
      @blankPacket_handed encryptedConfig (by decide) 2034 (by decide)
        (by decide)
    have kept := negotiated.kept encryptedConfig trace s run _ bytes handed
    rw [length] at kept
    exact ⟨same, by rw [← same]; exact kept⟩
  · rintro ⟨same, room⟩
    exact ⟨_, message.parse_eq before, rfl, same,
      fun config trace s run packet bytes handed =>
        (handed_length_le run handed).trans (by rw [same]; exact room)⟩

/-- An Ethernet function that takes transfers of 16384 bytes, aligned to
four. -/
def usualInitCmplt : InitCmplt where
  messageLength := 52
  requestId := 1
  majorVersion := 1
  minorVersion := 0
  deviceFlags := 1
  medium := 0
  maxPacketsPerTransfer := 1
  maxTransferSize := 0x4000
  packetAlignmentFactor := 2
  afListOffset := 0
  afListSize := 0
  trailing := []

/-- The driver stores 2 as the largest transfer and hands out longer
messages. -/
theorem usualInitCmplt_not_negotiated :
    (∃ after, parseInitCmplt usualInitCmplt.bytes .default =
        .ok (.ok (), after) ∧ after.maxTransferSize = 2) ∧
      ¬ ∃ after, TransferSizeNegotiated usualInitCmplt .default after := by
  refine ⟨⟨_, usualInitCmplt.parse_eq .default, rfl⟩, ?_⟩
  rintro ⟨after, negotiated⟩
  have stored := negotiated.accepted
  rw [usualInitCmplt.parse_eq] at stored
  cases stored
  exact absurd negotiated.maxTransferSize (by decide)

end AndroidTether
