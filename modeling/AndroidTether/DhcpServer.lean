import AndroidTether.DhcpLease
import AndroidTether.RndisRoundTrip

/-!
# The DHCP client against a server on the wire

The server's replies travel in data packets among other traffic and control
messages.  `discover` takes from such transfers just what the server says.
-/

namespace AndroidTether

open ByteWords Checked

section Layout

variable {front block rest : Bytes}

theorem getD_behind {byte : UInt8} {position : Nat}
    (position_eq : front.length = position) :
    (front ++ byte :: rest).getD position 0 = byte := by
  subst position_eq
  simp

theorem beWordAt_behind {width value offset : Nat}
    (position : front.length = offset) (blockEq : block = beBytes width value)
    (fits : value < 256 ^ width) :
    beWordAt (front ++ (block ++ rest)) offset width = value := by
  have cut : ((front ++ (block ++ rest)).drop offset).take width =
      beBytes width value := by
    rw [List.drop_left' position, blockEq, List.take_left' (beBytes_length ..)]
  rw [beWordAt_beBytes cut, Nat.mod_eq_of_lt fits]

end Layout

/-- A reply to our transaction as a server puts it on the wire.  The client
does not look at the fields that are given as bytes. -/
structure ServerMessage where
  macs : Bytes
  macs_length : macs.length = 12
  verIhl : UInt8
  /-- From the type of service to the time to live. -/
  ipHead : Bytes
  ipHead_length : ipHead.length = 8
  /-- From the checksum to the last IP option. -/
  ipTail : Bytes
  ipTail_length : 10 + ipTail.length = (verIhl &&& 0x0F).toNat * 4
  ipTail_long : 10 ≤ ipTail.length
  sourcePort : Bytes
  sourcePort_length : sourcePort.length = 2
  udpTail : Bytes
  udpTail_length : udpTail.length = 4
  /-- `op` to `hops` -/
  bootpHead : Bytes
  bootpHead_length : bootpHead.length = 4
  /-- `secs` to `ciaddr` -/
  bootpMiddle : Bytes
  bootpMiddle_length : bootpMiddle.length = 8
  yiaddr : Ipv4Addr
  /-- `siaddr` to `file` -/
  bootpTail : Bytes
  bootpTail_length : bootpTail.length = 216
  items : List AreaItem
  ending : AreaEnd
  whole : ∀ code olen value pad mark short,
    ending ≠ .cutOff code olen value pad mark short

namespace ServerMessage

variable (message : ServerMessage)

def ipUdp : Bytes :=
  message.verIhl :: (message.ipHead ++ (0x11 :: (message.ipTail ++
    (message.sourcePort ++ (beBytes 2 68 ++ message.udpTail)))))

def bootp : Bytes :=
  message.bootpHead ++ (beBytes 4 discoverXid ++ (message.bootpMiddle ++
    (message.yiaddr.octets ++ (message.bootpTail ++
      beBytes 4 dhcpMagicCookie))))

def frame : Bytes :=
  message.macs ++ (beBytes 2 0x0800 ++ (message.ipUdp ++
    (message.bootp ++ encodedArea message.items message.ending)))

/-- What the server wants to say. -/
def meaning : DhcpMessage :=
  .ofOptions message.yiaddr (encodedOptions message.items)

theorem ipUdp_length :
    message.ipUdp.length = (message.verIhl &&& 0x0F).toNat * 4 + 8 := by
  have head := message.ipHead_length
  have tail := message.ipTail_length
  have port := message.sourcePort_length
  have udp := message.udpTail_length
  simp only [ipUdp, List.length_cons, List.length_append, beBytes_length]
  omega

theorem bootp_length : message.bootp.length = 240 := by
  have head := message.bootpHead_length
  have middle := message.bootpMiddle_length
  have tail := message.bootpTail_length
  simp only [bootp, List.length_append, beBytes_length,
    Ipv4Addr.octets_length]
  omega

theorem dhcpStart_frame :
    dhcpStart message.frame = 14 + message.ipUdp.length := by
  have first : message.frame.getD 14 0 = message.verIhl := by
    have split : message.frame = (message.macs ++ beBytes 2 0x0800) ++
        message.verIhl :: (message.ipUdp.tail ++ (message.bootp ++
          encodedArea message.items message.ending)) := by
      simp [frame, ipUdp]
    rw [split]
    exact getD_behind (by simp [message.macs_length])
  rw [dhcpStart, first, ipUdp_length, ethHdrSize]
  omega

theorem optionArea_frame :
    optionArea message.frame = encodedArea message.items message.ending := by
  have front : (message.macs ++ (beBytes 2 0x0800 ++ (message.ipUdp ++
      message.bootp))).length = 14 + message.ipUdp.length + 240 := by
    simp [message.macs_length, bootp_length]
    omega
  have split : message.frame = (message.macs ++ (beBytes 2 0x0800 ++
      (message.ipUdp ++ message.bootp))) ++
        encodedArea message.items message.ending := by
    simp only [frame, List.append_assoc]
  rw [optionArea, dhcpStart_frame, split, List.drop_left' front]

theorem frame_length :
    message.frame.length = 14 + message.ipUdp.length + 240 +
      (encodedArea message.items message.ending).length := by
  simp only [frame, List.length_append, beBytes_length, message.macs_length,
    bootp_length]
  omega

theorem beWordAt_bootp {front block rest : Bytes} {width value offset : Nat}
    (split : message.bootp = front ++ (block ++ rest))
    (position : front.length = offset) (blockEq : block = beBytes width value)
    (fits : value < 256 ^ width) :
    beWordAt message.frame (dhcpStart message.frame + offset) width =
      value := by
  have whole : message.frame = (message.macs ++ (beBytes 2 0x0800 ++
      (message.ipUdp ++ front))) ++
        (block ++ (rest ++ encodedArea message.items message.ending)) := by
    rw [frame, split]
    simp only [List.append_assoc]
  rw [dhcpStart_frame, whole]
  refine beWordAt_behind ?_ blockEq fits
  simp only [List.length_append, beBytes_length, message.macs_length, position]
  omega

theorem addressed : AddressedToClient message.frame := by
  have start := message.dhcpStart_frame
  have length := message.frame_length
  have udpLength := message.ipUdp_length
  have ipLength := message.ipTail_length
  have ipLong := message.ipTail_long
  have macs := message.macs_length
  have head := message.ipHead_length
  have port := message.sourcePort_length
  refine ⟨by omega, ?_, ?_, by omega, ?_⟩
  · exact beWordAt_behind macs rfl (by decide)
  · have split : message.frame = (message.macs ++ (beBytes 2 0x0800 ++
        message.verIhl :: message.ipHead)) ++ 0x11 :: (message.ipTail ++
          (message.sourcePort ++ (beBytes 2 68 ++ message.udpTail)) ++
            (message.bootp ++
              encodedArea message.items message.ending)) := by
      simp [frame, ipUdp]
    rw [split]
    exact getD_behind (by simp [macs, head])
  · have split : message.frame = (message.macs ++ (beBytes 2 0x0800 ++
        message.verIhl :: (message.ipHead ++ 0x11 :: (message.ipTail ++
          message.sourcePort)))) ++ (beBytes 2 68 ++ (message.udpTail ++
            (message.bootp ++
              encodedArea message.items message.ending))) := by
      simp [frame, ipUdp]
    rw [start, split]
    refine beWordAt_behind ?_ rfl (by decide)
    simp only [List.length_append, List.length_cons, beBytes_length, macs,
      head, port]
    omega

theorem headerInside : HeaderInside message.frame := by
  have start := message.dhcpStart_frame
  have length := message.frame_length
  unfold HeaderInside
  omega

theorem isReply : IsReply message.frame := by
  constructor
  · refine @beWordAt_bootp message (message.bootpHead ++
      (beBytes 4 discoverXid ++ (message.bootpMiddle ++
        (message.yiaddr.octets ++ message.bootpTail))))
      (beBytes 4 dhcpMagicCookie) [] 4 _ _ ?_ ?_ rfl (by decide)
    · simp only [bootp, List.append_assoc, List.append_nil]
    · simp only [List.length_append, beBytes_length, Ipv4Addr.octets_length,
        message.bootpHead_length, message.bootpMiddle_length,
        message.bootpTail_length]
  · exact message.beWordAt_bootp rfl message.bootpHead_length rfl (by decide)

theorem yiaddr_frame :
    Ipv4Addr.readAt message.frame (dhcpStart message.frame + 16) =
      message.yiaddr := by
  rw [Ipv4Addr.readAt_eq_iff]
  refine @beWordAt_bootp message (message.bootpHead ++
    (beBytes 4 discoverXid ++ message.bootpMiddle)) message.yiaddr.octets
    (message.bootpTail ++ beBytes 4 dhcpMagicCookie) 4 _ _ ?_ ?_ rfl
    message.yiaddr.toNat_lt
  · simp only [bootp, List.append_assoc]
  · simp only [List.length_append, beBytes_length, message.bootpHead_length,
      message.bootpMiddle_length]

/-- The client understands what the server wants to say. -/
theorem readMessage_frame : readMessage message.frame = some message.meaning := by
  rw [readMessage, if_pos ⟨message.addressed, message.headerInside,
    message.isReply⟩, message.yiaddr_frame, message.optionArea_frame,
    decodedOptions_encodedArea]
  rfl

theorem remainder_encodedArea (items : List AreaItem) (ending : AreaEnd) :
    optionDelimiter.remainder (encodedArea items ending) = ending.bytes := by
  have cut := optionDelimiter.items_flatten_append_remainder
    (encodedArea items ending)
  rw [items_encodedArea, encodedArea, List.flatMap_def] at cut
  exact List.append_cancel_left cut

theorem soundFrame : SoundFrame message.frame := by
  intro _
  refine ⟨message.headerInside, fun _ => ?_⟩
  rw [message.optionArea_frame, remainder_encodedArea]
  have whole := message.whole
  rintro ⟨code, olen, value, bytesEq, mark, pad, short⟩
  cases ending : message.ending with
  | nothing =>
      rw [ending] at bytesEq
      cases bytesEq
  | endMark rest =>
      rw [ending] at bytesEq
      exact mark (List.cons.inj bytesEq).1.symm
  | codeOnly =>
      rw [ending] at bytesEq
      cases bytesEq
  | cutOff => exact whole _ _ _ _ _ _ ending

end ServerMessage

theorem ServerMessage.nonempty (message : ServerMessage) :
    message.frame ≠ [] := by
  intro empty
  have length := message.frame_length
  rw [empty, List.length_nil] at length
  omega

/-- What the device puts on the wire while the client listens. -/
inductive ServedItem
  | reply (message : ServerMessage)
      (representable : 44 + message.frame.length < 2 ^ 32)
  | traffic (encoded : EncodedFrame)
      (foreign : ¬ AddressedToClient encoded.ethFrame)
  | control (message : OtherMessage)

namespace ServedItem

def item : ServedItem → TransferItem
  | .reply message representable =>
    .frame (.ofFrame message.frame message.nonempty representable)
  | .traffic encoded _ => .frame encoded
  | .control message => .other message

def message : ServedItem → Option DhcpMessage
  | .reply message _ => some message.meaning
  | .traffic .. | .control _ => none

theorem readMessage_ethFrame (served : ServedItem) :
    served.item.ethFrame.bind readMessage = served.message := by
  cases served with
  | reply message representable => exact message.readMessage_frame
  | traffic encoded foreign => exact if_neg fun reply => foreign reply.1
  | control message => rfl

theorem soundFrame {served : ServedItem} {frame : Bytes}
    (frameEq : served.item.ethFrame = some frame) : SoundFrame frame := by
  cases served with
  | reply message representable =>
      cases frameEq
      exact message.soundFrame
  | traffic encoded foreign =>
      cases frameEq
      intro addressed
      exact absurd addressed foreign
  | control message => cases frameEq

end ServedItem

/-- One transfer from the device, with what may follow it. -/
structure Service where
  items : List ServedItem
  trailer : Trailer
  behind : Nat → UInt8
  fits : (transfer (items.map ServedItem.item) trailer).length ≤
    rndisBufSize

namespace Service

variable (service : Service)

def transfer : Transfer where
  data := AndroidTether.transfer (service.items.map ServedItem.item)
    service.trailer
  behind := service.behind
  fits := service.fits

def messages : List DhcpMessage :=
  service.items.filterMap ServedItem.message

theorem not_offsetOverflows {message : Slice UInt8}
    (member : message ∈ AndroidTether.messages service.transfer.data) :
    ¬ OffsetOverflows message := by
  obtain ⟨item, -, messageEq⟩ := message_of_transfer member
  rw [messageEq]
  exact item.not_offsetOverflows _

theorem handedFrames_content (build : Build) :
    (handedFrames build service.transfer.data).map Slice.content =
      (service.items.map ServedItem.item).filterMap
        TransferItem.ethFrame := by
  have handed := @packetFrames_of_decodes build service.transfer.data
    fun message member => ⟨_, dataPacket_of_fits build
      (service.not_offsetOverflows member)⟩
  have read := packetFrames_transfer build
    (service.items.map ServedItem.item) service.trailer
  have same : handedFrames build service.transfer.data =
      referenceFrames service.transfer.data :=
    Except.ok.inj (handed.symm.trans read)
  rw [same]
  exact referenceFrames_transfer _ _

theorem soundTransfer (build : Build) :
    SoundTransfer build service.transfer where
  fits _ member := service.not_offsetOverflows member
  frames frame member := by
    have content := @List.mem_map_of_mem _ _ _ _ Slice.content member
    rw [handedFrames_content] at content
    obtain ⟨item, itemMem, frameEq⟩ := List.mem_filterMap.mp content
    obtain ⟨served, -, rfl⟩ := List.mem_map.mp itemMem
    exact served.soundFrame frameEq

/-- What is heard in a transfer is what the server says in it. -/
theorem heardIn_transfer (build : Build) :
    heardIn build service.transfer = service.messages := by
  have byContent : heardIn build service.transfer =
      ((handedFrames build service.transfer.data).map
        Slice.content).filterMap readMessage := by
    rw [heardIn, List.filterMap_map]
    rfl
  rw [byContent, handedFrames_content, List.filterMap_filterMap,
    List.filterMap_map, messages]
  exact List.filterMap_congr fun served _ => served.readMessage_ethFrame

end Service

/-- A device that serves one transfer with each call. -/
def served (services : Nat → Service) : Exchange where
  receive call := .ok (services call).transfer
  send _ := .ok ()

theorem served_sound (build : Build) (services : Nat → Service) :
    SoundExchange build (served services) where
  sends _ := rfl
  receives call := ⟨_, rfl, (services call).soundTransfer build⟩

end AndroidTether
