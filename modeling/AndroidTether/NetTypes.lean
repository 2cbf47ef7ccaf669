import AndroidTether.Checked

/-!
# Shared constants, addresses and errors

The parts of `net_types.rs` and `error.rs` that the modelled functions read.
`usize` is modelled by `Nat`: every sum of the modelled code is bounded by a
buffer length plus `2 ^ 33`, far below `2 ^ 64`.
-/

namespace AndroidTether

def rndisBufSize : Nat := 32768
def ethBufSize : Nat := 2048

def arpEthertype : Nat := 0x0806
def arpHwEthernet : Nat := 1
def arpOpRequest : Nat := 1
def arpOpReply : Nat := 2

/-- `size_of::<EthHdr>()` of the packed header struct. -/
def ethHdrSize : Nat := 14

/-- An IPv4 address as the number `u32::from` gives. -/
abbrev Ipv4Addr := UInt32

/-- The big-endian bytes of an address, as they appear on the wire. -/
def Ipv4Addr.octets (addr : Ipv4Addr) : Bytes :=
  ByteWords.beBytes 4 addr.toNat

@[simp]
theorem Ipv4Addr.octets_length (addr : Ipv4Addr) : addr.octets.length = 4 :=
  ByteWords.beBytes_length 4 _

@[simp]
theorem Ipv4Addr.beNat_octets (addr : Ipv4Addr) :
    ByteWords.beNat addr.octets = addr.toNat := by
  have bound := addr.toNat_lt
  rw [octets, ByteWords.beNat_beBytes]
  omega

theorem Ipv4Addr.octets_injective {first second : Ipv4Addr}
    (octetsEq : first.octets = second.octets) : first = second := by
  have values := congrArg ByteWords.beNat octetsEq
  rw [beNat_octets, beNat_octets] at values
  exact UInt32.toNat_inj.mp values

/-- The address whose bytes begin at `offset`. -/
def Ipv4Addr.readAt (bytes : Bytes) (offset : Nat) : Ipv4Addr :=
  UInt32.ofNat (Checked.beWordAt bytes offset 4)

theorem Ipv4Addr.readAt_eq_iff {bytes : Bytes} {offset : Nat}
    {addr : Ipv4Addr} :
    Ipv4Addr.readAt bytes offset = addr ↔
      Checked.beWordAt bytes offset 4 = addr.toNat := by
  have bound := Checked.beWordAt_lt bytes offset 4
  rw [← UInt32.toNat_inj, Ipv4Addr.readAt, UInt32.toNat_ofNat']
  omega

def Ipv4Addr.unspecified : Ipv4Addr := 0

/-- `Ipv4Addr::new`. -/
def Ipv4Addr.new (a b c d : UInt8) : Ipv4Addr :=
  UInt32.ofNat (ByteWords.beNat [a, b, c, d])

/-- A hardware address, always six bytes long. -/
structure MacAddr where
  bytes : Bytes
  length_eq : bytes.length = 6
  deriving DecidableEq

def MacAddr.broadcast : MacAddr :=
  ⟨[0xFF, 0xFF, 0xFF, 0xFF, 0xFF, 0xFF], rfl⟩

theorem MacAddr.bytes_eq (mac : MacAddr) :
    ∃ a b c d e f, mac.bytes = [a, b, c, d, e, f] := by
  obtain ⟨bytes, lengthEq⟩ := mac
  match bytes, lengthEq with
  | [a, b, c, d, e, f], _ => exact ⟨a, b, c, d, e, f, rfl⟩

/-- The six bytes at `offset`. -/
def MacAddr.readAt (bytes : Bytes) (offset : Nat)
    (inside : offset + 6 ≤ bytes.length) : MacAddr :=
  ⟨(bytes.drop offset).take 6, by simp; omega⟩

structure EthHdr where
  dst : MacAddr
  src : MacAddr
  ethertype : Nat

/-- The packed layout. -/
def EthHdr.bytes (eth : EthHdr) : Bytes :=
  eth.dst.bytes ++ eth.src.bytes ++ ByteWords.beBytes 2 eth.ethertype

@[simp]
theorem EthHdr.bytes_length (eth : EthHdr) : eth.bytes.length = 14 := by
  simp [EthHdr.bytes, MacAddr.length_eq]

inductive DnsMode
  | system
  | doH
  | doT
  deriving DecidableEq

inductive TetherError
  | usb (message : String)
  | rndis (message : String)
  | deviceNotFound (message : String)
  | network (message : String)
  | dhcp (message : String)
  | config (message : String)
  | bufferTooSmall (need got : Nat)
  deriving DecidableEq, Repr

/-- How the crate is compiled: whether a fixed-width sum that overflows
panics or wraps around. -/
inductive Build
  | debug
  | release
  deriving DecidableEq, Repr

/-- `left + right` on `u32`. -/
def Build.addU32 (build : Build) (left right : Nat) : Checked Nat :=
  if left + right < 2 ^ 32 then .ok (left + right)
  else match build with
    | .debug => .error .arithmeticOverflow
    | .release => .ok ((left + right) % 2 ^ 32)

/-- `left + right` on `u8`. -/
def Build.addU8 (build : Build) (left right : UInt8) : Checked UInt8 :=
  if left.toNat + right.toNat < 2 ^ 8 then .ok (left + right)
  else match build with
    | .debug => .error .arithmeticOverflow
    | .release => .ok (left + right)

namespace Build

theorem addU8_eq_ok {build : Build} {left right sum : UInt8}
    (added : build.addU8 left right = .ok sum) : sum = left + right := by
  unfold addU8 at added
  split at added
  · exact (Except.ok.inj added).symm
  · cases build with
    | debug => cases added
    | release => exact (Except.ok.inj added).symm

theorem addU32_of_lt (build : Build) {left right : Nat}
    (fits : left + right < 2 ^ 32) :
    build.addU32 left right = .ok (left + right) := by
  simp only [addU32, fits, if_true]

theorem addU32_debug_of_le {left right : Nat}
    (overflows : 2 ^ 32 ≤ left + right) :
    addU32 .debug left right = .error .arithmeticOverflow := by
  simp only [addU32, not_lt.mpr overflows, if_false]

theorem addU32_release_of_le {left right : Nat}
    (overflows : 2 ^ 32 ≤ left + right) :
    addU32 .release left right = .ok ((left + right) % 2 ^ 32) := by
  simp only [addU32, not_lt.mpr overflows, if_false]

theorem addU32_lt {build : Build} {left right sum : Nat}
    (added : build.addU32 left right = .ok sum) : sum < 2 ^ 32 := by
  by_cases fits : left + right < 2 ^ 32
  · rw [addU32_of_lt build fits] at added
    cases added
    exact fits
  · cases build with
    | debug =>
        rw [addU32_debug_of_le (not_lt.mp fits)] at added
        cases added
    | release =>
        rw [addU32_release_of_le (not_lt.mp fits)] at added
        cases added
        exact Nat.mod_lt _ (by decide)

end Build

end AndroidTether
