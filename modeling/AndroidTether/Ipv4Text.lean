import AndroidTether.NetTypes
import AndroidTether.PlainText

/-!
# Addresses as text

How `Ipv4Addr` is displayed, and which texts `parse` takes for an address.
-/

namespace AndroidTether

/-- A byte in decimal, without leading zeros. -/
def octetText (octet : UInt8) : Text :=
  Nat.toDigits 10 octet.toNat

/-- One to three decimal digits without a leading zero, in the range of a
byte. -/
def parseOctet (text : Text) : Option UInt8 :=
  let number := text.foldl
    (fun number digit => 10 * number + (digit.toNat - '0'.toNat)) 0
  if 1 ≤ text.length ∧ text.length ≤ 3 ∧ text.all Char.isDigit ∧
      (text.length = 1 ∨ text.head? ≠ some '0') ∧ number < 256 then
    some (UInt8.ofNat number)
  else none

theorem octetText_spec : ∀ number < 256,
    parseOctet (Nat.toDigits 10 number) = some (UInt8.ofNat number) ∧
      (Nat.toDigits 10 number).all Char.isDigit := by
  decide +kernel

@[simp]
theorem parseOctet_octetText (octet : UInt8) :
    parseOctet (octetText octet) = some octet := by
  rw [octetText, (octetText_spec _ octet.toNat_lt).1, UInt8.ofNat_toNat]

theorem isDigit_of_mem_octetText {octet : UInt8} {c : Char}
    (member : c ∈ octetText octet) : c.isDigit :=
  List.all_eq_true.mp (octetText_spec _ octet.toNat_lt).2 c member

namespace Ipv4Addr

def toText (addr : Ipv4Addr) : Text :=
  ['.'].intercalate (addr.octets.map octetText)

def parse (text : Text) : Option Ipv4Addr :=
  match (text.splitOn '.').map parseOctet with
  | [some a, some b, some c, some d] => some (Ipv4Addr.new a b c d)
  | _ => none

theorem parse_toText (addr : Ipv4Addr) : parse addr.toText = some addr := by
  have apart : (addr.toText.splitOn '.') = addr.octets.map octetText := by
    refine List.splitOn_intercalate '.' ?_ ?_
    · intro part partMem inside
      obtain ⟨octet, -, rfl⟩ := List.mem_map.mp partMem
      exact absurd (isDigit_of_mem_octetText inside) (by decide)
    · exact fun empty => by simpa using congrArg List.length empty
  have value := addr.beNat_octets
  rw [parse, apart, List.map_map]
  match octetsEq : addr.octets, addr.octets_length with
  | [a, b, c, d], _ =>
      rw [octetsEq] at value
      simp [Ipv4Addr.new, value]

theorem toText_ne_nil (addr : Ipv4Addr) : addr.toText ≠ [] := by
  intro empty
  have parsed := addr.parse_toText
  rw [empty] at parsed
  cases parsed

theorem mem_toText {addr : Ipv4Addr} {c : Char} (member : c ∈ addr.toText) :
    c.isDigit ∨ c = '.' := by
  have digit {octet : UInt8} (inside : c ∈ octetText octet) :
      c.isDigit ∨ c = '.' := .inl (isDigit_of_mem_octetText inside)
  match octetsEq : addr.octets, addr.octets_length with
  | [a, b, c', d], _ =>
      simp only [toText, octetsEq, List.map_cons, List.map_nil,
        List.intercalate_cons_cons, List.intercalate_singleton,
        List.mem_append, List.mem_singleton] at member
      rcases member with
        (inside | dot) | (inside | dot) | (inside | dot) | inside
      exacts [digit inside, .inr dot, digit inside, .inr dot, digit inside,
        .inr dot, digit inside]

end Ipv4Addr

end AndroidTether
