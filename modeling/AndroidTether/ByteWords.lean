import Mathlib.Data.List.Basic
import Mathlib.Data.Nat.Bitwise
import Mathlib.Tactic.Ring

/-!
# Machine words inside byte strings

Fixed-width little- and big-endian words read from and written to lists of
bytes, and the overwriting of a block inside a buffer.  Values are natural
numbers; writing keeps exactly the low bytes, as a machine cast does.
-/

abbrev Bytes := List UInt8

namespace ByteWords

/-- Value of a byte string whose least significant byte comes first. -/
def leNat : Bytes → Nat
  | [] => 0
  | byte :: bytes => byte.toNat + 256 * leNat bytes

/-- The low `width` bytes of a number, least significant byte first. -/
def leBytes : Nat → Nat → Bytes
  | 0, _ => []
  | width + 1, value => UInt8.ofNat value :: leBytes width (value / 256)

/-- Value of a byte string whose most significant byte comes first. -/
def beNat (bytes : Bytes) : Nat :=
  leNat bytes.reverse

/-- The low `width` bytes of a number, most significant byte first. -/
def beBytes (width value : Nat) : Bytes :=
  (leBytes width value).reverse

@[simp]
theorem leBytes_length (width value : Nat) :
    (leBytes width value).length = width := by
  induction width generalizing value with
  | zero => rfl
  | succ width ih => simp [leBytes, ih]

@[simp]
theorem beBytes_length (width value : Nat) :
    (beBytes width value).length = width := by
  simp [beBytes]

theorem leNat_lt (bytes : Bytes) : leNat bytes < 256 ^ bytes.length := by
  induction bytes with
  | nil => simp [leNat]
  | cons byte bytes ih =>
      have byteBound : byte.toNat < 256 := byte.toNat_lt
      simp only [leNat, List.length_cons, pow_succ]
      omega

theorem beNat_lt (bytes : Bytes) : beNat bytes < 256 ^ bytes.length := by
  simpa [beNat] using leNat_lt bytes.reverse

@[simp]
theorem leNat_leBytes (width value : Nat) :
    leNat (leBytes width value) = value % 256 ^ width := by
  induction width generalizing value with
  | zero => simp [leBytes, leNat, Nat.mod_one]
  | succ width ih =>
      simp only [leBytes, leNat, ih, UInt8.toNat_ofNat']
      change value % 256 + 256 * (value / 256 % 256 ^ width) =
        value % 256 ^ (width + 1)
      rw [pow_succ, Nat.mul_comm (256 ^ width) 256, Nat.mod_mul]

@[simp]
theorem beNat_beBytes (width value : Nat) :
    beNat (beBytes width value) = value % 256 ^ width := by
  simp [beNat, beBytes]

theorem leBytes_leNat (bytes : Bytes) :
    leBytes bytes.length (leNat bytes) = bytes := by
  induction bytes with
  | nil => rfl
  | cons byte bytes ih =>
      have byteBound := byte.toNat_lt
      have low : (byte.toNat + 256 * leNat bytes) / 256 = leNat bytes := by
        omega
      have byteEq : UInt8.ofNat (byte.toNat + 256 * leNat bytes) = byte := by
        rw [← UInt8.toNat_inj, UInt8.toNat_ofNat']
        omega
      rw [List.length_cons, leNat, leBytes, low, ih, byteEq]

theorem beBytes_beNat (bytes : Bytes) :
    beBytes bytes.length (beNat bytes) = bytes := by
  have reversed := leBytes_leNat bytes.reverse
  rw [List.length_reverse] at reversed
  rw [beBytes, beNat, reversed, List.reverse_reverse]

theorem beBytes_two (value : Nat) :
    [UInt8.ofNat (value >>> 8), UInt8.ofNat value] = beBytes 2 value := by
  rw [Nat.shiftRight_eq_div_pow]
  rfl

/-- Overwrite the block of `buffer` that starts at `offset`. -/
def patch (buffer : Bytes) (offset : Nat) (block : Bytes) : Bytes :=
  buffer.take offset ++ block ++ buffer.drop (offset + block.length)

theorem patch_length {buffer block : Bytes} {offset : Nat}
    (fits : offset + block.length ≤ buffer.length) :
    (patch buffer offset block).length = buffer.length := by
  simp [patch]
  omega

/-- Writing right behind an already written prefix extends that prefix. -/
theorem patch_append (written rest block : Bytes) :
    patch (written ++ rest) written.length block =
      (written ++ block) ++ rest.drop block.length := by
  simp [patch, List.drop_append]

end ByteWords
