import AndroidTether.DhcpWire
import AndroidTether.DnsProxy

/-!
# The two internet checksums

`dhcp::checksum` and `dns_proxy::ip_checksum` add up the same words with loops
of their own.  On data of even length they agree, no sum of theirs leaves a
machine word, and the value stored in a zero word makes the data sum up to all
ones.
-/

namespace AndroidTether

open ByteWords Checked OnesComplement

/-- The checksum of a word string, as a number. -/
def wordChecksum (bytes : Bytes) : Nat :=
  65535 - carryFold (wordSum bytes)

theorem wordChecksum_stored {before : Bytes} (even : before.length % 2 = 0)
    (after : Bytes) :
    wordChecksum (before ++
      beBytes 2 (wordChecksum (before ++ [0, 0] ++ after)) ++ after) = 0 := by
  have stored := carryFold_stored even after
  rw [← wordChecksum] at stored
  rw [wordChecksum, stored]

/-- The two functions on some data. -/
structure ChecksumsAgree (build : Build) (bytes : Bytes) (sum : Nat) :
    Prop where
  checksum : checksum build bytes = .ok sum
  ipChecksum : ipChecksum build bytes = .ok sum
  /-- The value is the ones-complement of the sum of the words: together they
  make a multiple of `65535`, and only a sum of zero has all ones. -/
  complement : sum ≤ 65535 ∧ (wordSum bytes + sum) % 65535 = 0 ∧
    (sum = 65535 ↔ wordSum bytes = 0)
  /-- Neither the sum of the words nor its folding leaves a `u32`. -/
  bounded : ∀ value, FoldReaches (wordSum bytes) value → value < 2 ^ 32
  verifies : ∀ before after, before.length % 2 = 0 →
    bytes = before ++ [0, 0] ++ after →
      AndroidTether.checksum build (before ++ beBytes 2 sum ++ after) =
          .ok 0 ∧
        AndroidTether.ipChecksum build (before ++ beBytes 2 sum ++ after) =
          .ok 0

/-- The checksum is the ones-complement of the sum. -/
theorem wordChecksum_complement (bytes : Bytes) :
    wordChecksum bytes ≤ 65535 ∧
      (wordSum bytes + wordChecksum bytes) % 65535 = 0 ∧
      (wordChecksum bytes = 65535 ↔ wordSum bytes = 0) := by
  obtain ⟨bounded, congruent, positive⟩ := carryFold_spec (wordSum bytes)
  rw [Nat.ModEq] at congruent
  refine ⟨Nat.sub_le _ _, ?_, ?_⟩
  · rw [wordChecksum]
    omega
  · rw [wordChecksum]
    constructor
    · omega
    · intro zero
      rw [zero, carryFold_of_lt (by decide)]

/-- The two checksums are equal, and they verify. -/
theorem checksums_agree (build : Build) {bytes : Bytes}
    (even : bytes.length % 2 = 0) (bounded : bytes.length ≤ 131072) :
    ∃ sum, ChecksumsAgree build bytes sum := by
  have sumBound := wordSum_le bytes
  refine ⟨wordChecksum bytes, ?_⟩
  exact
    { checksum := checksum_eq_ok build even bounded
      ipChecksum := ipChecksum_eq_ok build bounded
      complement := wordChecksum_complement bytes
      bounded := fun value reached => by
        have atMost := reached.le
        omega
      verifies := by
        rintro before after evenFront rfl
        have stored := wordChecksum_stored evenFront after
        generalize wordChecksum (before ++ [0, 0] ++ after) = sum at stored
        have sameLength : (before ++ beBytes 2 sum ++ after).length =
            (before ++ [0, 0] ++ after).length := by
          simp only [List.length_append, beBytes_length]
          rfl
        rw [checksum_eq_ok build (by rw [sameLength]; exact even)
            (by rw [sameLength]; exact bounded),
          ipChecksum_eq_ok build (by rw [sameLength]; exact bounded)]
        exact ⟨congrArg Except.ok stored, congrArg Except.ok stored⟩ }

theorem blankHeader_checksums :
    ([0x45, 0x00, 0x01, 0x2C, 0x00, 0x00] : Bytes).length % 2 = 0 ∧
      ∃ sum, ChecksumsAgree .debug [0x45, 0x00, 0x01, 0x2C, 0x00, 0x00] sum :=
  ⟨by decide, checksums_agree .debug (by decide) (by decide)⟩

end AndroidTether
