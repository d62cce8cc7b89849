import Mathlib.Data.Nat.Find
import Checksum.Midstate
import Checksum.Proofs.Blocks
import Checksum.Proofs.Positional

/-!
# Padding a byte string at once

The padding of the standards, written for a byte string that is there as a whole: the byte `0x80`,
the fewest zeros that leave eight bytes to the end of a block, and the length in bits modulo
`2 ^ 64`. It depends on how many bytes stand before it and on the length that is claimed for them,
which are the same number for a message, but not behind a saved state that claims another length.
Closing a `Buffer` comes to the same blocks.
-/

namespace Checksum

namespace Padding

theorem exists_zeroRun (n : Nat) : ∃ k, (n + 1 + k) % 64 = 56 := ⟨119 - n % 64, by omega⟩

/-- The least number of zeros that brings `n` bytes and the byte `0x80` to 56 modulo 64. -/
def zeroRun (n : Nat) : Nat := Nat.find (exists_zeroRun n)

/-- The length in bits of `n` bytes, modulo `2 ^ 64`, in eight bytes. -/
def lengthField (order : ByteOrder) (n : Nat) : Bytes :=
  order.arrange (Bytes.digits 8 (8 * n % 2 ^ 64))

/-- What follows `n` bytes that are said to end an input of `length` bytes. -/
def bytes (order : ByteOrder) (n length : Nat) : Bytes :=
  0x80 :: List.replicate (zeroRun n) 0 ++ lengthField order length

theorem zeroRun_spec (n : Nat) : (n + 1 + zeroRun n) % 64 = 56 := Nat.find_spec (exists_zeroRun n)

theorem zeroRun_le (n : Nat) {k : Nat} (h : (n + 1 + k) % 64 = 56) : zeroRun n ≤ k :=
  Nat.find_min' (exists_zeroRun n) h

theorem zeroRun_lt (n : Nat) : zeroRun n < 64 := by
  have h := zeroRun_le n (k := (119 - n % 64) % 64) (by omega)
  omega

theorem zeroRun_eq_of_lt {n k : Nat} (h : (n + 1 + k) % 64 = 56) (hk : k < 64) : zeroRun n = k := by
  have hspec := zeroRun_spec n
  have hlt := zeroRun_lt n
  omega

theorem zeroRun_mod (n : Nat) : zeroRun (n % 64) = zeroRun n := by
  have hspec := zeroRun_spec n
  exact zeroRun_eq_of_lt (by omega) (zeroRun_lt n)

@[simp] theorem length_lengthField (order : ByteOrder) (n : Nat) :
    (lengthField order n).length = 8 := by
  rw [lengthField, ByteOrder.length_arrange, Bytes.length_digits]

/-- The padding ends at the end of a block. -/
theorem length_bytes_mod (order : ByteOrder) (n length : Nat) :
    (n + (bytes order n length).length) % 64 = 0 := by
  have h := zeroRun_spec n
  simp only [bytes, List.length_append, List.length_cons, List.length_replicate, length_lengthField]
  omega

/-- Nothing is left over behind the blocks of a padded byte string. -/
theorem rest_append_bytes (order : ByteOrder) (bs : Bytes) (length : Nat) :
    Block.rest (bs ++ bytes order bs.length length) = [] := by
  apply List.length_eq_zero_iff.mp
  rw [Block.length_rest, List.length_append, length_bytes_mod]

/-- Counting bits in a 64-bit word. -/
theorem bytes64_mul_eight (order : ByteOrder) (length : UInt64) :
    order.bytes64 (length * 8) = lengthField order length.toNat := by
  rw [ByteOrder.bytes64_eq, lengthField, UInt64.toNat_mul, Nat.mul_comm]
  rfl

theorem lengthField_mod (order : ByteOrder) (n : Nat) :
    lengthField order (n % 2 ^ 64) = lengthField order n := by
  rw [lengthField, lengthField, Nat.mul_mod_mod]

/-- Eight times a number modulo `2 ^ 64` is known from the number modulo `2 ^ 61`, and the other way round. -/
theorem lengthField_eq_iff (order : ByteOrder) {m n : Nat} :
    lengthField order m = lengthField order n ↔ m % 2 ^ 61 = n % 2 ^ 61 := by
  constructor
  · intro h
    have hdigits := congrArg order.arrange h
    rw [lengthField, lengthField, ByteOrder.arrange_arrange, ByteOrder.arrange_arrange] at hdigits
    have hvalue := congrArg Bytes.value hdigits
    rw [Bytes.value_digits, Bytes.value_digits] at hvalue
    omega
  · intro h
    have hbits : 8 * m % 2 ^ 64 = 8 * n % 2 ^ 64 := by omega
    rw [lengthField, lengthField, hbits]

end Padding

namespace Buffer

theorem bytes_close (b : Buffer) (field : Bytes) (h : field.length = 8) :
    Block.bytes (b.close field h)
      = b.bytes ++ (0x80 :: List.replicate (Padding.zeroRun b.bytes.length) 0 ++ field) := by
  have hlt := b.length_lt
  by_cases hfits : b.bytes.length < 56
  · have hrun : Padding.zeroRun b.bytes.length = 55 - b.bytes.length :=
      Padding.zeroRun_eq_of_lt (by omega) (by omega)
    rw [close, dif_pos hfits, hrun]
    simp only [Block.bytes_cons, Block.bytes_nil, Block.toList_ofBytes, List.append_assoc,
      List.append_nil]
  · have hrun : Padding.zeroRun b.bytes.length = (63 - b.bytes.length) + 56 :=
      Padding.zeroRun_eq_of_lt (by omega) (by omega)
    rw [close, dif_neg hfits, hrun]
    simp only [Block.bytes_cons, Block.bytes_nil, Block.toList_ofBytes, List.append_assoc,
      List.append_nil, List.cons_append, ← List.replicate_append_replicate]

/-- Closing behind a byte string completes the blocks of the padded byte string. -/
theorem whole_append_close (bs field : Bytes) (h : field.length = 8) :
    Block.whole bs ++ (restOf bs).close field h
      = Block.whole (bs ++ (0x80 :: List.replicate (Padding.zeroRun bs.length) 0 ++ field)) := by
  have hbytes : Block.bytes (Block.whole bs ++ (restOf bs).close field h) ++ []
      = bs ++ (0x80 :: List.replicate (Padding.zeroRun bs.length) 0 ++ field) := by
    rw [List.append_nil, Block.bytes_append, bytes_close, bytes_restOf, Block.length_rest,
      Padding.zeroRun_mod, ← List.append_assoc, Block.bytes_whole]
  exact (Block.whole_unique _ hbytes (by decide)).1.symm

end Buffer

end Checksum
