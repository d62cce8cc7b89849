import Mathlib.Algebra.Group.Nat.Defs
import Mathlib.Data.List.Induction
import Checksum.ByteOrder

/-!
# Numbers in base 256

Reading and writing words by shifts is reading and writing numbers in base 256, most significant
byte first: `Bytes.digits` writes a number in a fixed number of bytes, and so modulo a power of 256,
and `Bytes.value` reads it back. A byte order only turns the list of bytes round or leaves it. From
this the two directions of every word format are inverse to each other. Words written one behind
another are fields of one width, and a field is found by its place.
-/

namespace Checksum

namespace Bytes

/-- The number that the bytes spell, the most significant one first. -/
def value (bs : Bytes) : Nat := bs.foldl (fun n b => 256 * n + b.toNat) 0

/-- The last `k` digits of a number, the most significant one first. -/
def digits : Nat → Nat → Bytes
  | 0, _ => []
  | k + 1, n => digits k (n / 256) ++ [UInt8.ofNat n]

@[simp] theorem value_nil : value [] = 0 := rfl

@[simp] theorem value_append_singleton (bs : Bytes) (b : UInt8) :
    value (bs ++ [b]) = 256 * value bs + b.toNat := by
  simp [value]

@[simp] theorem length_digits (k n : Nat) : (digits k n).length = k := by
  induction k generalizing n with
  | zero => rfl
  | succ k ih => simp [digits, ih]

theorem value_digits (k n : Nat) : value (digits k n) = n % 256 ^ k := by
  induction k generalizing n with
  | zero => simp [digits, Nat.mod_one]
  | succ k ih =>
      have hsplit : n % 256 ^ (k + 1) = n % 256 + 256 * (n / 256 % 256 ^ k) := by
        rw [Nat.pow_succ', Nat.mod_mul]
      rw [digits, value_append_singleton, ih, UInt8.toNat_ofNat', hsplit, Nat.add_comm]

theorem value_lt (bs : Bytes) : value bs < 256 ^ bs.length := by
  induction bs using List.reverseRecOn with
  | nil => simp
  | append_singleton bs b ih =>
      have hb : b.toNat < 256 := b.toNat_lt
      rw [value_append_singleton, List.length_append, List.length_singleton, Nat.pow_succ]
      omega

theorem digits_value (bs : Bytes) : digits bs.length (value bs) = bs := by
  induction bs using List.reverseRecOn with
  | nil => rfl
  | append_singleton bs b ih =>
      have hb : b.toNat < 256 := b.toNat_lt
      have hhead : (256 * value bs + b.toNat) / 256 = value bs := by omega
      have hlast : UInt8.ofNat (256 * value bs + b.toNat) = b := by
        apply UInt8.toNat_inj.mp
        rw [UInt8.toNat_ofNat']
        omega
      rw [value_append_singleton, List.length_append, List.length_singleton, digits, hhead, ih, hlast]

/-! ### Fields of one width -/

section Fields

variable {α : Type} {k : Nat} {field : α → Bytes}

/-- Cutting between two fields. -/
theorem take_flatMap (h : ∀ x, (field x).length = k) (xs : List α) (n : Nat) :
    (xs.flatMap field).take (k * n) = (xs.take n).flatMap field := by
  induction xs generalizing n with
  | nil => simp
  | cons x xs ih =>
      cases n with
      | zero => simp
      | succ n =>
          have hwidth : k * (n + 1) = (field x).length + k * n := by
            rw [h, Nat.mul_succ, Nat.add_comm]
          rw [List.flatMap_cons, hwidth, List.take_length_add_append, ih, List.take_succ_cons,
            List.flatMap_cons]

theorem drop_flatMap (h : ∀ x, (field x).length = k) (xs : List α) (n : Nat) :
    (xs.flatMap field).drop (k * n) = (xs.drop n).flatMap field := by
  induction xs generalizing n with
  | nil => simp
  | cons x xs ih =>
      cases n with
      | zero => simp
      | succ n =>
          have hwidth : k * (n + 1) = (field x).length + k * n := by
            rw [h, Nat.mul_succ, Nat.add_comm]
          rw [List.flatMap_cons, hwidth, List.drop_length_add_append, ih, List.drop_succ_cons]

theorem length_flatMap (h : ∀ x, (field x).length = k) (xs : List α) :
    (xs.flatMap field).length = k * xs.length := by
  rw [List.length_flatMap]
  simp only [h, List.map_const', List.sum_replicate_nat, Nat.mul_comm]

/-- The field in a place, whatever comes behind the fields. -/
theorem field_flatMap (h : ∀ x, (field x).length = k) (xs : List α) (behind : Bytes) {i : Nat}
    (hi : i < xs.length) : ((xs.flatMap field ++ behind).drop (k * i)).take k = field xs[i] := by
  have hle : k * i ≤ (xs.flatMap field).length := by
    rw [length_flatMap h]
    exact Nat.mul_le_mul_left k (Nat.le_of_lt hi)
  rw [List.drop_append_of_le_length hle, drop_flatMap h, List.drop_eq_getElem_cons hi,
    List.flatMap_cons, List.append_assoc, List.take_left' (h _)]

/-- The fields are known from what is written of them. -/
theorem flatMap_inj (h : ∀ x, (field x).length = k) (hfield : Function.Injective field) {xs ys : List α}
    (hlength : xs.length = ys.length) (heq : xs.flatMap field = ys.flatMap field) : xs = ys := by
  induction xs generalizing ys with
  | nil => exact (List.length_eq_zero_iff.mp hlength.symm).symm
  | cons x xs ih =>
      obtain ⟨y, ys, rfl⟩ := List.exists_cons_of_length_eq_add_one hlength.symm
      rw [List.flatMap_cons, List.flatMap_cons] at heq
      obtain ⟨hfirst, hrest⟩ := List.append_inj heq (by rw [h, h])
      rw [hfield hfirst, ih (Nat.succ_inj.mp hlength) hrest]

end Fields

end Bytes

namespace ByteOrder

open Bytes

theorem bytes32_eq (order : ByteOrder) (w : UInt32) :
    order.bytes32 w = order.arrange (digits 4 w.toNat) := by
  have hdigit (s : UInt32) (d : Nat) (hd : 2 ^ (s.toNat % 32) = d) :
      (w >>> s).toUInt8 = UInt8.ofNat (w.toNat / d) := by
    apply UInt8.toNat_inj.mp
    rw [UInt32.toNat_toUInt8, UInt32.toNat_shiftRight, Nat.shiftRight_eq_div_pow, hd,
      UInt8.toNat_ofNat']
  have hlast : w.toUInt8 = UInt8.ofNat w.toNat := by
    apply UInt8.toNat_inj.mp
    rw [UInt32.toNat_toUInt8, UInt8.toNat_ofNat']
  simp only [bytes32, digits, Nat.div_div_eq_div_mul, List.nil_append, List.cons_append]
  rw [hdigit 24 (256 * 256 * 256) rfl, hdigit 16 (256 * 256) rfl, hdigit 8 256 rfl, hlast]

theorem bytes64_eq (order : ByteOrder) (w : UInt64) :
    order.bytes64 w = order.arrange (digits 8 w.toNat) := by
  have hdigit (s : UInt64) (d : Nat) (hd : 2 ^ (s.toNat % 64) = d) :
      (w >>> s).toUInt8 = UInt8.ofNat (w.toNat / d) := by
    apply UInt8.toNat_inj.mp
    rw [UInt64.toNat_toUInt8, UInt64.toNat_shiftRight, Nat.shiftRight_eq_div_pow, hd,
      UInt8.toNat_ofNat']
  have hlast : w.toUInt8 = UInt8.ofNat w.toNat := by
    apply UInt8.toNat_inj.mp
    rw [UInt64.toNat_toUInt8, UInt8.toNat_ofNat']
  simp only [bytes64, digits, Nat.div_div_eq_div_mul, List.nil_append, List.cons_append]
  rw [hdigit 56 (256 * 256 * 256 * 256 * 256 * 256 * 256) rfl,
    hdigit 48 (256 * 256 * 256 * 256 * 256 * 256) rfl, hdigit 40 (256 * 256 * 256 * 256 * 256) rfl,
    hdigit 32 (256 * 256 * 256 * 256) rfl, hdigit 24 (256 * 256 * 256) rfl,
    hdigit 16 (256 * 256) rfl, hdigit 8 256 rfl, hlast]

/-- Moving a number up by eight bits and filling in a byte is one step of reading in base 256. -/
private theorem shiftLeft_or_eq (n : Nat) (b : UInt8) (width : Nat) (hwidth : 8 ≤ width) :
    (n % 2 ^ width) <<< 8 % 2 ^ width ||| b.toNat = (256 * n + b.toNat) % 2 ^ width := by
  have hb : b.toNat < 2 ^ 8 := b.toNat_lt
  obtain ⟨high, rfl⟩ : ∃ high, width = 8 + high := ⟨width - 8, by omega⟩
  have hshift : (n % 2 ^ (8 + high)) <<< 8 % 2 ^ (8 + high) = (n % 2 ^ high) <<< 8 := by
    rw [Nat.shiftLeft_eq, Nat.mod_mul_mod, Nat.mul_comm n, Nat.pow_add, Nat.mul_mod_mul_left,
      Nat.shiftLeft_eq, Nat.mul_comm]
  have hlow : (256 * n + b.toNat) % 2 ^ 8 = b.toNat := by omega
  have hrest : (256 * n + b.toNat) / 2 ^ 8 = n := by omega
  rw [hshift, ← Nat.shiftLeft_add_eq_or_of_lt hb, Nat.shiftLeft_eq, Nat.pow_add, Nat.mod_mul, hlow,
    hrest, Nat.mul_comm, Nat.add_comm]

theorem word32_eq (order : ByteOrder) (bs : Bytes) :
    order.word32 bs = UInt32.ofNat (value (order.arrange bs)) := by
  have hstep (n : Nat) (b : UInt8) :
      (UInt32.ofNat n <<< 8) ||| b.toUInt32 = UInt32.ofNat (256 * n + b.toNat) := by
    apply UInt32.toNat_inj.mp
    rw [UInt32.toNat_or, UInt32.toNat_shiftLeft, UInt8.toNat_toUInt32, UInt32.toNat_ofNat',
      UInt32.toNat_ofNat']
    exact shiftLeft_or_eq n b 32 (by decide)
  exact List.foldl_hom UInt32.ofNat hstep

theorem word64_eq (order : ByteOrder) (bs : Bytes) :
    order.word64 bs = UInt64.ofNat (value (order.arrange bs)) := by
  have hstep (n : Nat) (b : UInt8) :
      (UInt64.ofNat n <<< 8) ||| b.toUInt64 = UInt64.ofNat (256 * n + b.toNat) := by
    apply UInt64.toNat_inj.mp
    rw [UInt64.toNat_or, UInt64.toNat_shiftLeft, UInt8.toNat_toUInt64, UInt64.toNat_ofNat',
      UInt64.toNat_ofNat']
    exact shiftLeft_or_eq n b 64 (by decide)
  exact List.foldl_hom UInt64.ofNat hstep

@[simp] theorem word32_bytes32 (order : ByteOrder) (w : UInt32) :
    order.word32 (order.bytes32 w) = w := by
  have hlt : w.toNat < 256 ^ 4 := w.toNat_lt
  rw [word32_eq, bytes32_eq, arrange_arrange, value_digits, Nat.mod_eq_of_lt hlt,
    UInt32.ofNat_toNat]

@[simp] theorem word64_bytes64 (order : ByteOrder) (w : UInt64) :
    order.word64 (order.bytes64 w) = w := by
  have hlt : w.toNat < 256 ^ 8 := w.toNat_lt
  rw [word64_eq, bytes64_eq, arrange_arrange, value_digits, Nat.mod_eq_of_lt hlt,
    UInt64.ofNat_toNat]

theorem bytes32_injective (order : ByteOrder) : Function.Injective order.bytes32 :=
  Function.LeftInverse.injective order.word32_bytes32

theorem bytes32_word32 (order : ByteOrder) {bs : Bytes} (h : bs.length = 4) :
    order.bytes32 (order.word32 bs) = bs := by
  have hlength : (order.arrange bs).length = 4 := by rw [length_arrange, h]
  have hlt : value (order.arrange bs) < 2 ^ 32 := by
    have := value_lt (order.arrange bs)
    rwa [hlength] at this
  rw [bytes32_eq, word32_eq, UInt32.toNat_ofNat', Nat.mod_eq_of_lt hlt, ← hlength, digits_value,
    arrange_arrange]

theorem bytes64_word64 (order : ByteOrder) {bs : Bytes} (h : bs.length = 8) :
    order.bytes64 (order.word64 bs) = bs := by
  have hlength : (order.arrange bs).length = 8 := by rw [length_arrange, h]
  have hlt : value (order.arrange bs) < 2 ^ 64 := by
    have := value_lt (order.arrange bs)
    rwa [hlength] at this
  rw [bytes64_eq, word64_eq, UInt64.toNat_ofNat', Nat.mod_eq_of_lt hlt, ← hlength, digits_value,
    arrange_arrange]

end ByteOrder

end Checksum
