import Checksum.ByteOrder

/-!
# Blocks

The hash functions here read their input in blocks of 64 bytes, and read a block as sixteen
32-bit words in their own byte order. `Block.split` cuts a byte string into its whole blocks and
the fewer than 64 bytes that are left (`length_split_snd_lt`).
-/

namespace Checksum

abbrev Block := Vector UInt8 64

namespace Block

def ofBytes (bs : Bytes) (h : bs.length = 64) : Block := ⟨bs.toArray, by simpa using h⟩

def words (order : ByteOrder) (block : Block) : Vector UInt32 16 :=
  Vector.ofFn fun i =>
    order.word32 [block[4 * i.val], block[4 * i.val + 1], block[4 * i.val + 2], block[4 * i.val + 3]]

/-- The whole blocks at the front of a byte string, and the bytes behind them. -/
def split (bs : Bytes) : List Block × Bytes :=
  if h : (bs.take 64).length = 64 then
    let behind := split (bs.drop 64)
    (ofBytes (bs.take 64) h :: behind.1, behind.2)
  else ([], bs)
termination_by bs.length
decreasing_by
  simp only [List.length_take] at h
  simp only [List.length_drop]
  omega

theorem split_of_length_lt {bs : Bytes} (h : bs.length < 64) : split bs = ([], bs) := by
  rw [split, dif_neg]
  simp only [List.length_take]
  omega

theorem length_split_snd_lt (bs : Bytes) : (split bs).2.length < 64 := by
  fun_induction split bs with
  | case1 bs h behind ih => exact ih
  | case2 bs h =>
      simp only [List.length_take] at h ⊢
      omega

/-- As many bytes are left over as their number modulo 64 says. -/
theorem length_split_snd (bs : Bytes) : (split bs).2.length = bs.length % 64 := by
  fun_induction split bs with
  | case1 bs h behind ih =>
      simp only [List.length_take] at h
      rw [ih, List.length_drop]
      omega
  | case2 bs h =>
      simp only [List.length_take] at h ⊢
      omega

@[simp] theorem toList_ofBytes (bs : Bytes) (h : bs.length = 64) : (ofBytes bs h).toList = bs := by
  simp [ofBytes, Vector.toList]

/-- The bytes of a list of blocks, in order. -/
def bytes (blocks : List Block) : Bytes := blocks.flatMap Vector.toList

@[simp] theorem bytes_nil : bytes [] = [] := rfl

@[simp] theorem bytes_cons (block : Block) (blocks : List Block) :
    bytes (block :: blocks) = block.toList ++ bytes blocks := rfl

/-- Cutting loses nothing and changes no order. -/
theorem bytes_split (bs : Bytes) : bytes (split bs).1 ++ (split bs).2 = bs := by
  fun_induction split bs with
  | case1 bs h behind ih =>
      rw [bytes_cons, toList_ofBytes, List.append_assoc, ih, List.take_append_drop]
  | case2 bs h => rfl

end Block

end Checksum
