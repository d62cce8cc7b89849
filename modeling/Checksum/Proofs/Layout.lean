import Checksum.Midstate.Saved
import Checksum.Proofs.Stream

/-!
# The layout of a saved midstate

`Saved.layout` writes down four parts one behind another: a tag, the words of a chaining value, a
block and a byte count, every number most significant byte first. The blobs with a given tag and the
right size are the layouts with that tag and no others (`exists_layout`), so a layout stands for any
blob that is read at all. Reading one gives its chaining value, its count, and as many bytes of its
block as the count asks for (`decode_layout`); writing a midstate that has read a stream gives the
layout whose block is the rest of the stream and zeros (`encode_reading`). If the count is that of
the stream, reading gives back what was written (`decode_encode_reading`).
-/

namespace Checksum

namespace Saved

variable {n : Nat}

def word (w : UInt32) : Bytes := Bytes.digits 4 w.toNat

def layout (tag : Tag) (chain : Chain n) (block : Bytes) (length : Nat) : Bytes :=
  tag.toList ++ (chain.toList.flatMap word ++ (block ++ Bytes.digits 8 length))

/-- The pending bytes of a layout: those of its block that the count asks for. -/
def pending (block : Block) (length : UInt64) : Bytes := block.toList.take (length.toNat % 64)

/-- The bytes and zeros after them, up to the size of a block. -/
def zeroFilled (bs : Bytes) : Bytes := bs ++ List.replicate (64 - bs.length) 0

@[simp] theorem length_word (w : UInt32) : (word w).length = 4 := Bytes.length_digits 4 w.toNat

theorem bytes32_eq_word (w : UInt32) : ByteOrder.big.bytes32 w = word w := ByteOrder.bytes32_eq .big w

theorem bytes64_eq_digits (w : UInt64) : ByteOrder.big.bytes64 w = Bytes.digits 8 w.toNat :=
  ByteOrder.bytes64_eq .big w

@[simp] theorem length_pending (block : Block) (length : UInt64) :
    (pending block length).length = length.toNat % 64 := by
  rw [pending, List.length_take, Vector.length_toList]
  omega

theorem length_zeroFilled {bs : Bytes} (h : bs.length < 64) : (zeroFilled bs).length = 64 := by
  rw [zeroFilled, List.length_append, List.length_replicate]
  omega

theorem length_words (chain : Chain n) : (chain.toList.flatMap word).length = 4 * n := by
  rw [Bytes.length_flatMap length_word, Vector.length_toList]

/-- Four bytes for every word spell a chaining value. -/
theorem exists_words {bs : Bytes} (h : bs.length = 4 * n) :
    ∃ chain : Chain n, chain.toList.flatMap word = bs := by
  induction n generalizing bs with
  | zero => exact ⟨#v[], (List.length_eq_zero_iff.mp h).symm⟩
  | succ n ih =>
      have hinit : (bs.take (4 * n)).length = 4 * n := by
        rw [List.length_take]
        omega
      have hlast : (bs.drop (4 * n)).length = 4 := by
        rw [List.length_drop]
        omega
      obtain ⟨chain, hchain⟩ := ih hinit
      refine ⟨chain.push (ByteOrder.big.word32 (bs.drop (4 * n))), ?_⟩
      rw [Vector.toList_push, List.flatMap_append, hchain, List.flatMap_singleton, ← bytes32_eq_word,
        ByteOrder.bytes32_word32 .big hlast, List.take_append_drop]

theorem take_layout (tag : Tag) (chain : Chain n) (block : Bytes) (length : Nat) :
    (layout tag chain block length).take 4 = tag.toList :=
  List.take_left' Vector.length_toList

theorem length_layout (tag : Tag) (chain : Chain n) {block : Bytes} (h : block.length = 64)
    (length : Nat) : (layout tag chain block length).length = savedSize n := by
  simp only [layout, List.length_append, length_words, Vector.length_toList, Bytes.length_digits, h,
    savedSize]
  omega

/-- A blob with the tag and of the right size is a layout. -/
theorem exists_layout {tag : Tag} {blob : Bytes} (htag : blob.take 4 = tag.toList)
    (hsize : blob.length = savedSize n) :
    ∃ (chain : Chain n) (block : Block) (length : UInt64),
      blob = layout tag chain block.toList length.toNat := by
  rw [savedSize] at hsize
  have hwords : ((blob.drop 4).take (4 * n)).length = 4 * n := by
    rw [List.length_take, List.length_drop]
    omega
  have hblock : (((blob.drop 4).drop (4 * n)).take 64).length = 64 := by
    rw [List.length_take, List.length_drop, List.length_drop]
    omega
  have hcount : (((blob.drop 4).drop (4 * n)).drop 64).length = 8 := by
    rw [List.length_drop, List.length_drop, List.length_drop]
    omega
  obtain ⟨chain, hchain⟩ := exists_words hwords
  refine ⟨chain, Block.ofBytes _ hblock,
    ByteOrder.big.word64 (((blob.drop 4).drop (4 * n)).drop 64), ?_⟩
  rw [layout, ← bytes64_eq_digits, ByteOrder.bytes64_word64 .big hcount, Block.toList_ofBytes, ← htag,
    hchain, List.take_append_drop, List.take_append_drop, List.take_append_drop]

end Saved

namespace Midstate

open Saved

variable {n : Nat}

theorem ext {l m : Midstate n} (hchain : l.chain = m.chain) (hbuffer : l.buffer.bytes = m.buffer.bytes)
    (hlength : l.length = m.length) : l = m := by
  cases l
  cases m
  cases hchain
  cases Buffer.ext hbuffer
  cases hlength
  rfl

/-- Reading keeps the chaining value and the count, and of the block no more than the count asks for. -/
theorem decode_layout (f : BlockFunction n) (tag : Tag) (chain : Chain n) (block : Block)
    (length : UInt64) :
    decode tag (layout tag chain block.toList length.toNat)
      = .ok (reading f chain (pending block length) length) := by
  have hlt : length.toNat % 64 < 64 := Nat.mod_lt _ (by decide)
  have hpending : (pending block length).length < 64 := by rwa [length_pending]
  have htag : (layout tag chain block.toList length.toNat).drop 4 = _ :=
    List.drop_left' Vector.length_toList
  have hwords (i : Nat) (hi : i < n) := Bytes.field_flatMap length_word chain.toList
    (block.toList ++ Bytes.digits 8 length.toNat) (i := i) (by rwa [Vector.length_toList])
  have hblock : (chain.toList.flatMap word ++ (block.toList ++ Bytes.digits 8 length.toNat)).drop (4 * n)
      = _ := List.drop_left' (length_words chain)
  have hcount : (block.toList ++ Bytes.digits 8 length.toNat).drop 64 = _ :=
    List.drop_left' Vector.length_toList
  have hlength : ByteOrder.big.word64 (Bytes.digits 8 length.toNat) = length := by
    rw [← bytes64_eq_digits, ByteOrder.word64_bytes64]
  rw [decode, if_neg (not_not.mpr (take_layout _ _ _ _)),
    if_neg (not_not.mpr (length_layout _ _ Vector.length_toList _))]
  refine congrArg Except.ok (ext ?_ ?_ ?_)
  · rw [reading, Block.whole_of_length_lt hpending, List.foldl_nil]
    apply Vector.ext
    intro i hi
    rw [Vector.getElem_ofFn, htag, hwords i hi, ← bytes32_eq_word, ByteOrder.word32_bytes32,
      Vector.getElem_toList]
  · rw [reading, Buffer.bytes_restOf, Block.rest_of_length_lt hpending, pending]
    simp only [htag, hblock, hcount, hlength]
    rw [List.take_append_of_le_length]
    rw [Vector.length_toList]
    exact Nat.le_of_lt hlt
  · simp only [htag, hblock, hcount, hlength, reading]

/-- What is written of a midstate that has read a stream. -/
theorem encode_reading (f : BlockFunction n) (tag : Tag) (chain : Chain n) (stream : Bytes)
    (length : UInt64) :
    (reading f chain stream length).encode tag
      = layout tag ((Block.whole stream).foldl f chain) (zeroFilled (Block.rest stream))
          length.toNat := by
  have hword : ByteOrder.big.bytes32 = word := funext bytes32_eq_word
  simp only [encode, reading, layout, hword, bytes64_eq_digits, Buffer.zeroFilled, Buffer.room,
    Buffer.bytes_restOf, zeroFilled, List.append_assoc]

/-- What has been read is in the chaining value up to its last whole block. -/
theorem reading_rest (f : BlockFunction n) (chain : Chain n) (stream : Bytes) (length : UInt64) :
    reading f ((Block.whole stream).foldl f chain) (Block.rest stream) length
      = reading f chain stream length := by
  refine ext ?_ ?_ rfl
  · simp only [reading, Block.whole_of_length_lt (Block.length_rest_lt stream), List.foldl_nil]
  · simp only [reading, Buffer.bytes_restOf, Block.rest_of_length_lt (Block.length_rest_lt stream)]

/-- If the count is that of the stream modulo 64, what is written reads back. -/
theorem decode_encode_reading (f : BlockFunction n) (tag : Tag) (chain : Chain n) {stream : Bytes}
    {length : UInt64} (h : stream.length % 64 = length.toNat % 64) :
    decode tag ((reading f chain stream length).encode tag) = .ok (reading f chain stream length) := by
  have hfull := length_zeroFilled (Block.length_rest_lt stream)
  have hblock : zeroFilled (Block.rest stream) = (Block.ofBytes _ hfull).toList :=
    (Block.toList_ofBytes _ hfull).symm
  have hpending : pending (Block.ofBytes _ hfull) length = Block.rest stream := by
    rw [pending, ← hblock, zeroFilled]
    exact List.take_left' (by rw [Block.length_rest, h])
  rw [encode_reading, hblock, decode_layout f, hpending, reading_rest]

/-! ### Which blobs are read -/

/-- The tag comes before the size. -/
theorem decode_eq_identifier_iff {tag : Tag} {blob : Bytes} :
    decode (n := n) tag blob = .error .identifier ↔ blob.take 4 ≠ tag.toList := by
  rw [decode]
  by_cases htag : blob.take 4 = tag.toList
  · by_cases hsize : blob.length = savedSize n
    · simp [htag, hsize]
    · simp [htag, hsize]
  · simp [htag]

theorem decode_eq_size_iff {tag : Tag} {blob : Bytes} {expected actual : Nat} :
    decode (n := n) tag blob = .error (.size expected actual)
      ↔ blob.take 4 = tag.toList ∧ blob.length ≠ savedSize n ∧ expected = savedSize n ∧
        actual = blob.length := by
  rw [decode]
  by_cases htag : blob.take 4 = tag.toList
  · by_cases hsize : blob.length = savedSize n
    · simp [htag, hsize]
    · simp [htag, hsize, eq_comm]
  · simp [htag]

theorem exists_decode_iff {tag : Tag} {blob : Bytes} :
    (∃ m : Midstate n, decode tag blob = .ok m)
      ↔ blob.take 4 = tag.toList ∧ blob.length = savedSize n := by
  rw [decode]
  by_cases htag : blob.take 4 = tag.toList
  · by_cases hsize : blob.length = savedSize n
    · simp [htag, hsize]
    · simp [htag, hsize]
  · simp [htag]

/-- What is written with another tag is refused as such, whatever its size. -/
theorem decode_encode_of_ne {m : Nat} {tag other : Tag} (h : other ≠ tag) (l : Midstate m) :
    decode (n := n) tag (l.encode other) = .error .identifier := by
  have htag : (l.encode other).take 4 = other.toList := by
    rw [encode, List.append_assoc, List.append_assoc]
    exact List.take_left' Vector.length_toList
  rw [decode_eq_identifier_iff, htag]
  intro heq
  exact h (Vector.toList_inj.mp heq)

end Midstate

end Checksum
