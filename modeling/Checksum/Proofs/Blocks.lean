import Mathlib.Data.List.OfFn
import Checksum.Buffer

/-!
# Whole blocks by position

`Block.whole` says without any buffer which blocks a byte string consists of: block `i` is the 64
bytes behind the first `64 * i`. What is left over is `Block.rest`. There is only one way to cut a
byte string into blocks and fewer than 64 bytes behind them (`split_unique`), so every way of
cutting that loses nothing comes to the same blocks: the splitting of `Checksum.Block`, and the
topping up and passing on of a `Buffer`, whatever was pending in it.
-/

namespace Checksum

namespace Block

/-- The whole blocks at the front of a byte string, by their positions. -/
def whole (bs : Bytes) : List Block :=
  List.ofFn fun i : Fin (bs.length / 64) => ofBytes ((bs.drop (64 * i)).take 64) (by
    simp only [List.length_take, List.length_drop]
    omega)

/-- The bytes behind the whole blocks. -/
def rest (bs : Bytes) : Bytes := bs.drop (64 * (bs.length / 64))

@[simp] theorem length_whole (bs : Bytes) : (whole bs).length = bs.length / 64 := by
  simp [whole]

theorem length_rest (bs : Bytes) : (rest bs).length = bs.length % 64 := by
  rw [rest, List.length_drop]
  omega

theorem length_rest_lt (bs : Bytes) : (rest bs).length < 64 := by
  rw [length_rest]
  omega

@[simp] theorem ofBytes_toList (block : Block) (h : block.toList.length = 64) :
    ofBytes block.toList h = block := by
  simp [ofBytes, Vector.toList]

theorem ofBytes_congr {bs cs : Bytes} (h : bs = cs) (hbs : bs.length = 64) (hcs : cs.length = 64) :
    ofBytes bs hbs = ofBytes cs hcs := by
  subst h
  rfl

@[simp] theorem bytes_append (xs ys : List Block) : bytes (xs ++ ys) = bytes xs ++ bytes ys := by
  simp [bytes]

/-- The first `n` blocks are the first `64 * n` bytes. -/
theorem bytes_take_whole (bs : Bytes) (n : Nat) (h : n ≤ bs.length / 64) :
    bytes ((whole bs).take n) = bs.take (64 * n) := by
  induction n with
  | zero => simp
  | succ n ih =>
      have hn : n < (whole bs).length := by
        rw [length_whole]
        omega
      have hblock : (whole bs)[n].toList = (bs.drop (64 * n)).take 64 := by
        simp [whole]
      rw [List.take_succ_eq_append_getElem hn, bytes_append, ih (by omega), bytes_cons, bytes_nil,
        List.append_nil, hblock, Nat.mul_succ, List.take_add]

theorem bytes_whole (bs : Bytes) : bytes (whole bs) ++ rest bs = bs := by
  have h := bytes_take_whole bs (bs.length / 64) (le_refl _)
  rw [List.take_of_length_le (by rw [length_whole])] at h
  rw [h, rest, List.take_append_drop]

/-- A byte string has one cut into blocks and fewer than 64 bytes behind them. -/
theorem split_unique (blocks : List Block) {tail : Bytes} (h : tail.length < 64) :
    split (bytes blocks ++ tail) = (blocks, tail) := by
  induction blocks with
  | nil => exact split_of_length_lt h
  | cons block blocks ih =>
      have htake : (bytes (block :: blocks) ++ tail).take 64 = block.toList := by
        rw [bytes_cons, List.append_assoc, List.take_left' (Vector.length_toList)]
      have hdrop : (bytes (block :: blocks) ++ tail).drop 64 = bytes blocks ++ tail := by
        rw [bytes_cons, List.append_assoc, List.drop_left' (Vector.length_toList)]
      have hfull : ((bytes (block :: blocks) ++ tail).take 64).length = 64 := by
        rw [htake, Vector.length_toList]
      have hfirst : ofBytes _ hfull = block := by
        rw [ofBytes_congr htake hfull (Vector.length_toList), ofBytes_toList]
      rw [split, dif_pos hfull, hdrop, ih, hfirst]

theorem split_eq (bs : Bytes) : split bs = (whole bs, rest bs) := by
  have h := split_unique (whole bs) (length_rest_lt bs)
  rwa [bytes_whole] at h

theorem whole_unique {bs : Bytes} (blocks : List Block) {tail : Bytes} (hbs : bytes blocks ++ tail = bs)
    (h : tail.length < 64) : whole bs = blocks ∧ rest bs = tail := by
  have hsplit := split_unique blocks h
  rw [hbs, split_eq] at hsplit
  exact Prod.mk.inj hsplit

/-- Bytes that come behind a byte string continue what it left over. -/
theorem whole_append (bs cs : Bytes) :
    whole (bs ++ cs) = whole bs ++ whole (rest bs ++ cs) ∧ rest (bs ++ cs) = rest (rest bs ++ cs) := by
  refine whole_unique _ ?_ (length_rest_lt _)
  rw [bytes_append, List.append_assoc, bytes_whole, ← List.append_assoc, bytes_whole]

@[simp] theorem whole_of_length_lt {bs : Bytes} (h : bs.length < 64) : whole bs = [] :=
  (whole_unique [] rfl h).1

@[simp] theorem rest_of_length_lt {bs : Bytes} (h : bs.length < 64) : rest bs = bs :=
  (whole_unique [] rfl h).2

/-- A word's bytes in a block. -/
theorem take_four_drop (block : Block) {i : Nat} (hi : i < 16) :
    (block.toList.drop (4 * i)).take 4
      = [block[4 * i], block[4 * i + 1], block[4 * i + 2], block[4 * i + 3]] := by
  apply List.ext_getElem
  · simp only [List.length_take, List.length_drop, Vector.length_toList, List.length_cons,
      List.length_nil]
    omega
  · intro j hj hj'
    simp only [List.getElem_take, List.getElem_drop, Vector.getElem_toList]
    match j with
    | 0 => rfl
    | 1 => rfl
    | 2 => rfl
    | 3 => rfl

end Block

namespace Buffer

theorem ext {b c : Buffer} (h : b.bytes = c.bytes) : b = c := by
  cases b
  cases c
  cases h
  rfl

/-- The bytes that a byte string leaves over, pending. -/
def restOf (bs : Bytes) : Buffer := ⟨Block.rest bs, Block.length_rest_lt bs⟩

@[simp] theorem bytes_restOf (bs : Bytes) : (restOf bs).bytes = Block.rest bs := rfl

theorem restOf_nil : restOf [] = empty := rfl

theorem restOf_bytes (b : Buffer) : restOf b.bytes = b :=
  ext (Block.rest_of_length_lt b.length_lt)

/-- Feeding cuts the pending bytes and the data together, as if they were one byte string. -/
theorem feed_eq (b : Buffer) (data : Bytes) :
    b.feed data = (Block.whole (b.bytes ++ data), restOf (b.bytes ++ data)) := by
  obtain ⟨hwhole, hrest⟩ := Block.whole_unique _ (b.bytes_feed data) (b.feed data).2.length_lt
  exact Prod.ext hwhole.symm (ext hrest.symm)

theorem feed_restOf (bs data : Bytes) :
    (restOf bs).feed data = (Block.whole (Block.rest bs ++ data), restOf (bs ++ data)) := by
  rw [feed_eq, bytes_restOf]
  exact Prod.ext rfl (ext (Block.whole_append bs data).2.symm)

end Buffer

end Checksum
