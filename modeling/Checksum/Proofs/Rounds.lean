import Checksum.Compression

/-!
# Rounds in step

Two ways of running the rounds of a block function are compared round by round: a relation between
their states that may speak of the round's number, that holds at the outset and that every round
keeps, holds at the end. Beside it stands what is needed of 32-bit words: the word in a place of a
vector, which is found without a bound on the place, that two words are equal if their bits are, and
that the rotations are the rotations of bit vectors.
-/

namespace Checksum

/-- A relation that two runs have before round 0 and that each round keeps, they have at the end. -/
theorem foldl_related {α β : Type} {n : Nat} (related : Nat → α → β → Prop) {f : α → Fin n → α}
    {g : β → Fin n → β} {a : α} {b : β} (hstart : related 0 a b)
    (hround : ∀ (i : Fin n) x y, related i.val x y → related (i.val + 1) (f x i) (g y i)) :
    related n (Fin.foldl n f a) (Fin.foldl n g b) := by
  induction n with
  | zero => simpa using hstart
  | succ n ih =>
      rw [Fin.foldl_succ_last, Fin.foldl_succ_last]
      refine hround (Fin.last n) _ _ (ih fun i x y h => ?_)
      exact hround i.castSucc x y h

/-- Going through a vector by position is going through its list. -/
theorem foldl_get {α β : Type} {n : Nat} (f : β → α → β) (xs : Vector α n) (b : β) :
    Fin.foldl n (fun b i => f b (xs.get i)) b = xs.toList.foldl f b := by
  have hlist : xs.toList = (List.finRange n).map xs.get := by
    apply List.ext_getElem
    · simp
    · intro i hi hi'
      simp [Vector.get]
  rw [hlist, List.foldl_map, Fin.foldl_eq_finRange_foldl]

/-- The word in a place, 0 in a place that is not there. -/
def wordAt {n : Nat} (words : Vector UInt32 n) (i : Nat) : UInt32 := words.toList.getD i 0

theorem wordAt_eq {n : Nat} (words : Vector UInt32 n) {i : Nat} (h : i < n) :
    wordAt words i = words[i] := by
  have hlength : i < words.toList.length := by rwa [Vector.length_toList]
  rw [wordAt, List.getD_eq_getElem?_getD, List.getElem?_eq_getElem hlength, Option.getD_some,
    Vector.getElem_toList]

theorem wordAt_push_of_lt {n : Nat} (words : Vector UInt32 n) (last : UInt32) {i : Nat} (h : i < n) :
    wordAt (words.push last) i = wordAt words i := by
  rw [wordAt_eq _ (Nat.lt_succ_of_lt h), wordAt_eq _ h, Vector.getElem_push_lt h]

theorem wordAt_push_self {n : Nat} (words : Vector UInt32 n) (last : UInt32) :
    wordAt (words.push last) n = last := by
  rw [wordAt_eq _ (Nat.lt_succ_self n), Vector.getElem_push_eq]

theorem word_ext {x y : UInt32} (h : ∀ i < 32, x.toBitVec.getLsbD i = y.toBitVec.getLsbD i) :
    x = y := by
  apply UInt32.toBitVec_inj.mp
  exact BitVec.eq_of_getLsbD_eq h

private theorem toNat_sub_from_width {k : UInt32} (h : k.toNat < 32) :
    (32 - k).toNat = 32 - k.toNat := by
  rw [UInt32.toNat_sub_of_le _ _ (UInt32.le_iff_toNat_le.mpr (Nat.le_of_lt h))]
  rfl

private theorem toBitVec_shiftLeft_of_lt (w : UInt32) {k : UInt32} (h : k.toNat < 32) :
    (w <<< k).toBitVec = w.toBitVec <<< k.toNat := by
  apply BitVec.eq_of_toNat_eq
  rw [UInt32.toNat_toBitVec, UInt32.toNat_shiftLeft, Nat.mod_eq_of_lt h, BitVec.toNat_shiftLeft,
    UInt32.toNat_toBitVec]

private theorem toBitVec_shiftRight_of_lt (w : UInt32) {k : UInt32} (h : k.toNat < 32) :
    (w >>> k).toBitVec = w.toBitVec >>> k.toNat := by
  apply BitVec.eq_of_toNat_eq
  rw [UInt32.toNat_toBitVec, UInt32.toNat_shiftRight, Nat.mod_eq_of_lt h, BitVec.toNat_ushiftRight,
    UInt32.toNat_toBitVec]

theorem rotateLeft_eq (w : UInt32) {k : UInt32} (hpos : 0 < k.toNat) (h : k.toNat < 32) :
    rotateLeft w k = ⟨w.toBitVec.rotateLeft k.toNat⟩ := by
  have hback : (32 - k).toNat < 32 := by
    rw [toNat_sub_from_width h]
    omega
  apply UInt32.toBitVec_inj.mp
  rw [rotateLeft, UInt32.toBitVec_or, toBitVec_shiftLeft_of_lt w h, toBitVec_shiftRight_of_lt w hback,
    toNat_sub_from_width h, BitVec.rotateLeft_def, Nat.mod_eq_of_lt h]

theorem rotateRight_eq (w : UInt32) {k : UInt32} (hpos : 0 < k.toNat) (h : k.toNat < 32) :
    rotateRight w k = ⟨w.toBitVec.rotateRight k.toNat⟩ := by
  have hback : (32 - k).toNat < 32 := by
    rw [toNat_sub_from_width h]
    omega
  apply UInt32.toBitVec_inj.mp
  rw [rotateRight, UInt32.toBitVec_or, toBitVec_shiftRight_of_lt w h, toBitVec_shiftLeft_of_lt w hback,
    toNat_sub_from_width h, BitVec.rotateRight_def, Nat.mod_eq_of_lt h]

end Checksum
