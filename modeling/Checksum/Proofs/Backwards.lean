import Mathlib.Logic.Function.Basic
import Checksum.Proofs.Md5.Standard
import Checksum.Proofs.Sha256.Rolling

/-!
# Rounds run backwards

Until the chaining value is added back, a block function loses nothing of it. A round moves all registers
but one or two on to the next place, and what it has added there is computed from registers that can still
be read behind it and from a word of the block; so it can be taken away again (`Sha256.roundBack`,
`Md5.stepBack`). Undoing each round, the last one first, undoes all of them (`foldr_foldl`, `foldl_foldr`).
What a block function makes of a chaining value therefore differs from it, word by word, by a value from
which it can be found again, and every value is such a difference.
-/

namespace Checksum

/-- Word by word subtraction modulo `2 ^ 32`. -/
def Chain.sub {n : Nat} (x y : Chain n) : Chain n := Vector.ofFn fun i => x.get i - y.get i

theorem Chain.add_sub_self {n : Nat} (x y : Chain n) : (x.add y).sub x = y := by
  apply Vector.ext
  intro i hi
  have hword : (x.add y).get ⟨i, hi⟩ = x.get ⟨i, hi⟩ + y.get ⟨i, hi⟩ := Vector.getElem_ofFn hi
  rw [sub, Vector.getElem_ofFn, hword, UInt32.add_comm, UInt32.add_sub_cancel]
  rfl

/-! ### The last round first -/

section

variable {α : Type} {n : Nat} {f : α → Fin n → α} {g : Fin n → α → α}

theorem foldr_foldl (h : ∀ i x, g i (f x i) = x) (x : α) :
    Fin.foldr n g (Fin.foldl n f x) = x := by
  induction n generalizing x with
  | zero => simp
  | succ n ih =>
      rw [Fin.foldl_succ, Fin.foldr_succ, ih fun i x => h i.succ x]
      exact h 0 x

theorem foldl_foldr (h : ∀ i x, f (g i x) i = x) (x : α) :
    Fin.foldl n f (Fin.foldr n g x) = x := by
  induction n generalizing x with
  | zero => simp
  | succ n ih =>
      rw [Fin.foldr_succ, Fin.foldl_succ, h 0]
      exact ih (fun i x => h i.succ x) x

end

/-! ### Rotating back -/

theorem rotateRight_rotateLeft (w : UInt32) {k : UInt32} (hpos : 0 < k.toNat) (h : k.toNat < 32) :
    rotateRight (rotateLeft w k) k = w := by
  rw [rotateLeft_eq w hpos h, rotateRight_eq _ hpos h]
  apply word_ext
  intro i hi
  simp only [BitVec.getLsbD_rotateRight, BitVec.getLsbD_rotateLeft, Nat.mod_eq_of_lt h]
  by_cases hlow : i < 32 - k.toNat
  · have hnot : ¬k.toNat + i < k.toNat := by omega
    have hbit : k.toNat + i < 32 := by omega
    simp only [hlow, hnot, hbit, decide_true, decide_false, cond_true, cond_false, Bool.true_and,
      Nat.add_sub_cancel_left]
  · have hback : i - (32 - k.toNat) < k.toNat := by omega
    have hbit : 32 - k.toNat + (i - (32 - k.toNat)) = i := by omega
    simp only [hlow, hback, hbit, hi, decide_true, decide_false, cond_true, cond_false, Bool.true_and]

/-- Rotating one way is rotating the other way by what is left of the width. -/
theorem rotateLeft_rotateRight (w : UInt32) {k : UInt32} (hpos : 0 < k.toNat) (h : k.toNat < 32) :
    rotateLeft (rotateRight w k) k = w := by
  have hwidth : (32 - k).toNat = 32 - k.toNat :=
    UInt32.toNat_sub_of_le _ _ (UInt32.le_iff_toNat_le.mpr (Nat.le_of_lt h))
  have hback : 32 - (32 - k) = k := by grind
  have hleft (x : UInt32) : rotateLeft x k = rotateRight x (32 - k) := by
    rw [rotateLeft, rotateRight, hback, UInt32.or_comm]
  have hright (x : UInt32) : rotateRight x k = rotateLeft x (32 - k) := by
    rw [rotateLeft, rotateRight, hback, UInt32.or_comm]
  rw [hleft, hright]
  exact rotateRight_rotateLeft w (by omega) (by omega)

/-! ### MD5 -/

namespace Md5

/-- The registers before step `i`, from those behind it. -/
def stepBack (message : Vector UInt32 16) (i : Fin 64) (r : Registers) : Registers :=
  let kept : Registers := ⟨0, r.c, r.d, r.a⟩
  let rotated := r.b - r.c
  let added := mix kept i + sines.get i + message.get (wordIndex i)
  { kept with a := rotateRight rotated (distances.get i) - added }

/-- What is mixed does not depend on the register that it is added to. -/
theorem mix_of_kept (a b c d : UInt32) (i : Fin 64) : mix ⟨a, b, c, d⟩ i = mix ⟨0, b, c, d⟩ i := rfl

variable (message : Vector UInt32 16) (i : Fin 64) (r : Registers)

theorem stepBack_step : stepBack message i (step message r i) = r := by
  obtain ⟨a, b, c, d⟩ := r
  obtain ⟨hpos, hlt⟩ := Standard.distances_between i
  simp only [stepBack, step, mix_of_kept a, Registers.mk.injEq, and_self, and_true]
  rw [UInt32.add_comm b, UInt32.add_sub_cancel, rotateRight_rotateLeft _ hpos hlt]
  simp only [UInt32.add_assoc, UInt32.add_sub_cancel]

theorem step_stepBack : step message (stepBack message i r) i = r := by
  obtain ⟨a, b, c, d⟩ := r
  obtain ⟨hpos, hlt⟩ := Standard.distances_between i
  simp only [stepBack, step, mix_of_kept (_ - _), Registers.mk.injEq, and_self, and_true, true_and]
  simp only [UInt32.add_assoc, UInt32.sub_add_cancel, rotateLeft_rotateRight _ hpos hlt]
  rw [UInt32.add_comm, UInt32.sub_add_cancel]

/-- The chaining value from which the steps lead to this one. -/
def stepsBack (last : Chain 4) (block : Block) : Chain 4 :=
  (Fin.foldr 64 (stepBack (block.words .little)) (.ofChain last)).toChain

theorem ofChain_toChain : Registers.ofChain r.toChain = r := rfl

theorem toChain_ofChain (chain : Chain 4) : (Registers.ofChain chain).toChain = chain := by
  apply Vector.ext
  intro i hi
  match i with
  | 0 => rfl
  | 1 => rfl
  | 2 => rfl
  | 3 => rfl

theorem stepsBack_steps (chain : Chain 4) (block : Block) : stepsBack (steps chain block) block = chain := by
  rw [stepsBack, steps, ofChain_toChain, foldr_foldl (stepBack_step _), toChain_ofChain]

theorem steps_stepsBack (last : Chain 4) (block : Block) : steps (stepsBack last block) block = last := by
  rw [stepsBack, steps, ofChain_toChain, foldl_foldr (step_stepBack _), toChain_ofChain]

end Md5

/-! ### SHA-256 -/

namespace Sha256

/-- The registers before a round, from those behind it. -/
def roundBack (r : Registers) (constant word : UInt32) : Registers :=
  let t2 := bigSigma0 r.b + majority r.b r.c r.d
  let t1 := r.a - t2
  let added := bigSigma1 r.f + choose r.f r.g r.h + constant + word
  ⟨r.b, r.c, r.d, r.e - t1, r.f, r.g, r.h, t1 - added⟩

theorem roundBack_round (r : Registers) (constant word : UInt32) :
    roundBack (round r constant word) constant word = r := by
  obtain ⟨a, b, c, d, e, f, g, h⟩ := r
  simp only [roundBack, round, UInt32.add_sub_cancel]
  simp only [UInt32.add_assoc, UInt32.add_sub_cancel]

theorem round_roundBack (r : Registers) (constant word : UInt32) :
    round (roundBack r constant word) constant word = r := by
  obtain ⟨a, b, c, d, e, f, g, h⟩ := r
  simp only [roundBack, round, UInt32.sub_add_cancel, UInt32.add_assoc]

/-- The chaining value from which the rounds lead to this one. -/
def roundsBack (last : Chain 8) (block : Block) : Chain 8 :=
  let w := schedule block
  (Fin.foldr 64 (fun i r => roundBack r (constants.get i) (w.get i)) (.ofChain last)).toChain

theorem ofChain_toChain (r : Registers) : Registers.ofChain r.toChain = r := rfl

theorem roundsBack_rounds (chain : Chain 8) (block : Block) :
    roundsBack (rounds chain block) block = chain := by
  rw [roundsBack, rounds, ofChain_toChain, foldr_foldl fun i r => roundBack_round r _ _,
    toChain_ofChain]

theorem rounds_roundsBack (last : Chain 8) (block : Block) :
    rounds (roundsBack last block) block = last := by
  rw [roundsBack, rounds, ofChain_toChain, foldl_foldr fun i r => round_roundBack r _ _,
    toChain_ofChain]

end Sha256

/-! ### Block functions -/

/-- Rounds that can be undone, with the chaining value added to them, differ from it by every value once. -/
theorem bijective_add_sub {n : Nat} {rounds back : Chain n → Chain n}
    (hback : ∀ chain, back (rounds chain) = chain) (hforth : ∀ last, rounds (back last) = last) :
    Function.Bijective fun chain : Chain n => (chain.add (rounds chain)).sub chain := by
  simp only [Chain.add_sub_self]
  exact ⟨Function.LeftInverse.injective hback, Function.RightInverse.surjective hforth⟩

/-- For every block, what a block function adds to a chaining value runs through all chaining values, each just
once. Undoing the rounds finds the chaining value to which a given one is added. -/
theorem rounds_lose_nothing (block : Block) :
    (Function.Bijective fun chain : Chain 4 => (Md5.compress chain block).sub chain) ∧
    (Function.Bijective fun chain : Chain 8 => (Sha256.compress chain block).sub chain) ∧
    (∀ last, let chain := Md5.stepsBack last block
      (Md5.compress chain block).sub chain = last) ∧
    (∀ last, let chain := Sha256.roundsBack last block
      (Sha256.compress chain block).sub chain = last) := by
  refine ⟨?_, ?_, ?_, ?_⟩
  · exact bijective_add_sub (Md5.stepsBack_steps · block) (Md5.steps_stepsBack · block)
  · exact bijective_add_sub (Sha256.roundsBack_rounds · block) (Sha256.rounds_roundsBack · block)
  · intro last
    exact (Chain.add_sub_self _ _).trans (Md5.steps_stepsBack last block)
  · intro last
    exact (Chain.add_sub_self _ _).trans (Sha256.rounds_roundsBack last block)

end Checksum
