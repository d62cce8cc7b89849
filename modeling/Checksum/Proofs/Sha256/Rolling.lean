import Checksum.Backend
import Checksum.Proofs.Rounds

/-!
# The table of schedule words and the moving window

The schedule written out in a table of 64 words and the window of sixteen words that moves on by one
in each round serve the same words: before round `i` the window holds the places `i` to `i + 15` of
the table, grown as far as that takes. With the two ways of writing the bitwise functions, the two
block functions are equal, so a platform whose kernel is the window is sound.
-/

namespace Checksum.Sha256

theorem choose_eq_select (x y z : UInt32) : choose x y z = Window.select x y z := by
  apply word_ext
  intro i hi
  simp only [choose, Window.select, UInt32.toBitVec_xor, UInt32.toBitVec_or, UInt32.toBitVec_and,
    UInt32.toBitVec_not, BitVec.getLsbD_xor, BitVec.getLsbD_or, BitVec.getLsbD_and,
    BitVec.getLsbD_not]
  cases x.toBitVec.getLsbD i <;> simp

theorem majority_eq_majorityOf (x y z : UInt32) : majority x y z = Window.majorityOf x y z := by
  apply word_ext
  intro i hi
  simp only [majority, Window.majorityOf, UInt32.toBitVec_xor, UInt32.toBitVec_or,
    UInt32.toBitVec_and, BitVec.getLsbD_xor, BitVec.getLsbD_or, BitVec.getLsbD_and]
  cases x.toBitVec.getLsbD i <;> cases y.toBitVec.getLsbD i <;> simp

/-! ### The schedule grows at its end -/

variable (words : Vector UInt32 16)

theorem exists_scheduleTo_succ (t : Nat) :
    ∃ last, scheduleTo words (t + 1) = (scheduleTo words t).push last := ⟨_, rfl⟩

theorem wordAt_scheduleTo_of_le {t u : Nat} (h : t ≤ u) {j : Nat} (hj : j < 16 + t) :
    wordAt (scheduleTo words u) j = wordAt (scheduleTo words t) j := by
  induction u with
  | zero =>
      obtain rfl : t = 0 := by omega
      rfl
  | succ u ih =>
      by_cases heq : t = u + 1
      · subst heq
        rfl
      · have hle : t ≤ u := by omega
        obtain ⟨last, hlast⟩ := exists_scheduleTo_succ words u
        rw [hlast, wordAt_push_of_lt _ _ (by omega)]
        exact ih hle

/-- However far it has grown, the schedule has the same word in a place. -/
theorem wordAt_scheduleTo {t u j : Nat} (hj : j < 16 + t) (hj' : j < 16 + u) :
    wordAt (scheduleTo words t) j = wordAt (scheduleTo words u) j := by
  rcases Nat.le_total t u with h | h
  · exact (wordAt_scheduleTo_of_le words h hj).symm
  · exact wordAt_scheduleTo_of_le words h hj'

theorem wordAt_scheduleTo_last (t : Nat) :
    wordAt (scheduleTo words (t + 1)) (16 + t)
      = smallSigma1 (wordAt (scheduleTo words t) (t + 14)) + wordAt (scheduleTo words t) (t + 9)
        + smallSigma0 (wordAt (scheduleTo words t) (t + 1)) + wordAt (scheduleTo words t) t := by
  rw [wordAt_eq (scheduleTo words t) (show t + 14 < 16 + t by omega),
    wordAt_eq (scheduleTo words t) (show t + 9 < 16 + t by omega),
    wordAt_eq (scheduleTo words t) (show t + 1 < 16 + t by omega),
    wordAt_eq (scheduleTo words t) (show t < 16 + t by omega)]
  exact wordAt_push_self (scheduleTo words t) _

/-! ### The window moves along it -/

theorem nextWord_eq (window : Vector UInt32 16) :
    Window.nextWord window = smallSigma1 (wordAt window 14) + wordAt window 9
      + smallSigma0 (wordAt window 1) + wordAt window 0 := by
  rw [wordAt_eq window (show 14 < 16 by decide), wordAt_eq window (show 9 < 16 by decide),
    wordAt_eq window (show 1 < 16 by decide), wordAt_eq window (show 0 < 16 by decide)]
  rfl

theorem wordAt_shift_of_lt (window : Vector UInt32 16) (last : UInt32) {j : Nat} (h : j + 1 < 16) :
    wordAt (Window.shift window last) j = wordAt window (j + 1) := by
  rw [wordAt_eq _ (show j < 16 by omega), wordAt_eq _ h, Window.shift, Vector.getElem_ofFn, dif_pos h]

theorem wordAt_shift_last (window : Vector UInt32 16) (last : UInt32) :
    wordAt (Window.shift window last) 15 = last := by
  rw [wordAt_eq _ (show 15 < 16 by decide), Window.shift, Vector.getElem_ofFn, dif_neg (by decide)]

/-- The window before round `i`. -/
def WindowAt (i : Nat) (window : Vector UInt32 16) : Prop :=
  ∀ j < 16, wordAt window j = wordAt (scheduleTo words i) (i + j)

theorem windowAt_zero : WindowAt words 0 words := by
  intro j hj
  rw [Nat.zero_add]
  rfl

theorem WindowAt.shift {i : Nat} {window : Vector UInt32 16} (h : WindowAt words i window) :
    WindowAt words (i + 1) (Window.shift window (Window.nextWord window)) := by
  intro j hj
  by_cases hnext : j + 1 < 16
  · rw [wordAt_shift_of_lt window _ hnext, h (j + 1) hnext, ← Nat.add_right_comm i j 1]
    exact wordAt_scheduleTo words (by omega) (by omega)
  · obtain rfl : j = 15 := by omega
    rw [wordAt_shift_last, nextWord_eq, h 14 (by decide), h 9 (by decide), h 1 (by decide),
      h 0 (by decide), show i + 1 + 15 = 16 + i by omega, wordAt_scheduleTo_last]
    rfl

/-- The word that round `i` takes. -/
theorem WindowAt.head {i : Nat} (hi : i < 64) {window : Vector UInt32 16}
    (h : WindowAt words i window) : wordAt window 0 = wordAt (scheduleTo words 48) i := by
  rw [h 0 (by decide)]
  exact wordAt_scheduleTo words (by omega) (by omega)

@[simp] theorem toChain_ofChain (chain : Chain 8) : (Registers.ofChain chain).toChain = chain := by
  apply Vector.ext
  intro i hi
  match i with
  | 0 => rfl
  | 1 => rfl
  | 2 => rfl
  | 3 => rfl
  | 4 => rfl
  | 5 => rfl
  | 6 => rfl
  | 7 => rfl

theorem window_round_eq {r : Registers} {s : Window.State} (hr : r = s.registers) {word : UInt32}
    (hword : wordAt s.window 0 = word) (constant : UInt32) :
    round r constant word = (Window.round s constant).registers := by
  subst hr hword
  simp only [round, Window.round, choose_eq_select, majority_eq_majorityOf,
    wordAt_eq _ (show 0 < 16 by decide)]

/-- The two states between rounds: the same registers, and the window at its place in the table. -/
def InStep (block : Block) (i : Nat) (r : Registers) (s : Window.State) : Prop :=
  r = s.registers ∧ WindowAt (block.words .big) i s.window

theorem InStep.round {block : Block} (i : Fin 64) {r : Registers} {s : Window.State}
    (h : InStep block i r s) :
    InStep block (i + 1) (round r (constants.get i) ((schedule block).get i))
      (Window.round s (constants.get i)) := by
  obtain ⟨hr, hwindow⟩ := h
  have hword : wordAt s.window 0 = (schedule block).get i := by
    rw [hwindow.head _ i.isLt]
    exact wordAt_eq (schedule block) i.isLt
  exact ⟨window_round_eq hr hword _, hwindow.shift⟩

/-- Both ways of running the rounds end with the same registers. -/
theorem compress_eq_window (chain : Chain 8) (block : Block) :
    compress chain block = Window.compress chain block := by
  have hend := foldl_related (InStep block) (a := .ofChain chain)
    (b := ⟨.ofChain chain, block.words .big⟩) ⟨rfl, windowAt_zero _⟩ fun i r s h => h.round i
  rw [compress, Window.compress, rounds]
  exact congrArg (fun r : Registers => chain.add r.toChain) hend.1

end Sha256

theorem Platform.generic_sound : Platform.generic.Sound := by
  intro chain blocks
  have hcompress : Sha256.Window.compress = Sha256.compress := by
    funext chain block
    exact (Sha256.compress_eq_window chain block).symm
  rw [← hcompress]
  rfl

end Checksum
