import Checksum.Proofs.Layout
import Checksum.Proofs.OneShot
import Checksum.Proofs.Sha256.Rolling

/-!
# Going on from any saved state

A blob with the right tag and size is restored whether or not any hasher ever saved it. From then on
the hasher has read the pending bytes of the blob from the chaining value in the blob, on top of the
count in the blob, and nothing else is known of it: not what the hasher had read before, not the bytes
of the block that are not pending. What it absorbs lengthens that stream and that count. So its checksum
and its next saved state are those of the stream, with the count modulo `2 ^ 64` and the length in bits
modulo `2 ^ 64` again.
-/

namespace Checksum.Hasher

open Saved

variable {p : Platform} {b : Backend} {a : Algorithm}

theorem restore_layout (m : Midstate a.words) (chain : Chain a.words) (block : Block)
    (length : UInt64) :
    (of b a m).restore (layout a.tag chain block.toList length.toNat)
      = .ok (of b a (.reading a.compress chain (pending block length) length)) := by
  rw [restore_of, Midstate.decode_layout a.compress]
  rfl

theorem save_reading (chain : Chain a.words) (stream : Bytes) (length : UInt64) :
    (of b a (.reading a.compress chain stream length)).save
      = layout a.tag ((Block.whole stream).foldl a.compress chain) (zeroFilled (Block.rest stream))
          length.toNat := by
  rw [save_of, Midstate.encode_reading]

/-- The states of the other algorithms have other tags. -/
theorem restore_save_of_ne {h other : Hasher} (hne : other.algorithm ≠ h.algorithm) :
    h.restore other.save = .error .identifier := by
  obtain ⟨b, a, m, rfl⟩ := h.exists_of
  obtain ⟨c, a', l, rfl⟩ := other.exists_of
  rw [algorithm_of, algorithm_of] at hne
  rw [restore_eq_error_iff, save_of]
  apply Midstate.decode_encode_of_ne
  intro htag
  exact hne (Algorithm.tag_injective htag)

/-- The count in a word, and the number that it counts. -/
theorem hashFrom_add_ofNat (chain : Chain a.words) (stream : Bytes) (length : UInt64) (count : Nat) :
    a.hashFrom chain stream (length + UInt64.ofNat count).toNat
      = a.hashFrom chain stream (length.toNat + count) := by
  rw [UInt64.toNat_add, UInt64.toNat_ofNat', Nat.add_mod_mod, Algorithm.hashFrom_mod]

/-- Restoring succeeds on every blob with the tag and the size; what the hasher then answers after any
writes depends on the chaining value, the pending bytes and the count of the blob alone. -/
theorem restored_goes_on {h : Hasher} (ha : h.algorithm = a)
    (hkernel : h.backend? = some .accelerated → p.Sound) :
    (∀ chain block length, ∃ restored,
      h.restore (layout a.tag chain block.toList length.toNat) = .ok restored ∧
      (∀ (other : Hasher) (block' : Block), other.algorithm = a → other.backend? = h.backend? →
        pending block' length = pending block length →
        other.restore (layout a.tag chain block'.toList length.toNat) = .ok restored) ∧
      ∀ pieces : List Bytes,
        let stream := pending block length ++ pieces.flatten
        let count := length.toNat + pieces.flatten.length
        let last := (restored.writeAll p pieces).1
        last.checksum p = a.hashFrom chain stream count ∧
        last.save = layout a.tag ((Block.whole stream).foldl a.compress chain)
          (zeroFilled (Block.rest stream)) (count % 2 ^ 64)) ∧
    ∀ blob : Bytes, blob.take 4 = a.tag.toList → blob.length = savedSize a.words →
      ∃ (chain : Chain a.words) (block : Block) (length : UInt64),
        blob = layout a.tag chain block.toList length.toNat := by
  obtain ⟨b, a', m, rfl⟩ := h.exists_of
  rw [algorithm_of] at ha
  subst ha
  have hs : p.Serves b a' := serves_of b a' hkernel
  constructor
  · intro chain block length
    refine ⟨_, restore_layout m chain block length, ?_, ?_⟩
    · intro other block' halgorithm hbackend hpending
      obtain ⟨c, a, l, rfl⟩ := other.exists_of
      rw [algorithm_of] at halgorithm
      subst halgorithm
      rw [restore_layout, hpending, of_eq_of_backend? a hbackend]
    · intro pieces stream count last
      have hlast : last = _ := congrArg Prod.fst (writeAll_reading hs chain _ length pieces)
      rw [hlast, checksum_reading hs, hashFrom_add_ofNat, save_reading, UInt64.toNat_add,
        UInt64.toNat_ofNat', Nat.add_mod_mod]
      exact ⟨rfl, rfl⟩
  · intro blob htag hsize
    exact exists_layout htag hsize

/-- With a count one short of `2 ^ 64` and two bytes to come, the block is full and the count wraps. -/
theorem restored_goes_on_past_wrap :
    Platform.generic.Sound ∧ ∃ restored words,
      (start .accelerated .sha256).restore (layout Algorithm.sha256.tag (Vector.replicate 8 0)
        (Vector.replicate 64 0xff).toList (2 ^ 64 - 1)) = .ok restored ∧
      (restored.writeAll .generic [[1], [2]]).1.save
        = layout (n := 8) Algorithm.sha256.tag words (2 :: List.replicate 63 0) 1 := by
  obtain ⟨restored, hrestored, -, hlater⟩ := (restored_goes_on (p := .generic)
    (h := start .accelerated .sha256) rfl fun _ => Platform.generic_sound).1
      (Vector.replicate 8 0) (Vector.replicate 64 0xff) 0xffffffffffffffff
  have hrest : zeroFilled (Block.rest
      (pending (Vector.replicate 64 0xff) 0xffffffffffffffff ++ [[1], [2]].flatten))
      = 2 :: List.replicate 63 0 := by decide
  have hsave := (hlater [[1], [2]]).2
  rw [hrest] at hsave
  exact ⟨Platform.generic_sound, restored, _, hrestored, hsave⟩

end Checksum.Hasher
