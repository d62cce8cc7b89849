import Mathlib.Logic.Relation
import Checksum.Proofs.Backends
import Checksum.Proofs.Canonical
import Checksum.Proofs.Guarded

/-!
# SHA-224 beside SHA-256

Once both variants are under way, nothing tells them apart but the fourth byte of the tag and the length of
the digest. Two hashers are `Twins` if they are one of each variant and have the same midstate, on
backends that compress alike. Twins stay twins under writing (`Twins.writeAll`). The checksum of the first
is the front of that of the second (`Twins.checksum_eq`), 28 bytes of 32 (`Twins.length_checksum`), and
either saved state becomes the other one by a change of that byte (`Twins.save_eq`). Only resetting parts
them, since their first chaining values differ.

Every hasher finds a twin in every hasher of the other variant. What is restored has as many pending bytes
as the count asks for, so it is the midstate that was saved only if there were as many in the first place.
There are, in all hashers that come about by writing, resetting and restoring (`Reachable.aligned`).
-/

namespace Checksum

namespace Sha256.Variant

/-- The byte of the tag in which the variants differ. -/
def mark : Variant → UInt8
  | sha224 => 0x02
  | sha256 => 0x03

theorem set_tag (v w : Variant) : v.tag.toList.set 3 w.mark = w.tag.toList := by
  cases v <;> cases w <;> rfl

end Sha256.Variant

namespace Midstate

open Sha256

theorem set_encode (v w : Variant) (m : Midstate 8) :
    (m.encode v.tag).set 3 w.mark = m.encode w.tag := by
  have hfourth : 3 < v.tag.toList.length := by
    rw [Vector.length_toList]
    decide
  simp only [encode, List.append_assoc]
  rw [List.set_append_left _ _ hfourth, Variant.set_tag]

theorem getElem?_encode_mark (v : Variant) (m : Midstate 8) :
    (m.encode v.tag)[3]? = some v.mark := by
  rw [← set_encode v v m, List.getElem?_set_self]
  rw [length_encode]
  decide

/-- A shorter digest is the front of a longer one. -/
theorem take_digest {n : Nat} (order : ByteOrder) (run : Compression n) (m : Midstate n) {size full : Nat}
    (h : size ≤ full) :
    (m.digest order run full).take size = m.digest order run size := by
  rw [digest, digest, output, output, List.take_take, Nat.min_eq_left h]

end Midstate

namespace Hasher

open Sha256

variable {p : Platform} {a : Algorithm} {v w : Variant} {h target one two : Hasher}

/-! ### Twins -/

/-- A SHA-224 hasher and a SHA-256 hasher with one midstate, on backends that compress alike. -/
inductive Twins (p : Platform) : Hasher → Hasher → Prop where
  | of_midstate {b c : Backend} (hrun : p.compression b = p.compression c) (m : Midstate 8) :
      Twins p (sha2 .sha224 b m) (sha2 .sha256 c m)

theorem Twins.write (htwins : Twins p one two) (piece : Bytes) :
    Twins p (one.write p piece).1 (two.write p piece).1 := by
  obtain ⟨hrun, m⟩ := htwins
  simp only [Hasher.write, Midstate.write, hrun]
  exact .of_midstate hrun _

theorem Twins.writeAll (htwins : Twins p one two) (pieces : List Bytes) :
    Twins p (one.writeAll p pieces).1 (two.writeAll p pieces).1 := by
  induction pieces generalizing one two with
  | nil => exact htwins
  | cons piece pieces ih =>
      rw [← List.singleton_append, writeAll_append, writeAll_append]
      exact ih (htwins.write piece)

theorem Twins.checksum_eq (htwins : Twins p one two) :
    one.checksum p = (two.checksum p).take 28 := by
  obtain ⟨hrun, m⟩ := htwins
  have hshorter : Variant.sha224.digestSize ≤ Variant.sha256.digestSize := by decide
  rw [checksum, checksum, hrun]
  exact (m.take_digest .big _ hshorter).symm

theorem Twins.length_checksum (htwins : Twins p one two) :
    (one.checksum p).length = 28 ∧ (two.checksum p).length = 32 := by
  obtain ⟨-, m⟩ := htwins
  exact ⟨Hasher.length_checksum p _, Hasher.length_checksum p _⟩

theorem Twins.save_eq (htwins : Twins p one two) :
    one.save[3]? = some 0x02 ∧ two.save[3]? = some 0x03 ∧
      two.save = one.save.set 3 0x03 ∧ one.save = two.save.set 3 0x02 := by
  obtain ⟨-, m⟩ := htwins
  exact ⟨m.getElem?_encode_mark .sha224, m.getElem?_encode_mark .sha256,
    (m.set_encode .sha224 .sha256).symm, (m.set_encode .sha256 .sha224).symm⟩

/-! ### Reaching a hasher -/

/-- The hasher comes about from a fresh one by writing, resetting and restoring in any order, where what is
restored may be any blob that is accepted. -/
def Reachable (p : Platform) (a : Algorithm) (h : Hasher) : Prop :=
  ∃ b, Relation.ReflTransGen (Later p) (start b a) h

theorem Later.algorithm {later : Hasher} (hlater : h.Later p later) : later.algorithm = h.algorithm := by
  obtain ⟨b, a, m, rfl⟩ := h.exists_of
  obtain ⟨l, rfl⟩ := hlater.exists_of
  rw [algorithm_of, algorithm_of]

theorem Reachable.algorithm (hreach : h.Reachable p a) : h.algorithm = a := by
  obtain ⟨b, hsteps⟩ := hreach
  induction hsteps with
  | refl => rw [start_eq_of, algorithm_of]
  | tail _ hlater ih => rw [hlater.algorithm, ih]

theorem Reachable.aligned (hreach : h.Reachable p a) : h.raw.Aligned := by
  obtain ⟨b, hsteps⟩ := hreach
  induction hsteps with
  | refl => exact aligned_start b a
  | tail _ hlater ih => exact hlater.aligned ih

theorem exists_sha2 (halgorithm : h.algorithm = .ofVariant v) : ∃ b m, h = sha2 v b m := by
  obtain ⟨b, a, m, rfl⟩ := h.exists_of
  rw [algorithm_of] at halgorithm
  subst halgorithm
  cases v with
  | sha224 => exact ⟨b, m, rfl⟩
  | sha256 => exact ⟨b, m, rfl⟩

/-! ### From one variant to the other -/

/-- Each hasher takes over the midstate of the other if the mark is changed to that of its own variant. -/
theorem restore_marked (b c : Backend) {m : Midstate 8} (hm : m.Aligned) (l : Midstate 8) :
    (sha2 w c l).restore ((sha2 v b m).save.set 3 w.mark) = .ok (sha2 w c m) := by
  rw [save, Midstate.set_encode, restore, Midstate.decode_encode hm]
  rfl

/-- The kernel has to be sound only for backends that differ. -/
theorem compression_eq {b c : Backend} (hkernel : some b ≠ some c → p.Sound) :
    p.compression b = p.compression c := by
  by_cases hsame : b = c
  · rw [hsame]
  · have hsound : p.Sound := hkernel fun h => hsame (Option.some.inj h)
    exact (hsound.run_eq b .sha256).trans (hsound.run_eq c .sha256).symm

/-- What is handed over is the midstate, between any two variants. -/
theorem exists_handed_over (hreach : h.Reachable p (.ofVariant v)) (htarget : target.algorithm = .ofVariant w)
    (hkernel : h.backend? ≠ target.backend? → p.Sound) :
    ∃ b c m, h = sha2 v b m ∧ target.restore (h.save.set 3 w.mark) = .ok (sha2 w c m) ∧
      p.compression b = p.compression c := by
  have haligned := hreach.aligned
  obtain ⟨b, m, rfl⟩ := exists_sha2 hreach.algorithm
  obtain ⟨c, l, rfl⟩ := exists_sha2 htarget
  exact ⟨b, c, m, rfl, restore_marked b c haligned l, compression_eq hkernel⟩

/-- With the fourth byte changed, the state of a hasher of either variant is accepted by every hasher of
the other, and the two go on with the same pieces as twins: one checksum is 28 bytes, the other 32, of
which the first are the same. -/
theorem variants_part_in_mark_and_size (p : Platform) :
    (∀ h target : Hasher, h.Reachable p .sha224 → target.algorithm = .sha256 →
      (h.backend? ≠ target.backend? → p.Sound) →
      ∃ restored, target.restore (h.save.set 3 0x03) = .ok restored ∧
        ∀ pieces : List Bytes,
          let one := (h.writeAll p pieces).1
          let two := (restored.writeAll p pieces).1
          one.checksum p = (two.checksum p).take 28 ∧
            (one.checksum p).length = 28 ∧ (two.checksum p).length = 32 ∧
            one.save[3]? = some 0x02 ∧ two.save = one.save.set 3 0x03) ∧
    (∀ h target : Hasher, h.Reachable p .sha256 → target.algorithm = .sha224 →
      (h.backend? ≠ target.backend? → p.Sound) →
      ∃ restored, target.restore (h.save.set 3 0x02) = .ok restored ∧
        ∀ pieces : List Bytes,
          let one := (restored.writeAll p pieces).1
          let two := (h.writeAll p pieces).1
          one.checksum p = (two.checksum p).take 28 ∧
            (one.checksum p).length = 28 ∧ (two.checksum p).length = 32 ∧
            two.save[3]? = some 0x03 ∧ one.save = two.save.set 3 0x02) := by
  constructor
  · intro h target hreach htarget hkernel
    obtain ⟨b, c, m, rfl, hrestored, hrun⟩ :=
      exists_handed_over (v := .sha224) (w := .sha256) hreach htarget hkernel
    refine ⟨_, hrestored, ?_⟩
    intro pieces one two
    have htwins : Twins p one two := (Twins.of_midstate hrun m).writeAll pieces
    obtain ⟨hshort, hlong⟩ := htwins.length_checksum
    obtain ⟨hone, -, htwo, -⟩ := htwins.save_eq
    exact ⟨htwins.checksum_eq, hshort, hlong, hone, htwo⟩
  · intro h target hreach htarget hkernel
    obtain ⟨b, c, m, rfl, hrestored, hrun⟩ :=
      exists_handed_over (v := .sha256) (w := .sha224) hreach htarget hkernel
    refine ⟨_, hrestored, ?_⟩
    intro pieces one two
    have htwins : Twins p one two := (Twins.of_midstate hrun.symm m).writeAll pieces
    obtain ⟨hshort, hlong⟩ := htwins.length_checksum
    obtain ⟨-, htwo, -, hone⟩ := htwins.save_eq
    exact ⟨htwins.checksum_eq, hshort, hlong, htwo, hone⟩

/-- A SHA-224 hasher that has restored a state no hasher saves and then wrapped its count, a SHA-256
hasher on the other backend that has read something else, and the way back from the latter. -/
theorem variants_part_in_mark_and_size_past_wrap :
    let blob := Saved.layout (n := 8) Algorithm.sha224.tag (Vector.replicate 8 7)
      (Vector.replicate 64 0xff).toList (2 ^ 64 - 1)
    let target := ((start .portable .sha256).writeAll .generic [[9]]).1
    Platform.generic.Sound ∧ target.Reachable .generic .sha256 ∧
      ∃ before, (start .accelerated .sha224).restore blob = .ok before ∧
        let h := (before.writeAll .generic [[1, 2]]).1
        h.Reachable .generic .sha224 ∧ h.length = 1 ∧ h.backend? ≠ target.backend? ∧
          (∃ restored, target.restore (h.save.set 3 0x03) = .ok restored ∧
            (h.writeAll .generic [[3], [], [4, 5]]).1.checksum .generic
              = ((restored.writeAll .generic [[3], [], [4, 5]]).1.checksum .generic).take 28) ∧
          ∃ restored, h.restore (target.save.set 3 0x02) = .ok restored ∧
            restored.checksum .generic = (target.checksum .generic).take 28 := by
  intro blob target
  have htarget : target.Reachable .generic .sha256 := ⟨.portable, .single (.written [[9]])⟩
  have hrestored : (start .accelerated .sha224).restore blob = .ok _ :=
    restore_layout (a := .sha224) _ (Vector.replicate 8 7) (Vector.replicate 64 0xff)
      0xffffffffffffffff
  refine ⟨Platform.generic_sound, htarget, _, hrestored, ?_⟩
  intro h
  have hreach : h.Reachable .generic .sha224 :=
    ⟨.accelerated, .tail (.single (.restored hrestored)) (.written [[1, 2]])⟩
  have hbackend : h.backend? ≠ target.backend? := by decide
  obtain ⟨hforth, hback⟩ := variants_part_in_mark_and_size .generic
  obtain ⟨restored, haccepted, hlater⟩ := hforth h target hreach rfl fun _ => Platform.generic_sound
  obtain ⟨back, hreturned, hsame⟩ := hback target h htarget rfl fun _ => Platform.generic_sound
  exact ⟨hreach, by decide, hbackend, ⟨restored, haccepted, (hlater [[3], [], [4, 5]]).1⟩,
    back, hreturned, (hsame []).1⟩

end Hasher

end Checksum
