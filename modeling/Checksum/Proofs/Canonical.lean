import Checksum.Proofs.Resumed

/-!
# Canonical saved states

Saving and restoring are inverse to each other, but for the bytes of the block that are not pending,
which restoring ignores and saving makes zero. `Saved.Idle` says where in a saved state they stand: in
its block, from the place on that the count at its end asks for. So saving after restoring replaces these
bytes by zeros and no others (`Hasher.save_of_restore`), restoring after saving loses nothing
(`Hasher.restore_save`), and the saved states of aligned midstates are the blobs with the right tag and
size whose idle bytes are zero, one for each midstate.
-/

namespace Checksum

namespace Saved

variable {n : Nat}

/-- The count in a saved state with `n` words, which is the number in its last eight bytes. -/
def count (n : Nat) (blob : Bytes) : Nat := Bytes.value (blob.drop (4 + 4 * n + 64))

/-- Whether place `i` of a saved state with `n` words is in the block, but behind the pending bytes. -/
def Idle (n : Nat) (blob : Bytes) (i : Nat) : Prop :=
  4 + 4 * n + count n blob % 64 ≤ i ∧ i < 4 + 4 * n + 64

instance (n : Nat) (blob : Bytes) (i : Nat) : Decidable (Idle n blob i) :=
  inferInstanceAs (Decidable (_ ∧ _))

theorem count_layout (tag : Tag) (chain : Chain n) (block : Block) (length : UInt64) :
    count n (layout tag chain block.toList length.toNat) = length.toNat := by
  have hfront : (tag.toList ++ chain.toList.flatMap word ++ block.toList).length = 4 + 4 * n + 64 := by
    rw [List.length_append, List.length_append, length_words, Vector.length_toList,
      Vector.length_toList]
  have hlt : length.toNat < 256 ^ 8 := length.toNat_lt
  rw [count, layout, ← List.append_assoc, ← List.append_assoc, List.drop_left' hfront,
    Bytes.value_digits, Nat.mod_eq_of_lt hlt]

/-- Cutting a block off and filling it up again leaves zeros behind the cut. -/
theorem getElem?_zeroFilled_take (block : Block) {k i : Nat} (hi : i < 64) :
    (zeroFilled (block.toList.take k))[i]? = if k ≤ i then some 0 else block.toList[i]? := by
  by_cases hk : k ≤ i
  · have hlength : (block.toList.take k).length = k := by
      rw [List.length_take, Vector.length_toList]
      omega
    rw [if_pos hk, zeroFilled, List.getElem?_append_right (by omega), hlength,
      List.getElem?_replicate_of_lt (by omega)]
  · have hlength : i < (block.toList.take k).length := by
      rw [List.length_take, Vector.length_toList]
      omega
    rw [if_neg hk, zeroFilled, List.getElem?_append_left hlength, List.getElem?_take_of_lt (by omega)]

/-- Place by place, a layout and the same one with the pending bytes of its block and zeros. -/
theorem getElem?_layout_pending (tag : Tag) (chain : Chain n) (block : Block) (length : UInt64)
    (i : Nat) :
    (layout tag chain (zeroFilled (pending block length)) length.toNat)[i]?
      = if Idle n (layout tag chain block.toList length.toNat) i then some 0
        else (layout tag chain block.toList length.toNat)[i]? := by
  have hlt : length.toNat % 64 < 64 := Nat.mod_lt _ (by decide)
  have hfront : (tag.toList ++ chain.toList.flatMap word).length = 4 + 4 * n := by
    rw [List.length_append, length_words, Vector.length_toList]
  have hfilled : (zeroFilled (pending block length)).length = 64 :=
    length_zeroFilled (by rwa [length_pending])
  have hblock : block.toList.length = 64 := Vector.length_toList
  have hparts (bs : Bytes) : layout tag chain bs length.toNat
      = (tag.toList ++ chain.toList.flatMap word) ++ (bs ++ Bytes.digits 8 length.toNat) :=
    (List.append_assoc _ _ _).symm
  simp only [Idle, count_layout]
  rw [hparts, hparts]
  generalize tag.toList ++ chain.toList.flatMap word = front at hfront
  -- Before the block, in the block, and behind it.
  rcases Nat.lt_or_ge i (4 + 4 * n) with hbefore | hbehind
  · rw [if_neg (by omega), List.getElem?_append_left (by omega), List.getElem?_append_left (by omega)]
  obtain ⟨j, rfl⟩ : ∃ j, i = front.length + j := ⟨i - front.length, by omega⟩
  have hskip (bs : Bytes) : (front ++ bs)[front.length + j]? = bs[j]? := by
    rw [List.getElem?_append_right (by omega), Nat.add_sub_cancel_left]
  rw [hskip, hskip]
  rcases Nat.lt_or_ge j 64 with hin | hout
  · rw [List.getElem?_append_left (by omega), List.getElem?_append_left (by omega), pending,
      getElem?_zeroFilled_take block hin]
    exact if_congr (by omega) rfl rfl
  · rw [if_neg (by omega), List.getElem?_append_right (by omega),
      List.getElem?_append_right (by omega), hfilled, hblock]

end Saved

namespace Midstate

variable {n : Nat} {tag : Tag}

theorem decode_encode {m : Midstate n} (h : m.Aligned) : decode tag (m.encode tag) = .ok m := by
  have hreading := eq_reading (fun chain _ => chain) m
  have haligned : m.buffer.bytes.length % 64 = m.length.toNat % 64 := by
    rw [h, Nat.mod_mod]
  rw [hreading]
  exact decode_encode_reading _ _ _ haligned

/-- What is read is written again, with zeros in the idle places. -/
theorem getElem?_encode_of_decode {blob : Bytes} {m : Midstate n} (h : decode tag blob = .ok m)
    (i : Nat) : (m.encode tag)[i]? = if Saved.Idle n blob i then some 0 else blob[i]? := by
  obtain ⟨htag, hsize⟩ := exists_decode_iff.mp ⟨m, h⟩
  obtain ⟨chain, block, length, rfl⟩ := Saved.exists_layout htag hsize
  have hpending : (Saved.pending block length).length < 64 := by
    rw [Saved.length_pending]
    omega
  rw [decode_layout (fun chain _ => chain)] at h
  obtain rfl := Except.ok.inj h
  rw [encode_reading, Block.whole_of_length_lt hpending, Block.rest_of_length_lt hpending,
    List.foldl_nil, Saved.getElem?_layout_pending]

theorem encode_of_idle_zero {blob : Bytes} {m : Midstate n} (h : decode tag blob = .ok m)
    (hidle : ∀ i, Saved.Idle n blob i → blob[i]? = some 0) : m.encode tag = blob := by
  apply List.ext_getElem?
  intro i
  rw [getElem?_encode_of_decode h]
  by_cases hi : Saved.Idle n blob i
  · rw [if_pos hi, hidle i hi]
  · rw [if_neg hi]

theorem getElem?_encode_of_idle {m : Midstate n} (h : m.Aligned) {i : Nat}
    (hi : Saved.Idle n (m.encode tag) i) : (m.encode tag)[i]? = some 0 := by
  rw [getElem?_encode_of_decode (decode_encode h), if_pos hi]

end Midstate

namespace Hasher

variable {a : Algorithm}

theorem restore_save (b c : Backend) {l : Midstate a.words} (hl : l.Aligned) (m : Midstate a.words) :
    (of c a m).restore (of b a l).save = .ok (of c a l) := by
  rw [save_of, restore_of, Midstate.decode_encode hl]
  rfl

/-- Place by place, what is saved after restoring: zeros in the idle places, the blob elsewhere. -/
theorem save_of_restore {h restored : Hasher} {blob : Bytes} (halgorithm : h.algorithm = a)
    (hrestored : h.restore blob = .ok restored) (i : Nat) :
    restored.save[i]? = if Saved.Idle a.words blob i then some 0 else blob[i]? := by
  obtain ⟨b, a', m, rfl⟩ := h.exists_of
  rw [algorithm_of] at halgorithm
  subst halgorithm
  obtain ⟨l, hl, rfl⟩ := restore_eq_ok_iff.mp hrestored
  rw [save_of, Midstate.getElem?_encode_of_decode hl]

/-- The blobs that are saved of aligned midstates. -/
theorem exists_save_iff {blob : Bytes} :
    (∃ (b : Backend) (l : Midstate a.words), l.Aligned ∧ (of b a l).save = blob)
      ↔ blob.take 4 = a.tag.toList ∧ blob.length = savedSize a.words ∧
        ∀ i, Saved.Idle a.words blob i → blob[i]? = some 0 := by
  constructor
  · rintro ⟨b, l, hl, rfl⟩
    rw [save_of]
    obtain ⟨htag, hsize⟩ := Midstate.exists_decode_iff.mp ⟨l, Midstate.decode_encode hl⟩
    refine ⟨htag, hsize, ?_⟩
    intro i hi
    exact Midstate.getElem?_encode_of_idle hl hi
  · rintro ⟨htag, hsize, hidle⟩
    obtain ⟨l, hl⟩ := Midstate.exists_decode_iff.mpr ⟨htag, hsize⟩
    refine ⟨.portable, l, Midstate.aligned_of_decode hl, ?_⟩
    rw [save_of, Midstate.encode_of_idle_zero hl hidle]

theorem save_inj {b c : Backend} {l m : Midstate a.words} (hl : l.Aligned) (hm : m.Aligned)
    (h : (of b a l).save = (of c a m).save) : l = m := by
  rw [save_of, save_of] at h
  have hdecode : Midstate.decode a.tag (l.encode a.tag) = .ok m := by
    rw [h, Midstate.decode_encode hm]
  rw [Midstate.decode_encode hl] at hdecode
  exact Except.ok.inj hdecode

/-- Between the aligned midstates and the blobs with the tag, the size and zeros in the idle places,
saving and restoring are inverse to each other; restoring keeps the backend of the hasher it is done on,
and other blobs with the tag and the size only differ from theirs in the idle places. -/
theorem saved_states_are_canonical (a : Algorithm) :
    (∀ (b c : Backend) (l m : Midstate a.words), l.Aligned →
      (of c a m).restore (of b a l).save = .ok (of c a l)) ∧
    (∀ (h restored : Hasher) (blob : Bytes), h.algorithm = a → h.restore blob = .ok restored →
      ∀ i, restored.save[i]? = if Saved.Idle a.words blob i then some 0 else blob[i]?) ∧
    (∀ blob : Bytes, (∃ (b : Backend) (l : Midstate a.words), l.Aligned ∧ (of b a l).save = blob)
      ↔ blob.take 4 = a.tag.toList ∧ blob.length = savedSize a.words ∧
        ∀ i, Saved.Idle a.words blob i → blob[i]? = some 0) ∧
    (∀ (b c : Backend) (l m : Midstate a.words), l.Aligned → m.Aligned →
      (of b a l).save = (of c a m).save → l = m) := by
  refine ⟨?_, ?_, ?_, ?_⟩
  · intro b c l m hl
    exact restore_save b c hl m
  · intro h restored blob halgorithm hrestored i
    exact save_of_restore halgorithm hrestored i
  · intro blob
    exact exists_save_iff
  · intro b c l m hl hm hsave
    exact save_inj hl hm hsave

/-- Two ways of writing three bytes, and a blob with sixty-one idle bytes that are not zero. -/
theorem saved_states_are_canonical_sha224 :
    let run := Platform.generic.run .accelerated .sha224
    let l := [[1], [2, 3]].foldl (Midstate.absorb run) (.start Algorithm.sha224.initial)
    let m := [[1, 2, 3]].foldl (Midstate.absorb run) (.start Algorithm.sha224.initial)
    let saved := (of .accelerated .sha224 l).save
    let blob := Saved.layout (n := 8) Algorithm.sha224.tag (Vector.replicate 8 7)
      (Vector.replicate 64 0xff).toList 67
    l.Aligned ∧ m.Aligned ∧ saved = (of .portable .sha224 m).save ∧ l = m ∧
      (start .portable .sha224).restore saved = .ok (of .portable .sha224 l) ∧
      (∀ i, Saved.Idle 8 saved i → saved[i]? = some 0) ∧
      ∃ restored, (start .portable .sha224).restore blob = .ok restored ∧
        restored.save[38]? = some 0xff ∧ restored.save[39]? = some 0 := by
  intro run l m saved blob
  have hl : l.Aligned := ((Midstate.start_aligned _).absorb run [1]).absorb run [2, 3]
  have hm : m.Aligned := (Midstate.start_aligned _).absorb run [1, 2, 3]
  have hsame : saved = (of .portable .sha224 m).save := by decide
  obtain ⟨hrestore, hsave, hrange, hinj⟩ := saved_states_are_canonical .sha224
  have hrestored : (start .portable .sha224).restore blob = .ok _ :=
    restore_layout (a := .sha224) _ (Vector.replicate 8 7) (Vector.replicate 64 0xff) 67
  have hplaces := hsave _ _ _ rfl hrestored
  refine ⟨hl, hm, hsame, hinj .accelerated .portable l m hl hm hsame,
    hrestore .accelerated .portable l _ hl, (hrange saved |>.mp ⟨_, l, hl, rfl⟩).2.2, _, hrestored,
    ?_, ?_⟩
  · rw [hplaces, if_neg (by decide)]
    rfl
  · rw [hplaces, if_pos (by decide)]

end Hasher

end Checksum
