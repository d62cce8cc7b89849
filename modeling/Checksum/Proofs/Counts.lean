import Checksum.Proofs.Backends
import Checksum.Proofs.Canonical
import Checksum.Proofs.Collision

/-!
# What a checksum shows of the count

The count of a midstate takes no part in cutting the data into blocks. It is looked at once, when the
padding is made, and there the number of bits drops the top three bits of the number of bytes. So two
midstates that differ in nothing but their counts pass on the same blocks as long as they absorb the same
data (`Buffer.passed` does not know the count), and they close with the same blocks exactly if the counts
agree modulo `2 ^ 61` (`Midstate.closing_counting_eq_iff`). These blocks are all that a checksum is made of
(`Hasher.checksum_writeAll_of`). A saved state holds the words after the blocks of the writes and keeps all of
the count, so it tells apart what the checksum does not.
-/

namespace Checksum

namespace Buffer

theorem close_inj {b : Buffer} {field other : Bytes} {h : field.length = 8} {h' : other.length = 8}
    (heq : b.close field h = b.close other h') : field = other := by
  have hbytes := congrArg Block.bytes heq
  rw [bytes_close, bytes_close, List.append_cancel_left_eq, List.append_cancel_left_eq] at hbytes
  exact hbytes

end Buffer

namespace Midstate

variable {n : Nat} {run : Compression n}

/-- The midstate with another count. -/
def counting (m : Midstate n) (length : UInt64) : Midstate n := { m with length }

theorem foldl_absorb_counting (m : Midstate n) (length : UInt64) (pieces : List Bytes) :
    pieces.foldl (absorb run) (m.counting length)
      = (pieces.foldl (absorb run) m).counting (length + UInt64.ofNat pieces.flatten.length) := by
  induction pieces generalizing m length with
  | nil => simp
  | cons piece pieces ih =>
      have hstep : (m.counting length).absorb run piece
          = (m.absorb run piece).counting (length + UInt64.ofNat piece.length) := rfl
      rw [List.foldl_cons, hstep, ih, List.foldl_cons, List.flatten_cons, List.length_append,
        UInt64.ofNat_add, UInt64.add_assoc]

/-- Padding tells counts apart as far as their last 61 bits. -/
theorem closing_counting_eq_iff (order : ByteOrder) (m : Midstate n) (length other : UInt64) :
    (m.counting length).closing order = (m.counting other).closing order
      ↔ length.toNat % 2 ^ 61 = other.toNat % 2 ^ 61 := by
  rw [← Padding.lengthField_eq_iff order, ← Padding.bytes64_mul_eight,
    ← Padding.bytes64_mul_eight]
  constructor
  · intro heq
    exact Buffer.close_inj heq
  · intro heq
    simp only [closing, counting, heq]

/-- The count stands behind everything else in a saved state. -/
theorem encode_counting (tag : Tag) (m : Midstate n) (length : UInt64) :
    (m.counting length).encode tag
      = tag.toList ++ (m.chain.toList.flatMap Saved.word ++ m.buffer.zeroFilled)
          ++ Bytes.digits 8 length.toNat := by
  have hword : ByteOrder.big.bytes32 = Saved.word := funext Saved.bytes32_eq_word
  rw [encode, Saved.bytes64_eq_digits, hword, List.append_assoc tag.toList]
  rfl

end Midstate

namespace Saved

variable {n : Nat}

theorem take_layout_front (tag : Tag) (chain : Chain n) (block : Block) (length : UInt64) :
    (layout tag chain block.toList length.toNat).take (4 + 4 * n + 64)
      = tag.toList ++ (chain.toList.flatMap word ++ block.toList) := by
  have hparts : layout tag chain block.toList length.toNat
      = (tag.toList ++ (chain.toList.flatMap word ++ block.toList)) ++ Bytes.digits 8 length.toNat := by
    simp only [layout, List.append_assoc]
  have hfront : (tag.toList ++ (chain.toList.flatMap word ++ block.toList)).length = 4 + 4 * n + 64 := by
    simp only [List.length_append, length_words, Vector.length_toList]
    omega
  rw [hparts, List.take_left' hfront]

/-- A blob that is a layout up to its count is one with a count of its own. -/
theorem exists_layout_of_take_eq {blob : Bytes} {tag : Tag} {chain : Chain n} {block : Block}
    {length : UInt64} (hsize : blob.length = savedSize n)
    (hfront : (layout tag chain block.toList length.toNat).take (4 + 4 * n + 64)
      = blob.take (4 + 4 * n + 64)) :
    ∃ count : UInt64, blob = layout tag chain block.toList count.toNat := by
  have hcount : (blob.drop (4 + 4 * n + 64)).length = 8 := by
    rw [List.length_drop, hsize, savedSize]
    omega
  refine ⟨ByteOrder.big.word64 (blob.drop (4 + 4 * n + 64)), ?_⟩
  have hblob := List.take_append_drop (4 + 4 * n + 64) blob
  rw [← hfront, take_layout_front] at hblob
  rw [layout, ← bytes64_eq_digits, ByteOrder.bytes64_word64 .big hcount]
  simpa only [List.append_assoc] using hblob.symm

end Saved

namespace Hasher

open Saved

variable {p : Platform} {a : Algorithm}

/-- The bytes that wait for their block. -/
def buffer : Hasher → Buffer
  | md5 m => m.buffer
  | sha2 _ _ m => m.buffer

/-- The blocks that are compressed when the checksum is read. -/
def closing : Hasher → List Block
  | md5 m => m.closing .little
  | sha2 _ _ m => m.closing .big

theorem buffer_of (b : Backend) (m : Midstate a.words) : (of b a m).buffer = m.buffer := by
  cases a <;> rfl

theorem closing_of (b : Backend) (m : Midstate a.words) : (of b a m).closing = m.closing a.order := by
  cases a <;> rfl

/-- The words of the chaining value after runs of blocks that are compressed one behind another. -/
def wordsAfter (p : Platform) (runs : List (List Block)) : Hasher → List UInt32
  | md5 m => (runs.foldl Md5.run m.chain).toList
  | sha2 _ b m => (runs.foldl (p.compression b) m.chain).toList

theorem wordsAfter_of (b : Backend) (m : Midstate a.words) (runs : List (List Block)) :
    (of b a m).wordsAfter p runs = (runs.foldl (p.run b a) m.chain).toList := by
  cases a <;> rfl

/-- The checksum is made of the blocks that writing and closing compress, and of nothing else. -/
theorem checksum_writeAll_of (b : Backend) (m : Midstate a.words) (pieces : List Bytes) :
    ((of b a m).writeAll p pieces).1.checksum p
      = a.digest ((of b a m).wordsAfter p
          ((of b a m).buffer.passed pieces ++ [((of b a m).writeAll p pieces).1.closing])) := by
  rw [writeAll_of, checksum_of, Midstate.digest, Midstate.finish, Midstate.chain_foldl_absorb,
    closing_of, Algorithm.output_eq_digest, wordsAfter_of, buffer_of, List.foldl_append]
  rfl

/-- Checksums are the same if the words, the pending bytes and the closing blocks are. -/
theorem checksum_eq_of_closing_eq {b c : Backend} {l m : Midstate a.words} (pieces : List Bytes)
    (hrun : p.run b a = p.run c a) (hchain : l.chain = m.chain) (hbuffer : l.buffer = m.buffer)
    (hclosing : ((of b a l).writeAll p pieces).1.closing = ((of c a m).writeAll p pieces).1.closing) :
    ((of b a l).writeAll p pieces).1.checksum p = ((of c a m).writeAll p pieces).1.checksum p := by
  rw [checksum_writeAll_of, checksum_writeAll_of, hclosing, wordsAfter_of, wordsAfter_of, buffer_of,
    buffer_of, hrun, hchain, hbuffer]

/-- The kernel has to be sound only if it makes the difference. -/
theorem run_eq_of_backend? {b c : Backend} {l m : Midstate a.words}
    (hkernel : (of b a l).backend? ≠ (of c a m).backend? → p.Sound) : p.run b a = p.run c a := by
  by_cases hsame : (of b a l).backend? = (of c a m).backend?
  · cases a with
    | md5 => rfl
    | sha224 => rw [Option.some.inj hsame]
    | sha256 => rw [Option.some.inj hsame]
  · have hsound := hkernel hsame
    rw [hsound.run_eq, hsound.run_eq]

/-- What has been written is counted on top of the count at the outset. -/
theorem writeAll_counting (b : Backend) (m : Midstate a.words) (start : UInt64) (pieces : List Bytes) :
    ((of b a (m.counting start)).writeAll p pieces).1
      = of b a ((pieces.foldl (Midstate.absorb (p.run b a)) m).counting
          (start + UInt64.ofNat pieces.flatten.length)) := by
  rw [writeAll_of, Midstate.foldl_absorb_counting]

theorem closing_writeAll_counting_eq_iff {b c : Backend} (hrun : p.run b a = p.run c a)
    (m : Midstate a.words) (start start' : UInt64) (pieces : List Bytes) :
    ((of b a (m.counting start)).writeAll p pieces).1.closing
        = ((of c a (m.counting start')).writeAll p pieces).1.closing
      ↔ start.toNat % 2 ^ 61 = start'.toNat % 2 ^ 61 := by
  rw [writeAll_counting, writeAll_counting, ← hrun, closing_of, closing_of,
    Midstate.closing_counting_eq_iff, UInt64.toNat_add, UInt64.toNat_add, UInt64.toNat_ofNat']
  omega

/-- What is saved is the words after the blocks of the writes, what waits, and the count. -/
theorem save_writeAll_counting (b : Backend) (m : Midstate a.words) (start : UInt64)
    (pieces : List Bytes) :
    ((of b a (m.counting start)).writeAll p pieces).1.save
      = a.tag.toList ++ (((of b a (m.counting start)).wordsAfter p
            ((of b a (m.counting start)).buffer.passed pieces)).flatMap word
          ++ (pieces.foldl (Midstate.absorb (p.run b a)) m).buffer.zeroFilled)
        ++ Bytes.digits 8 ((start.toNat + pieces.flatten.length) % 2 ^ 64) := by
  rw [writeAll_counting, save_of, Midstate.encode_counting, Midstate.chain_foldl_absorb, wordsAfter_of,
    buffer_of, UInt64.toNat_add, UInt64.toNat_ofNat', Nat.add_mod_mod]
  rfl

/-- As the count is below `2 ^ 64` at the outset, it can be told from where it has come to. -/
theorem digits_count_eq_iff (start start' : UInt64) (written : Nat) :
    Bytes.digits 8 ((start.toNat + written) % 2 ^ 64) = Bytes.digits 8 ((start'.toNat + written) % 2 ^ 64)
      ↔ start.toNat = start'.toNat := by
  constructor
  · intro hdigits
    have hvalue := congrArg Bytes.value hdigits
    rw [Bytes.value_digits, Bytes.value_digits] at hvalue
    have hlt := start.toNat_lt
    have hlt' := start'.toNat_lt
    omega
  · intro heq
    rw [heq]

/-- Two blobs that differ in their counts alone are restored as one midstate under two counts, if as many
bytes are pending in both. -/
theorem exists_counting {b c : Backend} {k l : Midstate a.words} {r r' : Hasher} {blob blob' : Bytes}
    (hrestored : (of b a k).restore blob = .ok r) (hrestored' : (of c a l).restore blob' = .ok r')
    (hfront : blob.take (4 + 4 * a.words + 64) = blob'.take (4 + 4 * a.words + 64))
    (hpending : count a.words blob % 64 = count a.words blob' % 64) :
    ∃ (m : Midstate a.words) (length length' : UInt64),
      r = of b a (m.counting length) ∧ r' = of c a (m.counting length') ∧
      count a.words blob = length.toNat ∧ count a.words blob' = length'.toNat := by
  obtain ⟨m, hm, rfl⟩ := restore_eq_ok_iff.mp hrestored
  obtain ⟨m', hm', rfl⟩ := restore_eq_ok_iff.mp hrestored'
  obtain ⟨htag, hsize⟩ := Midstate.exists_decode_iff.mp ⟨m, hm⟩
  obtain ⟨-, hsize'⟩ := Midstate.exists_decode_iff.mp ⟨m', hm'⟩
  obtain ⟨chain, block, length, rfl⟩ := exists_layout htag hsize
  obtain ⟨length', rfl⟩ := exists_layout_of_take_eq hsize' hfront
  rw [count_layout, count_layout] at hpending
  have hsame : pending block length' = pending block length := by rw [pending, pending, hpending]
  rw [Midstate.decode_layout a.compress] at hm
  rw [Midstate.decode_layout a.compress, hsame] at hm'
  obtain rfl := Except.ok.inj hm
  obtain rfl := Except.ok.inj hm'
  exact ⟨.reading a.compress chain (pending block length) length, length, length', rfl, rfl,
    count_layout _ _ _ _, count_layout _ _ _ _⟩

/-- Two states that differ in their counts alone, with as many bytes pending, pass on the same blocks while
the same pieces are written. When the checksum is read, they compress the same blocks exactly if the counts
agree modulo `2 ^ 61`. The checksums are made of these blocks, from the same words, and so they agree then;
but what is saved, the words after the blocks of the writes and what waits, agrees up to the count, which
goes on modulo `2 ^ 64`, and so never agrees unless the counts did. -/
theorem checksum_shows_count_modulo {h h' r r' : Hasher} {blob blob' : Bytes} (halgorithm : h.algorithm = a)
    (halgorithm' : h'.algorithm = a) (hkernel : h.backend? ≠ h'.backend? → p.Sound)
    (hrestored : h.restore blob = .ok r) (hrestored' : h'.restore blob' = .ok r')
    (hfront : blob.take (4 + 4 * a.words + 64) = blob'.take (4 + 4 * a.words + 64))
    (hpending : count a.words blob % 64 = count a.words blob' % 64) (pieces : List Bytes) :
    let length := count a.words blob
    let length' := count a.words blob'
    let written := pieces.flatten.length
    let one := (r.writeAll p pieces).1
    let two := (r'.writeAll p pieces).1
    r.buffer.passed pieces = r'.buffer.passed pieces ∧
    (one.closing = two.closing ↔ length % 2 ^ 61 = length' % 2 ^ 61) ∧
    (∀ runs, r.wordsAfter p runs = r'.wordsAfter p runs) ∧
    one.checksum p = a.digest (r.wordsAfter p (r.buffer.passed pieces ++ [one.closing])) ∧
    two.checksum p = a.digest (r'.wordsAfter p (r'.buffer.passed pieces ++ [two.closing])) ∧
    (length % 2 ^ 61 = length' % 2 ^ 61 → one.checksum p = two.checksum p) ∧
    (∃ waiting : Bytes, waiting.length = 64 ∧
      let front := a.tag.toList ++ ((r.wordsAfter p (r.buffer.passed pieces)).flatMap word ++ waiting)
      one.save = front ++ Bytes.digits 8 ((length + written) % 2 ^ 64) ∧
      two.save = front ++ Bytes.digits 8 ((length' + written) % 2 ^ 64)) ∧
    (one.save = two.save ↔ length = length') := by
  intro length length' written one two
  obtain ⟨b, a', k, rfl⟩ := h.exists_of
  obtain ⟨c, a, l, rfl⟩ := h'.exists_of
  rw [algorithm_of] at halgorithm halgorithm'
  subst halgorithm
  subst halgorithm'
  obtain ⟨m, start, start', rfl, rfl, hstart, hstart'⟩ :=
    exists_counting hrestored hrestored' hfront hpending
  have hlength : length = start.toNat := hstart
  have hlength' : length' = start'.toNat := hstart'
  have hrun : p.run b a = p.run c a := run_eq_of_backend? hkernel
  have hpassed : (of b a (m.counting start)).buffer.passed pieces
      = (of c a (m.counting start')).buffer.passed pieces := by
    rw [buffer_of, buffer_of]
    rfl
  have hclosing : one.closing = two.closing ↔ length % 2 ^ 61 = length' % 2 ^ 61 := by
    rw [hlength, hlength']
    exact closing_writeAll_counting_eq_iff hrun m start start' pieces
  have hwords (runs : List (List Block)) : (of b a (m.counting start)).wordsAfter p runs
      = (of c a (m.counting start')).wordsAfter p runs := by
    rw [wordsAfter_of, wordsAfter_of, hrun]
    rfl
  have hsave : one.save = _ := save_writeAll_counting b m start pieces
  have hsave' : two.save = _ := save_writeAll_counting c m start' pieces
  rw [← hpassed, ← hwords, ← hrun] at hsave'
  refine ⟨hpassed, hclosing, hwords, checksum_writeAll_of b _ pieces, checksum_writeAll_of c _ pieces,
    ?_, ?_, ?_⟩
  · intro hmod
    exact checksum_eq_of_closing_eq pieces hrun rfl rfl (hclosing.mpr hmod)
  · rw [hlength, hlength']
    exact ⟨_, Buffer.length_zeroFilled _, hsave, hsave'⟩
  · rw [hlength, hlength', hsave, hsave', List.append_cancel_left_eq, digits_count_eq_iff]

/-- Three states with sixty-three bytes pending. The counts of the first two differ by a multiple of
`2 ^ 61`, and one of them wraps as soon as a byte is written; that of the third differs by `2 ^ 60`. -/
theorem checksum_shows_count_modulo_past_wrap :
    let blob (length : Nat) := layout (n := 8) Algorithm.sha224.tag (Vector.replicate 8 7)
      (Vector.replicate 64 0xff).toList length
    let pieces : List Bytes := [[1], [], [2, 3]]
    ∃ one two three, (start .accelerated .sha224).restore (blob (2 ^ 64 - 1)) = .ok one ∧
      (start .portable .sha224).restore (blob (2 ^ 61 - 1)) = .ok two ∧
      (start .portable .sha224).restore (blob (2 ^ 60 - 1)) = .ok three ∧
      (one.writeAll .generic pieces).1.checksum .generic
        = (two.writeAll .generic pieces).1.checksum .generic ∧
      (one.writeAll .generic pieces).1.save ≠ (two.writeAll .generic pieces).1.save ∧
      one.buffer.passed pieces = three.buffer.passed pieces ∧
      (one.writeAll .generic pieces).1.closing ≠ (three.writeAll .generic pieces).1.closing := by
  intro blob pieces
  have hone : (start .accelerated .sha224).restore (blob (2 ^ 64 - 1)) = .ok _ :=
    restore_layout (a := .sha224) _ (Vector.replicate 8 7) (Vector.replicate 64 0xff) 0xffffffffffffffff
  have htwo : (start .portable .sha224).restore (blob (2 ^ 61 - 1)) = .ok _ :=
    restore_layout (a := .sha224) _ (Vector.replicate 8 7) (Vector.replicate 64 0xff) 0x1fffffffffffffff
  have hthree : (start .portable .sha224).restore (blob (2 ^ 60 - 1)) = .ok _ :=
    restore_layout (a := .sha224) _ (Vector.replicate 8 7) (Vector.replicate 64 0xff) 0x0fffffffffffffff
  have halgorithm (b : Backend) : (start b .sha224).algorithm = .sha224 := rfl
  obtain ⟨-, -, -, -, -, hchecksum, -, hsave⟩ := checksum_shows_count_modulo (halgorithm .accelerated)
    (halgorithm .portable) (fun _ => Platform.generic_sound) hone htwo (by decide) (by decide) pieces
  obtain ⟨hpassed, hclosing, -⟩ := checksum_shows_count_modulo (halgorithm .accelerated)
    (halgorithm .portable) (fun _ => Platform.generic_sound) hone hthree (by decide) (by decide) pieces
  exact ⟨_, _, _, hone, htwo, hthree, hchecksum (by decide), mt hsave.mp (by decide), hpassed,
    mt hclosing.mp (by decide)⟩

end Hasher

end Checksum
