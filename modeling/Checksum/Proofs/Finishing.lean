import Checksum.Proofs.Bytewise
import Checksum.Proofs.Collision

/-!
# Finishing as writing

Finishing builds the last one or two blocks from the bytes that are pending. The padding can as well be said
by the count alone and written like any other data: the byte `0x80`, as many zeros as `55 - count` is modulo
64, and the length field. Both come to the same as long as the pending bytes are as many as the count says
(`Midstate.zeroRun_of_aligned`), and nothing is pending behind the padding. Nine bytes of it are no zeros, so
a message takes one block more than there are whole ones in it with eight bytes added
(`Padding.length_whole_padded`). The blocks that are counted are those that writing passes on and those that
finishing adds, and every compression gets the same ones (`Midstate.given_eq_passed`).
-/

namespace Checksum

namespace Padding

/-- The zeros by a subtraction that may go below nothing. -/
theorem zeroRun_eq_sub (n : Nat) : zeroRun n = ((55 - (n : Int)) % 64).toNat :=
  zeroRun_eq_of_lt (by omega) (by omega)

theorem length_whole_padded (order : ByteOrder) (message : Bytes) :
    (Block.whole (padded order message)).length = (message.length + 8) / 64 + 1 := by
  have hspec := zeroRun_spec message.length
  have hlt := zeroRun_lt message.length
  rw [Block.length_whole, padded, bytes]
  simp only [List.length_append, List.length_cons, List.length_replicate, length_lengthField]
  omega

end Padding

theorem BlockFunction.length_given {n : Nat} (f : BlockFunction n) (chain : Chain n)
    (blocks : List Block) : (f.given chain blocks).length = blocks.length := by
  induction blocks generalizing chain with
  | nil => rfl
  | cons block blocks ih => rw [given, List.length_cons, ih, List.length_cons]

namespace Midstate

variable {n : Nat} {run : Compression n} {f : BlockFunction n}

/-- Writes the padding that the count asks for. -/
def writePadding (order : ByteOrder) (run : Compression n) (m : Midstate n) : Midstate n :=
  let zeros := ((55 - (m.length.toNat : Int)) % 64).toNat
  let marked := m.absorb run [0x80]
  let filled := marked.absorb run (List.replicate zeros 0)
  filled.absorb run (Padding.lengthField order m.length.toNat)

/-- The count knows how many zeros the pending bytes need. -/
theorem zeroRun_of_aligned {m : Midstate n} (h : m.Aligned) :
    Padding.zeroRun m.buffer.bytes.length = ((55 - (m.length.toNat : Int)) % 64).toNat := by
  rw [h, Padding.zeroRun_mod, Padding.zeroRun_eq_sub]

theorem writePadding_eq (hrun : run.InOrder f) (order : ByteOrder) {m : Midstate n} (h : m.Aligned) :
    ∃ count, m.writePadding order run
      = reading f m.chain (m.buffer.bytes
          ++ Padding.bytes order m.buffer.bytes.length m.length.toNat) count := by
  have hpadding : m.writePadding order run
      = [[0x80], List.replicate (Padding.zeroRun m.buffer.bytes.length) 0,
          Padding.lengthField order m.length.toNat].foldl (absorb run) m := by
    rw [zeroRun_of_aligned h]
    rfl
  have hflatten : [[0x80], List.replicate (Padding.zeroRun m.buffer.bytes.length) 0,
      Padding.lengthField order m.length.toNat].flatten
      = Padding.bytes order m.buffer.bytes.length m.length.toNat := by
    simp only [List.flatten_cons, List.flatten_nil, List.append_nil, Padding.bytes]
    rfl
  exact ⟨_, by rw [hpadding, foldl_absorb hrun, absorb_eq hrun, hflatten]⟩

/-- The inputs of the block function are those for the blocks that writing passes on and finishing adds. -/
theorem given_eq_passed (hrun : run.InOrder f) (order : ByteOrder) (m : Midstate n)
    (pieces : List Bytes) :
    m.given f order run pieces
      = BlockFunction.given f m.chain ((m.buffer.passed pieces).flatten
          ++ (pieces.foldl (absorb run) m).closing order) := by
  induction pieces generalizing m with
  | nil => rfl
  | cons piece pieces ih =>
      have hchain : (m.absorb run piece).chain = (m.buffer.feed piece).1.foldl f m.chain := hrun _ _
      rw [given, ih, hchain, ← BlockFunction.given_append, Buffer.passed, List.flatten_cons,
        List.append_assoc]
      rfl

/-- Finishing leaves what writing the padding leaves, whether the blocks go to the compression together or
one by one, and behind the padding nothing is pending. A message of any size, however it is cut, takes one
block more than there are whole ones in it with eight bytes added: whatever compresses them, these are the
blocks of the writes and the closing ones together. -/
theorem finish_is_padding_written (hrun : run.InOrder f) (order : ByteOrder) :
    (∀ m : Midstate n, m.Aligned →
      let padded := m.writePadding order run
      m.finish order run = padded.chain ∧ m.finishByBlocks order run = padded.chain ∧
        padded.buffer.bytes = [] ∧ m.raw.finish order run = .ok padded.chain) ∧
    ∀ (chain : Chain n) (pieces : List Bytes),
      let passed := Buffer.empty.passed pieces
      let count := (pieces.flatten.length + 8) / 64 + 1
      ((start chain).given f order run pieces).length = count ∧
      ∀ other : Compression n,
        let last := pieces.foldl (absorb other) (start chain)
        last.chain = passed.foldl other chain ∧
        last.finish order other = other last.chain (last.closing order) ∧
        (passed.flatten ++ last.closing order).length = count ∧
        (start chain).given f order run pieces
          = BlockFunction.given f chain (passed.flatten ++ last.closing order) := by
  constructor
  · intro m haligned padded
    obtain ⟨count, hpadded⟩ := writePadding_eq hrun order haligned
    have hfinish : m.finish order run = padded.chain := by
      have hreading := finish_reading hrun order m.chain m.buffer.bytes m.length
      rw [← eq_reading] at hreading
      exact hreading.trans (congrArg chain hpadded).symm
    refine ⟨hfinish, ?_, ?_, ?_⟩
    · rw [finishByBlocks_eq hrun, hfinish]
    · exact (congrArg (·.buffer.bytes) hpadded).trans (Padding.rest_append_bytes order _ _)
    · rw [finish_raw, hfinish]
  · intro chain pieces passed count
    have hcount : ((start chain).given f order run pieces).length = count := by
      rw [given_start hrun, BlockFunction.length_given, Padding.length_whole_padded]
    refine ⟨hcount, ?_⟩
    intro other last
    have hgiven : (start chain).given f order run pieces
        = BlockFunction.given f chain (passed.flatten ++ last.closing order) := by
      rw [given_eq_passed hrun, closing_foldl_absorb run other]
      rfl
    refine ⟨chain_foldl_absorb _ pieces, rfl, ?_, hgiven⟩
    rw [← BlockFunction.length_given f chain, ← hgiven, hcount]

/-- With eight bytes to come to `2 ^ 64`, the padding takes two blocks and the number of bits wraps. -/
theorem finish_is_padding_written_near_wrap :
    let f : BlockFunction 1 := fun chain block =>
      #v[(31 : UInt32) * chain.toList.headD 0 + (block.toList.getLastD 0).toUInt32 + 1]
    let run : Compression 1 := .sequential f
    let m : Midstate 1 := ⟨#v[0], ⟨List.replicate 56 7, by decide⟩, 0xfffffffffffffff8⟩
    m.Aligned ∧ run.InOrder f ∧ (m.writePadding .big run).chain = #v[31 + 0xc0 + 1] ∧
      (m.writePadding .big run).buffer.bytes = [] ∧
      ((start #v[0]).given f .little run [[1], [], List.replicate 55 2]).length = 2 := by
  intro f run m
  have hrun : run.InOrder f := Compression.sequential_inOrder f
  have haligned : m.Aligned := by
    unfold Aligned
    decide
  have hchain : m.finish .big run = #v[31 + 0xc0 + 1] := by decide
  obtain ⟨hpadded, -⟩ := finish_is_padding_written hrun .big
  obtain ⟨-, hcount⟩ := finish_is_padding_written hrun .little
  obtain ⟨hfinish, -, hempty, -⟩ := hpadded m haligned
  exact ⟨haligned, hrun, hfinish.symm.trans hchain, hempty, (hcount _ _).1⟩

end Midstate

end Checksum
