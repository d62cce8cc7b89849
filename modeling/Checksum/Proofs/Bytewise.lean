import Checksum.Proofs.Backends
import Checksum.Proofs.Raw

/-!
# Writing byte by byte

What writing comes to, said without any whole blocks in it: bytes are put behind the pending ones one at a
time, and as soon as there are 64 of them they are compressed and nothing is pending (`Raw.feedByte`). A
midstate takes the same way for a single byte (`Midstate.raw_absorb_singleton`), and the cutting of the data
into writes leaves no trace (`Midstate.foldl_absorb`), of which the cutting into single bytes is a case. So
no boundary of a write, a buffer or a block matters, and the count may pass `2 ^ 64` on the way.
-/

namespace Checksum

variable {n : Nat} {run : Compression n} {f : BlockFunction n}

/-- Takes in one byte; a full buffer is compressed and emptied at once. -/
def Raw.feedByte (f : BlockFunction n) (m : Raw n) (b : UInt8) : Raw n :=
  let pending := m.pending ++ [b]
  if h : pending.length = 64 then ⟨f m.chain (.ofBytes pending h), [], m.length + 1⟩
  else ⟨m.chain, pending, m.length + 1⟩

theorem Raw.feedByte_of_full {m : Raw n} {b : UInt8} (h : (m.pending ++ [b]).length = 64) :
    m.feedByte f b = ⟨f m.chain (.ofBytes _ h), [], m.length + 1⟩ := dif_pos h

theorem Raw.feedByte_of_not_full {m : Raw n} {b : UInt8} (h : (m.pending ++ [b]).length ≠ 64) :
    m.feedByte f b = ⟨m.chain, m.pending ++ [b], m.length + 1⟩ := dif_neg h

namespace Midstate

theorem absorb_eq (hrun : run.InOrder f) (m : Midstate n) (data : Bytes) :
    m.absorb run data
      = reading f m.chain (m.buffer.bytes ++ data) (m.length + UInt64.ofNat data.length) := by
  have h := absorb_reading hrun m.chain m.buffer.bytes data m.length
  rwa [← eq_reading] at h

/-- Pieces come to the same as the whole. -/
theorem foldl_absorb (hrun : run.InOrder f) (m : Midstate n) (pieces : List Bytes) :
    pieces.foldl (absorb run) m = m.absorb run pieces.flatten := by
  have h := foldl_absorb_reading hrun m.chain pieces m.buffer.bytes m.length
  rw [← eq_reading] at h
  rw [h, absorb_eq hrun]

theorem raw_reading (f : BlockFunction n) (chain : Chain n) (stream : Bytes) (length : UInt64) :
    (reading f chain stream length).raw
      = ⟨(Block.whole stream).foldl f chain, Block.rest stream, length⟩ := rfl

theorem raw_absorb_singleton (hrun : run.InOrder f) (m : Midstate n) (b : UInt8) :
    (m.absorb run [b]).raw = m.raw.feedByte f b := by
  have hlt := m.length_pending_raw_lt
  have hpending : m.buffer.bytes = m.raw.pending := rfl
  rw [absorb_eq hrun, raw_reading, hpending]
  by_cases hfull : (m.raw.pending ++ [b]).length = 64
  · -- The pending bytes and the new one are one block, and nothing is behind it.
    have hblock : Block.bytes [Block.ofBytes _ hfull] ++ [] = m.raw.pending ++ [b] := by
      rw [Block.bytes_cons, Block.bytes_nil, Block.toList_ofBytes, List.append_nil, List.append_nil]
    obtain ⟨hwhole, hrest⟩ := Block.whole_unique _ hblock (by decide)
    rw [Raw.feedByte_of_full hfull, hwhole, hrest]
    rfl
  · have hshort : (m.raw.pending ++ [b]).length < 64 := by
      rw [List.length_append, List.length_singleton] at hfull ⊢
      omega
    rw [Raw.feedByte_of_not_full hfull, Block.whole_of_length_lt hshort, Block.rest_of_length_lt hshort]
    rfl

/-- One byte after another comes to the same as all of them at once. -/
theorem raw_absorb (hrun : run.InOrder f) (m : Midstate n) (data : Bytes) :
    (m.absorb run data).raw = data.foldl (Raw.feedByte f) m.raw := by
  have hsingle (data : Bytes) (m : Midstate n) :
      ((data.map fun b => [b]).foldl (absorb run) m).raw = data.foldl (Raw.feedByte f) m.raw := by
    induction data generalizing m with
    | nil => rfl
    | cons b data ih =>
        rw [List.map_cons, List.foldl_cons, ih, raw_absorb_singleton hrun, List.foldl_cons]
  have hflatten : (data.map fun b => [b]).flatten = data := List.flatMap_singleton' data
  rw [← hsingle, foldl_absorb hrun, hflatten]

/-- Writing passes on, once and in order, the consecutive blocks of the pending bytes and the data, keeps
what is behind them, and takes all of the data. It leaves what taking in one byte after another leaves,
and so does writing the data in pieces, however it is cut. -/
theorem write_is_bytewise (hrun : run.InOrder f) (m : Midstate n) (data : Bytes) :
    let written := m.write run data
    let stream := m.buffer.bytes ++ data
    written.2 = data.length ∧
    written.1.raw = data.foldl (Raw.feedByte f) m.raw ∧
    written.1 = m.absorbInGroups run data ∧ (m.buffer.groups data).flatten = Block.whole stream ∧
    written.1.chain = (Block.whole stream).foldl f m.chain ∧
    written.1.buffer.bytes = Block.rest stream ∧
    (m.Aligned → written.1.Aligned) ∧
    ∀ pieces : List Bytes, pieces.flatten = data →
      pieces.foldl (fun m piece => (m.write run piece).1) m = written.1 := by
  intro written stream
  have hreading : written.1 = reading f m.chain stream _ := absorb_eq hrun m data
  refine ⟨rfl, raw_absorb hrun m data, (m.absorbInGroups_eq hrun data).symm, ?_, ?_, ?_, ?_, ?_⟩
  · rw [Buffer.flatten_groups, Buffer.feed_eq]
  · rw [hreading]
    rfl
  · rw [hreading]
    rfl
  · intro haligned
    exact haligned.absorb run data
  · rintro pieces rfl
    exact foldl_absorb hrun m pieces

/-- Sixty-three pending bytes under the greatest count there is, and a write that ends two blocks. -/
theorem write_is_bytewise_past_wrap :
    let f : BlockFunction 2 := fun chain block =>
      #v[chain.toList.headD 0 + 1,
        (31 : UInt32) * chain.toList.getLastD 0 + (block.toList.getLastD 0).toUInt32]
    let run : Compression 2 := .sequential f
    let m : Midstate 2 := ⟨#v[0, 0], ⟨List.replicate 63 7, by decide⟩, 0xffffffffffffffff⟩
    let data : Bytes := 1 :: List.replicate 63 2 ++ [3, 4, 5]
    m.Aligned ∧ run.InOrder f ∧
      ((m.write run [1]).1.write run (data.drop 1)).1 = (m.write run data).1 ∧
      (data.foldl (Raw.feedByte f) m.raw).chain = #v[2, 34] ∧
      (m.write run data).1.buffer.bytes = [4, 5] ∧ (m.write run data).1.length = 66 := by
  intro f run m data
  have hrun : run.InOrder f := Compression.sequential_inOrder f
  obtain ⟨-, hbytewise, -, -, hchain, hrest, -, hpieces⟩ := write_is_bytewise hrun m data
  have haligned : m.Aligned := by
    unfold Aligned
    decide
  refine ⟨haligned, hrun, hpieces [[1], data.drop 1] rfl, ?_, ?_, by decide⟩
  · rw [← hbytewise]
    exact hchain.trans (by decide)
  · rw [hrest]
    decide

end Midstate

end Checksum
