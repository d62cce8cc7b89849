import Checksum.Proofs.OneShot

/-!
# Collisions of messages

Two messages with the same checksum give two inputs of the block function with the same output, and they
are among the inputs that it had while the two checksums were computed. `Midstate.given` lists these
inputs for a whole run: pieces absorbed one after another, then finishing. However the message was cut,
they are the inputs for the blocks of the padded message (`given_start`).

What makes it work is the length at the end of the padding: no padded message ends in another one
(`Padding.eq_of_isSuffix`). Two runs that end with the same chaining value are read backwards. As long as
the block function had the same input in both, the runs agree one block further back, and they cannot
agree until one of them is used up (`exists_collision`).
-/

namespace Checksum

/-! ### Padded messages -/

namespace Padding

/-- A message with its padding behind it. -/
def padded (order : ByteOrder) (message : Bytes) : Bytes :=
  message ++ bytes order message.length message.length

theorem bytes_padded (order : ByteOrder) (message : Bytes) :
    Block.bytes (Block.whole (padded order message)) = padded order message := by
  have h := Block.bytes_whole (padded order message)
  rwa [padded, rest_append_bytes, List.append_nil, ← padded] at h

theorem lengthField_isSuffix (order : ByteOrder) (message : Bytes) :
    lengthField order message.length <:+ padded order message := by
  rw [padded, bytes, ← List.append_assoc]
  exact List.suffix_append _ _

/-- Below `2 ^ 61` bytes the number of bits does not wrap. -/
theorem lengthField_inj {order : ByteOrder} {m n : Nat} (hm : m < 2 ^ 61) (hn : n < 2 ^ 61)
    (h : lengthField order m = lengthField order n) : m = n := by
  have hmod := (lengthField_eq_iff order).mp h
  rwa [Nat.mod_eq_of_lt hm, Nat.mod_eq_of_lt hn] at hmod

/-- No padded message ends in another one. -/
theorem eq_of_isSuffix {order : ByteOrder} {m n : Bytes} (hm : m.length < 2 ^ 61)
    (hn : n.length < 2 ^ 61) (h : padded order m <:+ padded order n) : m = n := by
  have hlast : lengthField order m.length <:+ lengthField order n.length := by
    apply List.suffix_of_suffix_length_le ((lengthField_isSuffix order m).trans h)
      (lengthField_isSuffix order n)
    rw [length_lengthField, length_lengthField]
  have hfield : lengthField order m.length = lengthField order n.length := by
    apply hlast.eq_of_length
    rw [length_lengthField, length_lengthField]
  have hlength : m.length = n.length := lengthField_inj hm hn hfield
  have hpadded : padded order m = padded order n := by
    apply h.eq_of_length
    simp only [padded, List.length_append, hlength]
  exact (List.append_inj hpadded hlength).1

/-- Nor are the blocks of a padded message the last ones of another. -/
theorem eq_of_whole_isSuffix {order : ByteOrder} {m n : Bytes} (hm : m.length < 2 ^ 61)
    (hn : n.length < 2 ^ 61)
    (h : Block.whole (padded order m) <:+ Block.whole (padded order n)) : m = n := by
  obtain ⟨front, hfront⟩ := h
  have hbytes := congrArg Block.bytes hfront
  rw [Block.bytes_append, bytes_padded, bytes_padded] at hbytes
  exact eq_of_isSuffix hm hn ⟨Block.bytes front, hbytes⟩

end Padding

/-! ### Inputs of the block function -/

theorem Block.whole_toList_append (block : Block) (bs : Bytes) :
    whole (block.toList ++ bs) = block :: whole bs := by
  have hbytes : bytes [block] ++ [] = block.toList := by
    rw [bytes_cons, bytes_nil, List.append_nil, List.append_nil]
  obtain ⟨hwhole, hrest⟩ := whole_unique [block] hbytes (by decide)
  rw [(whole_append _ _).1, hwhole, hrest, List.nil_append, List.singleton_append]

namespace BlockFunction

variable {n : Nat}

/-- The inputs that the block function has for blocks in order. -/
def given (f : BlockFunction n) (chain : Chain n) : List Block → List (Chain n × Block)
  | [] => []
  | block :: blocks => (chain, block) :: given f (f chain block) blocks

/-- Two different inputs that have the same output. -/
def Collides (f : BlockFunction n) (x y : Chain n × Block) : Prop := x ≠ y ∧ f x.1 x.2 = f y.1 y.2

theorem given_append (f : BlockFunction n) (chain : Chain n) (xs ys : List Block) :
    given f chain (xs ++ ys) = given f chain xs ++ given f (xs.foldl f chain) ys := by
  induction xs generalizing chain with
  | nil => rfl
  | cons x xs ih => rw [List.cons_append, given, given, ih, List.foldl_cons, List.cons_append]

/-- Two runs over blocks that end alike had a collision on the way, unless the blocks of one are the last
ones of the other. -/
theorem exists_collision (f : BlockFunction n) {chain chain' : Chain n} {xs ys : List Block}
    (hxs : ¬xs <:+ ys) (hys : ¬ys <:+ xs) (h : xs.foldl f chain = ys.foldl f chain') :
    ∃ x ∈ given f chain xs, ∃ y ∈ given f chain' ys, Collides f x y := by
  -- Backwards over the blocks of one run; the other one keeps step.
  induction xs using List.reverseRecOn generalizing ys with
  | nil => exact absurd List.nil_suffix hxs
  | append_singleton xs x ih =>
      cases ys using List.reverseRecOn with
      | nil => exact absurd List.nil_suffix hys
      | append_singleton ys y =>
          rw [List.foldl_append, List.foldl_append] at h
          simp only [given_append]
          by_cases hinput : (xs.foldl f chain, x) = (ys.foldl f chain', y)
          · obtain ⟨hchain, rfl⟩ := Prod.mk.inj hinput
            have hback {us vs : List Block} (hnot : ¬us ++ [x] <:+ vs ++ [x]) : ¬us <:+ vs := by
              rintro ⟨front, rfl⟩
              exact hnot ⟨front, (List.append_assoc _ _ _).symm⟩
            obtain ⟨u, hu, v, hv, hcollides⟩ := ih (hback hxs) (hback hys) hchain
            exact ⟨u, List.mem_append_left _ hu, v, List.mem_append_left _ hv, hcollides⟩
          · refine ⟨_, List.mem_append_right _ (List.mem_singleton_self _), _,
              List.mem_append_right _ (List.mem_singleton_self _), hinput, h⟩

end BlockFunction

namespace Midstate

variable {n : Nat} {f : BlockFunction n} {run run' : Compression n}

/-- The inputs that the block function has while pieces are absorbed one after another and the hash is
finished behind them. -/
def given (f : BlockFunction n) (order : ByteOrder) (run : Compression n) (m : Midstate n) :
    List Bytes → List (Chain n × Block)
  | [] => BlockFunction.given f m.chain (m.closing order)
  | piece :: pieces =>
      BlockFunction.given f m.chain (m.buffer.feed piece).1 ++ given f order run (m.absorb run piece) pieces

/-- Behind the blocks of a stream come the inputs for what completes it. -/
theorem given_reading (hrun : run.InOrder f) (order : ByteOrder) (chain : Chain n)
    (pieces : List Bytes) (stream : Bytes) (length : UInt64) :
    BlockFunction.given f chain (Block.whole stream)
        ++ (reading f chain stream length).given f order run pieces
      = BlockFunction.given f chain (Block.whole (stream ++ pieces.flatten)
          ++ (pieces.foldl (absorb run) (reading f chain stream length)).closing order) := by
  induction pieces generalizing stream length with
  | nil =>
      rw [given, List.flatten_nil, List.append_nil, List.foldl_nil, BlockFunction.given_append]
      rfl
  | cons piece pieces ih =>
      have hblocks : BlockFunction.given f chain (Block.whole stream)
          ++ BlockFunction.given f (reading f chain stream length).chain
              ((reading f chain stream length).buffer.feed piece).1
          = BlockFunction.given f chain (Block.whole (stream ++ piece)) := by
        rw [reading, Buffer.feed_restOf, ← BlockFunction.given_append,
          ← (Block.whole_append stream piece).1]
      rw [given, ← List.append_assoc, hblocks, List.foldl_cons, absorb_reading hrun, ih,
        List.flatten_cons, List.append_assoc]

/-- However a message is cut, its hash is that of the padded message, block after block. -/
theorem finish_start (hrun : run.InOrder f) (order : ByteOrder) (chain : Chain n)
    (pieces : List Bytes) :
    (pieces.foldl (absorb run) (start chain)).finish order run
      = (Block.whole (Padding.padded order pieces.flatten)).foldl f chain := by
  rw [start_eq_reading f, foldl_absorb_reading hrun, finish_reading hrun, Padding.bytes_add_ofNat,
    List.nil_append, UInt64.toNat_zero, Nat.zero_add, Padding.padded]

theorem given_start (hrun : run.InOrder f) (order : ByteOrder) (chain : Chain n)
    (pieces : List Bytes) :
    (start chain).given f order run pieces
      = BlockFunction.given f chain (Block.whole (Padding.padded order pieces.flatten)) := by
  have h := given_reading hrun order chain pieces [] 0
  rw [foldl_absorb_reading hrun, List.nil_append, whole_append_closing, Padding.bytes_add_ofNat,
    UInt64.toNat_zero, Nat.zero_add, ← Padding.padded] at h
  rw [start_eq_reading f, ← h, Block.whole_of_length_lt (by decide)]
  rfl

/-- The words of a chaining value are known from its output, if all of them are put out. -/
theorem output_inj {order : ByteOrder} {chain chain' : Chain n}
    (h : output order (4 * n) chain = output order (4 * n) chain') : chain = chain' := by
  rw [output_all, output_all] at h
  apply Vector.toList_inj.mp
  exact Bytes.flatMap_inj order.length_bytes32 order.bytes32_injective
    (by rw [Vector.length_toList, Vector.length_toList]) h

/-- Two runs that end alike on different messages have a collision on the way. -/
theorem collision_of_finish_eq (hrun : run.InOrder f) (hrun' : run'.InOrder f) {order : ByteOrder}
    {chain chain' : Chain n} {pieces pieces' : List Bytes} (hlt : pieces.flatten.length < 2 ^ 61)
    (hlt' : pieces'.flatten.length < 2 ^ 61) (hne : pieces.flatten ≠ pieces'.flatten)
    (hend : (pieces.foldl (absorb run) (start chain)).finish order run
      = (pieces'.foldl (absorb run') (start chain')).finish order run') :
    ∃ x ∈ (start chain).given f order run pieces, ∃ y ∈ (start chain').given f order run' pieces',
      f.Collides x y := by
  rw [finish_start hrun, finish_start hrun'] at hend
  rw [given_start hrun, given_start hrun']
  refine BlockFunction.exists_collision f ?_ ?_ hend
  · intro hsuffix
    exact hne (Padding.eq_of_whole_isSuffix hlt hlt' hsuffix)
  · intro hsuffix
    exact hne (Padding.eq_of_whole_isSuffix hlt' hlt hsuffix).symm

end Midstate

/-! ### Equal checksums -/

namespace Hasher

variable {pieces pieces' : List Bytes}

theorem checksum_writeAll_start (p : Platform) (b : Backend) (a : Algorithm) (pieces : List Bytes) :
    ((start b a).writeAll p pieces).1.checksum p
      = Midstate.output a.order a.digestSize
          ((pieces.foldl (Midstate.absorb (p.run b a)) (.start a.initial)).finish a.order (p.run b a)) := by
  rw [start_eq_of, writeAll_of, checksum_of, Midstate.digest]

/-- Two different messages of less than `2 ^ 61` bytes that come to the same chaining value, from any
start, in any byte order and however they are cut, expose a collision among the inputs that the block
function had on the way; and so do two that have the same MD5 or SHA-256 checksum. -/
theorem equal_ends_expose_collision (hlt : pieces.flatten.length < 2 ^ 61)
    (hlt' : pieces'.flatten.length < 2 ^ 61) (hne : pieces.flatten ≠ pieces'.flatten) :
    (∀ {n : Nat} {f : BlockFunction n} {run run' : Compression n} (order : ByteOrder)
        (chain chain' : Chain n), run.InOrder f → run'.InOrder f →
      (pieces.foldl (Midstate.absorb run) (.start chain)).finish order run
        = (pieces'.foldl (Midstate.absorb run') (.start chain')).finish order run' →
      ∃ x ∈ (Midstate.start chain).given f order run pieces,
        ∃ y ∈ (Midstate.start chain').given f order run' pieces', f.Collides x y) ∧
    ∀ {p : Platform} {b b' : Backend} {a : Algorithm}, a ≠ .sha224 → p.Serves b a → p.Serves b' a →
      ((start b a).writeAll p pieces).1.checksum p = ((start b' a).writeAll p pieces').1.checksum p →
      ∃ x ∈ (Midstate.start a.initial).given a.compress a.order (p.run b a) pieces,
        ∃ y ∈ (Midstate.start a.initial).given a.compress a.order (p.run b' a) pieces',
          a.compress.Collides x y := by
  constructor
  · intro n f run run' order chain chain' hrun hrun' hend
    exact Midstate.collision_of_finish_eq hrun hrun' hlt hlt' hne hend
  · intro p b b' a ha hs hs' hchecksum
    rw [checksum_writeAll_start, checksum_writeAll_start, Algorithm.digestSize_eq ha] at hchecksum
    exact Midstate.collision_of_finish_eq hs hs' hlt hlt' hne (Midstate.output_inj hchecksum)

/-- A block but for two of its bytes. -/
def twin (x y : UInt8) : Block :=
  #v[0x4d, 0xc9, 0x68, 0xff, 0x0e, 0xe3, 0x5c, 0x20, 0x95, 0x72, 0xd4, 0x77, 0x7b, 0x72, 0x15, 0x87,
    0xd3, 0x6f, 0xa7, 0xb2, 0x1b, 0xdc, 0x56, 0xb7, 0x4a, 0x3d, 0xc0, 0x78, 0x3e, 0x7b, 0x95, 0x18,
    0xaf, 0xbf, 0xa2, x, 0xa8, 0x28, 0x4b, 0xf3, 0x6e, 0x8e, 0x4b, 0x55, 0xb3, 0x5f, 0x42, 0x75,
    0x93, 0xd8, 0x49, 0x67, 0x6d, 0xa0, 0xd1, y, 0x5d, 0x83, 0x60, 0xfb, 0x5f, 0x07, 0xfe, 0xa2]

theorem compress_twins :
    Md5.compress Md5.initial (twin 0x00 0x55) = Md5.compress Md5.initial (twin 0x02 0xd5) := by
  -- Each side is computed by itself: the kernel does not finish comparing the two computations.
  have hone : (Md5.compress Md5.initial (twin 0x00 0x55)).toList
      = [0xdbaf4ca2, 0x94d5f42d, 0xf83cebe1, 0xb3dd4f39] := by decide +kernel
  have hother : (Md5.compress Md5.initial (twin 0x02 0xd5)).toList
      = [0xdbaf4ca2, 0x94d5f42d, 0xf83cebe1, 0xb3dd4f39] := by decide +kernel
  exact Vector.toList_inj.mp (hone.trans hother.symm)

/-- Both parts for two messages of one block that have the same MD5 checksum, one of them in pieces. -/
theorem equal_ends_expose_collision_twins :
    let pieces := [(twin 0x00 0x55).toList.take 5, (twin 0x00 0x55).toList.drop 5]
    let pieces' := [(twin 0x02 0xd5).toList]
    let inputs := (Midstate.start Md5.initial).given Md5.compress .little Md5.run
    pieces.flatten.length < 2 ^ 61 ∧ pieces'.flatten.length < 2 ^ 61 ∧
      pieces.flatten ≠ pieces'.flatten ∧
      (pieces.foldl (Midstate.absorb Md5.run) (.start Md5.initial)).finish .little Md5.run
        = (pieces'.foldl (Midstate.absorb Md5.run) (.start Md5.initial)).finish .little Md5.run ∧
      ((start .portable .md5).writeAll .generic pieces).1.checksum .generic
        = ((start .portable .md5).writeAll .generic pieces').1.checksum .generic ∧
      (∃ x ∈ inputs pieces, ∃ y ∈ inputs pieces', Md5.compress.Collides x y) ∧
      ∃ x ∈ inputs pieces, ∃ y ∈ inputs pieces', Md5.compress.Collides x y := by
  intro pieces pieces' inputs
  have hlt : pieces.flatten.length < 2 ^ 61 := by decide
  have hlt' : pieces'.flatten.length < 2 ^ 61 := by decide
  have hne : pieces.flatten ≠ pieces'.flatten := by decide
  have hrun : Md5.run.InOrder Md5.compress := Compression.sequential_inOrder Md5.compress
  have hblocks (x y : UInt8) : Block.whole (Padding.padded .little (twin x y).toList)
      = twin x y :: Block.whole (Padding.bytes .little 64 64) := Block.whole_toList_append _ _
  have hend : (pieces.foldl (Midstate.absorb Md5.run) (.start Md5.initial)).finish .little Md5.run
      = (pieces'.foldl (Midstate.absorb Md5.run) (.start Md5.initial)).finish .little Md5.run := by
    have hflatten : pieces.flatten = (twin 0x00 0x55).toList := rfl
    have hflatten' : pieces'.flatten = (twin 0x02 0xd5).toList := rfl
    rw [Midstate.finish_start hrun, Midstate.finish_start hrun, hflatten, hflatten', hblocks, hblocks,
      List.foldl_cons, List.foldl_cons, compress_twins]
  have hchecksum : ((start .portable .md5).writeAll .generic pieces).1.checksum .generic
      = ((start .portable .md5).writeAll .generic pieces').1.checksum .generic := by
    rw [checksum_writeAll_start, checksum_writeAll_start]
    exact congrArg _ hend
  obtain ⟨hends, hchecksums⟩ := equal_ends_expose_collision hlt hlt' hne
  exact ⟨hlt, hlt', hne, hend, hchecksum, hends .little Md5.initial Md5.initial hrun hrun hend,
    hchecksums (by decide) (Platform.serves_md5 .generic .portable)
      (Platform.serves_md5 .generic .portable) hchecksum⟩

end Hasher

end Checksum
