import Checksum.Proofs.Resumed

/-!
# Going on from a checksum

The words of a checksum are the chaining value behind the padded message, unless one of them is kept
back. So anyone who knows an MD5 or a SHA-256 checksum and the length of the message can write down a
saved state that goes on behind the message and its padding, without the message. Only the byte order of
the words may differ, which `ByteOrder.arrangeWords` makes good; what stands in the block of the saved
state is ignored, since nothing is pending at the end of the padding.
-/

namespace Checksum

namespace ByteOrder

/-- Passes every four bytes between this order and the most significant byte first. -/
def arrangeWords (order : ByteOrder) : Bytes → Bytes
  | b3 :: b2 :: b1 :: b0 :: rest => order.arrange [b3, b2, b1, b0] ++ arrangeWords order rest
  | rest => rest

@[simp] theorem arrangeWords_big (bs : Bytes) : big.arrangeWords bs = bs := by
  fun_induction arrangeWords big bs with
  | case1 b3 b2 b1 b0 rest ih =>
      rw [ih]
      rfl
  | case2 rest h => rfl

theorem arrangeWords_bytes32_append (order : ByteOrder) (w : UInt32) (rest : Bytes) :
    order.arrangeWords (order.bytes32 w ++ rest) = big.bytes32 w ++ order.arrangeWords rest := by
  cases order with
  | big => rfl
  | little => rfl

theorem arrangeWords_flatMap (order : ByteOrder) (ws : List UInt32) :
    order.arrangeWords (ws.flatMap order.bytes32) = ws.flatMap big.bytes32 := by
  induction ws with
  | nil => rfl
  | cons w ws ih => rw [List.flatMap_cons, arrangeWords_bytes32_append, ih, List.flatMap_cons]

end ByteOrder

namespace Midstate

variable {n : Nat} {f : BlockFunction n} {run : Compression n}

/-- The closing blocks are the pending bytes and the padding of the stream. -/
theorem bytes_closing_reading (f : BlockFunction n) (order : ByteOrder) (chain : Chain n)
    (stream : Bytes) (length : UInt64) :
    Block.bytes ((reading f chain stream length).closing order)
      = Block.rest stream ++ Padding.bytes order stream.length length.toNat := by
  simp only [closing, reading]
  rw [Buffer.bytes_close, Buffer.bytes_restOf, Block.length_rest, Padding.zeroRun_mod,
    Padding.bytes64_mul_eight, Padding.bytes]

theorem absorb_start (hrun : run.InOrder f) (chain : Chain n) (message : Bytes) :
    (start chain).absorb run message = reading f chain message (UInt64.ofNat message.length) := by
  rw [start_eq_reading f, absorb_reading hrun, List.nil_append, UInt64.zero_add]

/-- What closes a message is what was pending of it, and its padding. -/
theorem bytes_closing_start (hrun : run.InOrder f) (order : ByteOrder) (chain : Chain n)
    (message : Bytes) :
    Block.bytes (((start chain).absorb run message).closing order)
      = ((start chain).absorb run message).buffer.bytes
        ++ Padding.bytes order message.length message.length := by
  rw [absorb_start hrun, bytes_closing_reading, UInt64.toNat_ofNat', Padding.bytes_length_mod]
  rfl

/-- Behind a stream of whole blocks nothing is pending. -/
theorem reading_of_rest_eq_nil (f : BlockFunction n) (chain : Chain n) {stream : Bytes}
    (h : Block.rest stream = []) (length : UInt64) :
    reading f ((Block.whole stream).foldl f chain) [] length = reading f chain stream length := by
  have hreading := reading_rest f chain stream length
  rwa [h] at hreading

end Midstate

namespace Hasher

open Saved

variable {p : Platform} {a : Algorithm}

theorem absorb_start {b : Backend} (hs : p.Serves b a) (message : Bytes) :
    (start b a).absorb p message = fresh b a message := by
  rw [← fresh_nil, absorb_fresh hs, List.nil_append]

/-- The words of the checksum, whatever order they are written in, are the chaining value behind the
padded message. -/
theorem arrangeWords_hash (ha : a ≠ .sha224) (message : Bytes) :
    a.order.arrangeWords (a.hash message)
      = ((Block.whole (message ++ Padding.bytes a.order message.length message.length)).foldl a.compress
          a.initial).toList.flatMap word := by
  have hword : ByteOrder.big.bytes32 = word := funext bytes32_eq_word
  rw [Algorithm.hash, Algorithm.hashFrom_eq, Algorithm.digestSize_eq ha, Midstate.output_all,
    ByteOrder.arrangeWords_flatMap, hword]

/-- A saved state for a stream of whole blocks needs no more of it than the chaining value behind it and
its length. -/
theorem restore_whole_blocks {b : Backend} (m : Midstate a.words) {stream : Bytes}
    (hrest : Block.rest stream = []) (filler : Block) :
    (of b a m).restore (layout a.tag ((Block.whole stream).foldl a.compress a.initial) filler.toList
      (stream.length % 2 ^ 64)) = .ok (fresh b a stream) := by
  have hlength : (UInt64.ofNat stream.length).toNat = stream.length % 2 ^ 64 := UInt64.toNat_ofNat'
  have haligned : stream.length % 64 = 0 := by
    rw [← Block.length_rest, hrest, List.length_nil]
  have hpending : pending filler (.ofNat stream.length) = [] := by
    apply List.length_eq_zero_iff.mp
    rw [length_pending, hlength]
    omega
  rw [← hlength, restore_layout, hpending, Midstate.reading_of_rest_eq_nil _ _ hrest, fresh]

/-- From the checksum of a message and its length alone comes a saved state with which any hasher goes
on behind the message and its padding, as if it had read both. -/
theorem checksum_is_resumable (ha : a ≠ .sha224) {h : Hasher} (halgorithm : h.algorithm = a)
    (hkernel : h.backend? = some .accelerated → p.Sound) {b : Backend} (hs : p.Serves b a)
    (message : Bytes) (filler : Block) :
    let padding := Padding.bytes a.order message.length message.length
    let checksum := ((start b a).absorb p message).checksum p
    let read := (Midstate.start a.initial).absorb (p.run b a) message
    Block.bytes (read.closing a.order) = read.buffer.bytes ++ padding ∧
    ∃ resumed,
      h.restore (a.tag.toList ++ (a.order.arrangeWords checksum ++ (filler.toList
        ++ Bytes.digits 8 ((message.length + padding.length) % 2 ^ 64)))) = .ok resumed ∧
      resumed.save = ((start b a).absorb p (message ++ padding)).save ∧
      ∀ pieces : List Bytes, (resumed.writeAll p pieces).1.checksum p
        = ((start b a).absorb p (message ++ padding ++ pieces.flatten)).checksum p := by
  intro padding checksum read
  obtain ⟨c, a', m, rfl⟩ := h.exists_of
  rw [algorithm_of] at halgorithm
  subst halgorithm
  have hs' : p.Serves c a' := serves_of c a' hkernel
  have hchecksum : checksum = a'.hash message := by
    rw [← checksum_fresh hs, ← absorb_start hs]
  have hrest : Block.rest (message ++ padding) = [] := Padding.rest_append_bytes a'.order message _
  constructor
  · exact Midstate.bytes_closing_start hs a'.order a'.initial message
  · refine ⟨fresh c a' (message ++ padding), ?_, ?_, ?_⟩
    · rw [hchecksum, arrangeWords_hash ha, ← List.length_append]
      exact restore_whole_blocks m hrest filler
    · rw [absorb_start hs, fresh, fresh, save_of, save_of]
    · intro pieces
      rw [writeAll_fresh hs', checksum_fresh hs', absorb_start hs, checksum_fresh hs]

/-- A message whose padding takes a block of its own, and a hasher that has read something else. -/
theorem checksum_is_resumable_sixty_bytes :
    let message := List.replicate 60 0x61
    let h := (start .accelerated .sha256).absorb .generic [1, 2, 3]
    let checksum := ((start .portable .sha256).absorb .generic message).checksum .generic
    Platform.generic.Sound ∧ h.algorithm = .sha256 ∧ ∃ resumed,
      h.restore ([0x73, 0x68, 0x61, 0x03] ++ (checksum ++ (List.replicate 64 0xff
        ++ [0, 0, 0, 0, 0, 0, 0, 128]))) = .ok resumed ∧
      ∃ padding : Bytes, padding.length = 68 ∧
        (resumed.writeAll .generic [[4], [5, 6]]).1.checksum .generic
          = ((start .portable .sha256).absorb .generic (message ++ padding ++ [4, 5, 6])).checksum
              .generic := by
  intro message h checksum
  have hsize : message.length = 60 := rfl
  have hrun : Padding.zeroRun 60 = 59 := Padding.zeroRun_eq_of_lt (by decide) (by decide)
  have hlength : (Padding.bytes .big message.length message.length).length = 68 := by
    rw [Padding.bytes, hsize, hrun]
    rfl
  obtain ⟨-, resumed, hrestore, -, hlater⟩ := checksum_is_resumable (p := .generic) (a := .sha256)
    (by decide) (h := h) rfl (fun _ => Platform.generic_sound) (Platform.serves_portable _ _) message
    (Vector.replicate 64 0xff)
  have horder : Algorithm.sha256.order = .big := rfl
  have hcount : Bytes.digits 8 ((60 + 68) % 2 ^ 64) = [0, 0, 0, 0, 0, 0, 0, 128] := by decide
  rw [horder, ByteOrder.arrangeWords_big, hlength, hsize, hcount, Vector.toList_replicate] at hrestore
  exact ⟨Platform.generic_sound, rfl, resumed, hrestore, _, hlength, hlater [[4], [5, 6]]⟩

end Hasher

end Checksum
