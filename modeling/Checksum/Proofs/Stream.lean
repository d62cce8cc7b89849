import Checksum.Proofs.Padding

/-!
# Midstates as prefixes of a stream

A midstate stands for a byte stream read from some chaining value: the whole blocks of the stream
are in the chaining value, the rest is pending, and the count goes its own way. Every midstate is of
this form (`eq_reading`), whether or not it can be reached from a start; absorbing lengthens the
stream (`absorb_reading`), so the cutting of the data into writes leaves no trace; and finishing folds
the block function over the padded stream (`finish_reading`).

Which blocks are compressed on the way does not depend on what compresses them, nor on the count:
`Buffer.passed` lists those of the writes, piece by piece (`chain_foldl_absorb`).
-/

namespace Checksum

/-- The blocks that are compressed while pieces are fed one after another, piece by piece. -/
def Buffer.passed (b : Buffer) : List Bytes → List (List Block)
  | [] => []
  | piece :: pieces => (b.feed piece).1 :: passed (b.feed piece).2 pieces

namespace Midstate

variable {n : Nat} {run : Compression n} {f : BlockFunction n}

/-- The midstate that has read `stream` from `chain`, with a count of its own. -/
def reading (f : BlockFunction n) (chain : Chain n) (stream : Bytes) (length : UInt64) :
    Midstate n where
  chain := (Block.whole stream).foldl f chain
  buffer := .restOf stream
  length := length

theorem start_eq_reading (f : BlockFunction n) (chain : Chain n) :
    start chain = reading f chain [] 0 := by
  rw [start, reading, Block.whole_of_length_lt (by decide), Buffer.restOf_nil, List.foldl_nil]

/-- A midstate is no more than its pending bytes read from its chaining value. -/
theorem eq_reading (f : BlockFunction n) (m : Midstate n) :
    m = reading f m.chain m.buffer.bytes m.length := by
  rw [reading, Block.whole_of_length_lt m.buffer.length_lt, Buffer.restOf_bytes, List.foldl_nil]

theorem absorb_reading (hrun : run.InOrder f) (chain : Chain n) (stream data : Bytes)
    (length : UInt64) :
    (reading f chain stream length).absorb run data
      = reading f chain (stream ++ data) (length + UInt64.ofNat data.length) := by
  have hwhole := (Block.whole_append stream data).1
  simp only [absorb, reading, Buffer.feed_restOf, hwhole, List.foldl_append]
  rw [hrun]

/-- The count is that of the bytes absorbed, modulo `2 ^ 64`, on top of the one at the outset. -/
theorem foldl_absorb_reading (hrun : run.InOrder f) (chain : Chain n) (pieces : List Bytes)
    (stream : Bytes) (length : UInt64) :
    pieces.foldl (absorb run) (reading f chain stream length)
      = reading f chain (stream ++ pieces.flatten) (length + UInt64.ofNat pieces.flatten.length) := by
  induction pieces generalizing stream length with
  | nil => simp
  | cons piece pieces ih =>
      rw [List.foldl_cons, absorb_reading hrun, ih, List.flatten_cons, List.append_assoc,
        List.length_append, UInt64.ofNat_add, UInt64.add_assoc]

/-- The closing blocks are those that padding adds to the stream. -/
theorem whole_append_closing (order : ByteOrder) (f : BlockFunction n) (chain : Chain n)
    (stream : Bytes) (length : UInt64) :
    Block.whole stream ++ (reading f chain stream length).closing order
      = Block.whole (stream ++ Padding.bytes order stream.length length.toNat) := by
  simp only [closing, reading]
  rw [Buffer.whole_append_close, Padding.bytes64_mul_eight, Padding.bytes]

theorem finish_reading (hrun : run.InOrder f) (order : ByteOrder) (chain : Chain n) (stream : Bytes)
    (length : UInt64) :
    (reading f chain stream length).finish order run
      = (Block.whole (stream ++ Padding.bytes order stream.length length.toNat)).foldl f chain := by
  rw [finish, hrun, ← whole_append_closing order f chain, List.foldl_append]
  rfl

/-! ### What is compressed on the way -/

/-- What is compressed while pieces are absorbed is what the buffer passes on. -/
theorem chain_foldl_absorb (m : Midstate n) (pieces : List Bytes) :
    (pieces.foldl (absorb run) m).chain = (m.buffer.passed pieces).foldl run m.chain := by
  induction pieces generalizing m with
  | nil => rfl
  | cons piece pieces ih =>
      rw [List.foldl_cons, ih, Buffer.passed, List.foldl_cons]
      rfl

/-- The closing blocks come from the pending bytes and the count, which no compression changes. -/
theorem closing_foldl_absorb (run run' : Compression n) (order : ByteOrder) (m : Midstate n)
    (pieces : List Bytes) :
    (pieces.foldl (absorb run) m).closing order = (pieces.foldl (absorb run') m).closing order := by
  have hall (l : Midstate n) (hbuffer : m.buffer = l.buffer) (hlength : m.length = l.length) :
      (pieces.foldl (absorb run) m).closing order = (pieces.foldl (absorb run') l).closing order := by
    induction pieces generalizing m l with
    | nil => simp only [List.foldl_nil, closing, hbuffer, hlength]
    | cons piece pieces ih =>
        apply ih
        · simp only [absorb, hbuffer]
        · simp only [absorb, hlength]
  exact hall m rfl rfl

end Midstate

end Checksum
