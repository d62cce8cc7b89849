import Checksum.Block

/-!
# Pending bytes

Between writes the bytes that do not yet fill a block wait in a buffer, which therefore holds
fewer than 64 of them. `feed` tops up the waiting block, passes on every further whole block of the
input as it stands, and keeps the tail. `close` ends the input: the byte `0x80`, zeros, and the
eight bytes of a length field, in one block if they fit behind the pending bytes and in two
otherwise, so that nothing is left pending.
-/

namespace Checksum

structure Buffer where
  bytes : Bytes
  length_lt : bytes.length < 64

namespace Buffer

def empty : Buffer := ⟨[], by decide⟩

/-- The bytes that the waiting block still lacks. -/
def room (b : Buffer) : Nat := 64 - b.bytes.length

theorem bytes_add_room (b : Buffer) : b.bytes.length + b.room = 64 := by
  have := b.length_lt
  simp only [room]
  omega

/-- The blocks that `data` completes, in order, and what is pending after it. -/
def feed (b : Buffer) (data : Bytes) : List Block × Buffer :=
  if h : (data.take b.room).length = b.room then
    let first := Block.ofBytes (b.bytes ++ data.take b.room) (by
      rw [List.length_append, h, bytes_add_room])
    let behind := Block.split (data.drop b.room)
    (first :: behind.1, ⟨behind.2, Block.length_split_snd_lt _⟩)
  else
    ([], ⟨b.bytes ++ data, by
      have := b.bytes_add_room
      simp only [List.length_take, List.length_append] at h ⊢
      omega⟩)

/-- The block being waited for, filled up with zeros. -/
def zeroFilled (b : Buffer) : Bytes := b.bytes ++ List.replicate b.room 0

/-- The last one or two blocks of an input that ends with the pending bytes. -/
def close (b : Buffer) (lengthField : Bytes) (h : lengthField.length = 8) : List Block :=
  if fits : b.bytes.length < 56 then
    [Block.ofBytes (b.bytes ++ 0x80 :: List.replicate (55 - b.bytes.length) 0 ++ lengthField) (by
      simp only [List.length_append, List.length_cons, List.length_replicate, h]
      omega)]
  else
    [Block.ofBytes (b.bytes ++ 0x80 :: List.replicate (63 - b.bytes.length) 0) (by
      have := b.length_lt
      simp only [List.length_append, List.length_cons, List.length_replicate]
      omega),
     Block.ofBytes (List.replicate 56 0 ++ lengthField) (by
      simp only [List.length_append, List.length_replicate, h])]

@[simp] theorem length_zeroFilled (b : Buffer) : b.zeroFilled.length = 64 := by
  simp [zeroFilled, bytes_add_room]

/-- What is fed comes out as blocks or stays pending, in order. -/
theorem bytes_feed (b : Buffer) (data : Bytes) :
    Block.bytes (b.feed data).1 ++ (b.feed data).2.bytes = b.bytes ++ data := by
  simp only [feed]
  split
  · simp only [Block.bytes_cons, Block.toList_ofBytes, List.append_assoc, Block.bytes_split,
      List.take_append_drop]
  · rfl

theorem length_feed_snd (b : Buffer) (data : Bytes) :
    (b.feed data).2.bytes.length = (b.bytes.length + data.length) % 64 := by
  have hroom := b.bytes_add_room
  have hlt := b.length_lt
  simp only [feed]
  split
  · rename_i hfull
    simp only [List.length_take] at hfull
    rw [Block.length_split_snd, List.length_drop]
    omega
  · rename_i hshort
    simp only [List.length_take] at hshort
    simp only [List.length_append]
    omega

end Buffer

end Checksum
