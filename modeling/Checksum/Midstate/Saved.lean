import Checksum.Midstate

/-!
# Saved midstates

A midstate is saved as a tag of four bytes that names the algorithm, the words of the chaining
value, the waiting block filled up with zeros, and the byte count, all words big-endian whatever
order the algorithm itself uses. Reading takes the tag first and the size second; the number of
pending bytes is the count modulo 64, and what stands in the block beyond them is ignored.
-/

namespace Checksum

abbrev Tag := Vector UInt8 4

/-- The size in bytes of a saved midstate whose chaining value has `n` words. -/
def savedSize (n : Nat) : Nat := 4 + 4 * n + 64 + 8

inductive StateError where
  | identifier
  | size (expected actual : Nat)
  deriving DecidableEq, Repr

def StateError.message : StateError → String
  | identifier => "invalid hash state identifier"
  | size expected actual =>
      "invalid hash state size (expected " ++ toString expected ++ " bytes, got " ++
        toString actual ++ " bytes)"

/-- The cause by its name, with its values by theirs. -/
def StateError.detail : StateError → String
  | identifier => "InvalidStateIdentifier"
  | size expected actual =>
      "InvalidStateSize \x7b expected: " ++ toString expected ++ ", actual: " ++ toString actual ++
        " \x7d"

namespace Midstate

variable {n : Nat}

def encode (tag : Tag) (m : Midstate n) : Bytes :=
  tag.toList ++ m.chain.toList.flatMap ByteOrder.big.bytes32 ++ m.buffer.zeroFilled ++
    ByteOrder.big.bytes64 m.length

def decode (tag : Tag) (blob : Bytes) : Except StateError (Midstate n) :=
  if blob.take 4 ≠ tag.toList then .error .identifier
  else if blob.length ≠ savedSize n then .error (.size (savedSize n) blob.length)
  else
    let words := blob.drop 4
    let block := words.drop (4 * n)
    let length := ByteOrder.big.word64 (block.drop 64)
    .ok {
      chain := Vector.ofFn fun i => ByteOrder.big.word32 ((words.drop (4 * i.val)).take 4)
      buffer := ⟨block.take (length.toNat % 64), by
        have := Nat.mod_lt length.toNat (show 64 > 0 by decide)
        simp only [List.length_take]
        omega⟩
      length }

theorem length_flatMap_bytes32 (order : ByteOrder) (ws : List UInt32) :
    (ws.flatMap order.bytes32).length = 4 * ws.length := by
  induction ws with
  | nil => rfl
  | cons w ws ih =>
      simp only [List.flatMap_cons, List.length_append, ByteOrder.length_bytes32, ih,
        List.length_cons]
      omega

@[simp] theorem length_encode (tag : Tag) (m : Midstate n) :
    (m.encode tag).length = savedSize n := by
  simp only [encode, List.length_append, length_flatMap_bytes32, Vector.length_toList,
    Buffer.length_zeroFilled, ByteOrder.length_bytes64, savedSize]

/-- Reading takes as many pending bytes as the count asks for, whatever the count is. -/
theorem aligned_of_decode {tag : Tag} {blob : Bytes} {m : Midstate n} (h : decode tag blob = .ok m) :
    m.Aligned := by
  simp only [decode] at h
  split at h
  · cases h
  · split at h
    · cases h
    · rename_i hsize
      have hsize : blob.length = savedSize n := by simpa using hsize
      cases h
      simp only [Aligned, List.length_take, List.length_drop, hsize, savedSize]
      omega

end Midstate

end Checksum
