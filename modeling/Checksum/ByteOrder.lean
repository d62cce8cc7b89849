import Checksum.Bytes

/-!
# Byte orders

A word is written most significant byte first or last. Both orders are one rule: list the bytes
from the most significant down, then keep that list or turn it round. Reading arranges the bytes
in the same way and folds them into the word.
-/

namespace Checksum

inductive ByteOrder where
  | big
  | little
  deriving DecidableEq, Repr

namespace ByteOrder

/-- Passes between this order and the most significant byte first, in either direction. -/
def arrange : ByteOrder → Bytes → Bytes
  | big, bs => bs
  | little, bs => bs.reverse

def bytes32 (order : ByteOrder) (w : UInt32) : Bytes :=
  order.arrange [(w >>> 24).toUInt8, (w >>> 16).toUInt8, (w >>> 8).toUInt8, w.toUInt8]

def word32 (order : ByteOrder) (bs : Bytes) : UInt32 :=
  (order.arrange bs).foldl (fun w b => (w <<< 8) ||| b.toUInt32) 0

def bytes64 (order : ByteOrder) (w : UInt64) : Bytes :=
  order.arrange [(w >>> 56).toUInt8, (w >>> 48).toUInt8, (w >>> 40).toUInt8, (w >>> 32).toUInt8,
    (w >>> 24).toUInt8, (w >>> 16).toUInt8, (w >>> 8).toUInt8, w.toUInt8]

def word64 (order : ByteOrder) (bs : Bytes) : UInt64 :=
  (order.arrange bs).foldl (fun w b => (w <<< 8) ||| b.toUInt64) 0

@[simp] theorem length_arrange (order : ByteOrder) (bs : Bytes) :
    (order.arrange bs).length = bs.length := by
  cases order <;> simp [arrange]

@[simp] theorem arrange_arrange (order : ByteOrder) (bs : Bytes) :
    order.arrange (order.arrange bs) = bs := by
  cases order <;> simp [arrange]

@[simp] theorem length_bytes32 (order : ByteOrder) (w : UInt32) : (order.bytes32 w).length = 4 := by
  simp [bytes32]

@[simp] theorem length_bytes64 (order : ByteOrder) (w : UInt64) : (order.bytes64 w).length = 8 := by
  simp [bytes64]

end ByteOrder

end Checksum
