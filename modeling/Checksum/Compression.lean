import Checksum.Block

/-!
# Compression

Between blocks a hash is a chaining value, a fixed number of 32-bit words. A compression takes a
chaining value through a list of blocks at once, so that an implementation may treat a long run of
blocks in its own way. What it has to compute is said by `InOrder`: the effect of one block
function applied to the blocks from first to last.
-/

namespace Checksum

abbrev Chain (n : Nat) := Vector UInt32 n

abbrev BlockFunction (n : Nat) := Chain n → Block → Chain n

abbrev Compression (n : Nat) := Chain n → List Block → Chain n

namespace Compression

variable {n : Nat}

def InOrder (run : Compression n) (f : BlockFunction n) : Prop :=
  ∀ chain blocks, run chain blocks = blocks.foldl f chain

/-- The compression that takes the blocks one at a time. -/
def sequential (f : BlockFunction n) : Compression n := fun chain blocks => blocks.foldl f chain

theorem sequential_inOrder (f : BlockFunction n) : InOrder (sequential f) f := fun _ _ => rfl

end Compression

/-- Word by word addition modulo `2 ^ 32`. -/
def Chain.add {n : Nat} (x y : Chain n) : Chain n := Vector.ofFn fun i => x.get i + y.get i

/-- The bits that leave at the top come back at the bottom, for a distance below 32. -/
def rotateLeft (w k : UInt32) : UInt32 := (w <<< k) ||| (w >>> (32 - k))

/-- The bits that leave at the bottom come back at the top, for a distance below 32. -/
def rotateRight (w k : UInt32) : UInt32 := (w >>> k) ||| (w <<< (32 - k))

end Checksum
