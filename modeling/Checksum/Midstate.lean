import Checksum.Buffer
import Checksum.Compression

/-!
# Unfinished hashes

A midstate is a hash part way through its input: the chaining value after the whole blocks, the
bytes pending for the next block, and the number of bytes absorbed modulo `2 ^ 64`. Finishing works
on a copy, so that absorbing may go on after a digest has been read. The length field counts bits
and wraps at `2 ^ 64` on its own.

`Aligned` says that the pending bytes are as many as the count modulo 64 asks for. It holds of every
midstate that is made by starting, absorbing or reading a saved state.
-/

namespace Checksum

structure Midstate (n : Nat) where
  chain : Chain n
  buffer : Buffer
  length : UInt64

namespace Midstate

variable {n : Nat}

def Aligned (m : Midstate n) : Prop := m.buffer.bytes.length = m.length.toNat % 64

def start (chain : Chain n) : Midstate n := ⟨chain, .empty, 0⟩

def absorb (run : Compression n) (m : Midstate n) (data : Bytes) : Midstate n :=
  let fed := m.buffer.feed data
  ⟨run m.chain fed.1, fed.2, m.length + UInt64.ofNat data.length⟩

/-- Absorbs `data` and counts the bytes taken, which is all of them. -/
def write (run : Compression n) (m : Midstate n) (data : Bytes) : Midstate n × Nat :=
  (m.absorb run data, data.length)

def closing (order : ByteOrder) (m : Midstate n) : List Block :=
  m.buffer.close (order.bytes64 (m.length * 8)) (order.length_bytes64 _)

/-- The chaining value after the closing blocks. -/
def finish (order : ByteOrder) (run : Compression n) (m : Midstate n) : Chain n :=
  run m.chain (m.closing order)

/-- The first `size` bytes of a chaining value. -/
def output (order : ByteOrder) (size : Nat) (chain : Chain n) : Bytes :=
  (chain.toList.flatMap order.bytes32).take size

def digest (order : ByteOrder) (run : Compression n) (size : Nat) (m : Midstate n) : Bytes :=
  output order size (m.finish order run)

theorem start_aligned (chain : Chain n) : (start chain).Aligned := rfl

theorem Aligned.absorb {m : Midstate n} (h : m.Aligned) (run : Compression n) (data : Bytes) :
    (m.absorb run data).Aligned := by
  simp only [Aligned, Midstate.absorb, Buffer.length_feed_snd] at h ⊢
  simp only [UInt64.toNat_add, UInt64.toNat_ofNat']
  omega

end Midstate

end Checksum
