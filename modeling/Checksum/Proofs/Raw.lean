import Checksum.Proofs.OneShot

/-!
# Midstates with nothing promised

A `Midstate` holds fewer than 64 pending bytes because its type says so, and what is written of it fits
its places for the same reason. A `Raw` midstate is a plain record: any number of bytes may be pending
under any count. Its operations check what they rely on, and stop with a `Fault` where that fails: when a
buffer would hold a block or more, when there is no room to fill up with zeros, when a saved state comes
out too long or too short, when something is left over behind the padding, and when more words are asked
for than there are. On the plain record of a midstate none of them stops, and each does what is done to
the midstate itself (`write_raw` to `restore_raw`).
-/

namespace Checksum

/-- Why an operation stops. -/
inductive Fault where
  | overfull (pending : Nat)
  | unfillable (pending : Nat)
  | savedSize (size : Nat)
  | unprocessed (pending : Nat)
  | outputSize (size : Nat)
  deriving DecidableEq, Repr

/-- Stops with the fault unless the condition holds. -/
def require (condition : Prop) [Decidable condition] (fault : Fault) : Except Fault Unit :=
  if condition then .ok () else .error fault

theorem require_bind {α : Type} {condition : Prop} [Decidable condition] (h : condition) (fault : Fault)
    (next : Unit → Except Fault α) : (require condition fault >>= next) = next () := by
  rw [require, if_pos h]
  rfl

structure Raw (n : Nat) where
  chain : Chain n
  pending : Bytes
  length : UInt64

namespace Raw

variable {n : Nat}

def start (chain : Chain n) : Raw n := ⟨chain, [], 0⟩

def write (run : Compression n) (m : Raw n) (data : Bytes) : Except Fault (Raw n × Nat) := do
  require (m.pending.length < 64) (.overfull m.pending.length)
  let cut := Block.split (m.pending ++ data)
  return (⟨run m.chain cut.1, cut.2, m.length + UInt64.ofNat data.length⟩, data.length)

/-- The pending bytes with the padding behind them, which takes one block or two, cut into blocks. -/
def padded (order : ByteOrder) (m : Raw n) : List Block × Bytes :=
  let zeros := if m.pending.length < 56 then 55 - m.pending.length else 119 - m.pending.length
  Block.split (m.pending ++ (0x80 :: List.replicate zeros 0 ++ order.bytes64 (m.length * 8)))

def finish (order : ByteOrder) (run : Compression n) (m : Raw n) : Except Fault (Chain n) := do
  require (m.pending.length < 64) (.overfull m.pending.length)
  let cut := m.padded order
  require (cut.2.length = 0) (.unprocessed cut.2.length)
  return run m.chain cut.1

/-- The first `size` bytes of a chaining value, which are some of its words. -/
def output (order : ByteOrder) (size : Nat) (chain : Chain n) : Except Fault Bytes := do
  require (size % 4 = 0 ∧ size ≤ 4 * n) (.outputSize size)
  return Midstate.output order size chain

def digest (order : ByteOrder) (run : Compression n) (size : Nat) (m : Raw n) : Except Fault Bytes := do
  let chain ← m.finish order run
  output order size chain

def encode (tag : Tag) (m : Raw n) : Except Fault Bytes := do
  require (m.pending.length ≤ 64) (.unfillable m.pending.length)
  let zeroFilled := m.pending ++ List.replicate (64 - m.pending.length) 0
  let blob := tag.toList ++ m.chain.toList.flatMap ByteOrder.big.bytes32 ++ zeroFilled ++
    ByteOrder.big.bytes64 m.length
  require (blob.length = savedSize n) (.savedSize blob.length)
  return blob

def decode (tag : Tag) (blob : Bytes) : Except Fault (Except StateError (Raw n)) :=
  if blob.take 4 ≠ tag.toList then .ok (.error .identifier)
  else if blob.length ≠ savedSize n then .ok (.error (.size (savedSize n) blob.length))
  else do
    let words := blob.drop 4
    let block := words.drop (4 * n)
    let length := ByteOrder.big.word64 (block.drop 64)
    let pending := block.take (length.toNat % 64)
    require (pending.length < 64) (.overfull pending.length)
    let chain := Vector.ofFn fun i => ByteOrder.big.word32 ((words.drop (4 * i.val)).take 4)
    return .ok ⟨chain, pending, length⟩

end Raw

namespace Midstate

variable {n : Nat}

/-- The plain record of a midstate. -/
def raw (m : Midstate n) : Raw n := ⟨m.chain, m.buffer.bytes, m.length⟩

theorem length_pending_raw_lt (m : Midstate n) : m.raw.pending.length < 64 := m.buffer.length_lt

theorem write_raw (run : Compression n) (m : Midstate n) (data : Bytes) :
    m.raw.write run data = .ok ((m.absorb run data).raw, data.length) := by
  have hfeed := m.buffer.feed_eq data
  have hsplit := Block.split_eq (m.buffer.bytes ++ data)
  rw [Raw.write, require_bind m.length_pending_raw_lt]
  simp only [raw, absorb, hfeed, hsplit, Buffer.bytes_restOf]
  rfl

/-- The zeros in front of the length field fill one block or two. -/
theorem zeroRun_of_lt {k : Nat} (h : k < 64) :
    Padding.zeroRun k = if k < 56 then 55 - k else 119 - k := by
  by_cases hfits : k < 56
  · rw [if_pos hfits]
    exact Padding.zeroRun_eq_of_lt (by omega) (by omega)
  · rw [if_neg hfits]
    exact Padding.zeroRun_eq_of_lt (by omega) (by omega)

/-- Padding leaves nothing over. -/
theorem padded_raw (order : ByteOrder) (m : Midstate n) :
    m.raw.padded order = (m.closing order, []) := by
  have hclosing : m.buffer.bytes ++ (0x80 :: List.replicate (Padding.zeroRun m.buffer.bytes.length) 0
      ++ order.bytes64 (m.length * 8)) = Block.bytes (m.closing order) ++ [] := by
    rw [List.append_nil, closing, Buffer.bytes_close]
  rw [zeroRun_of_lt m.buffer.length_lt] at hclosing
  have hcut : Block.split (Block.bytes (m.closing order) ++ []) = (m.closing order, []) :=
    Block.split_unique (m.closing order) (by decide)
  rw [← hclosing] at hcut
  exact hcut

theorem finish_raw (order : ByteOrder) (run : Compression n) (m : Midstate n) :
    m.raw.finish order run = .ok (m.finish order run) := by
  rw [Raw.finish, require_bind m.length_pending_raw_lt, padded_raw]
  exact require_bind rfl _ _

theorem digest_raw (order : ByteOrder) (run : Compression n) {size : Nat} (m : Midstate n)
    (hsize : size % 4 = 0 ∧ size ≤ 4 * n) :
    m.raw.digest order run size = .ok (m.digest order run size) := by
  rw [Raw.digest, finish_raw]
  exact require_bind hsize _ _

theorem encode_raw (tag : Tag) (m : Midstate n) : m.raw.encode tag = .ok (m.encode tag) := by
  rw [Raw.encode, require_bind (Nat.le_of_lt m.length_pending_raw_lt)]
  exact require_bind (length_encode tag m) _ _

/-- The checks can fail: no midstate has this plain record. -/
example : (Raw.mk (Vector.replicate 4 0) (List.replicate 65 7) 65).encode Md5.tag
    = .error (.unfillable 65) := by rfl

/-- However long the block and whatever the count, reading takes fewer than 64 pending bytes. -/
theorem decode_raw (tag : Tag) (blob : Bytes) :
    Raw.decode (n := n) tag blob = .ok ((decode tag blob).map raw) := by
  by_cases htag : blob.take 4 = tag.toList
  · by_cases hsize : blob.length = savedSize n
    · rw [Raw.decode, if_neg (not_not.mpr htag), if_neg (not_not.mpr hsize), decode,
        if_neg (not_not.mpr htag), if_neg (not_not.mpr hsize)]
      apply require_bind
      rw [List.length_take]
      omega
    · rw [Raw.decode, if_neg (not_not.mpr htag), if_pos hsize, decode, if_neg (not_not.mpr htag),
        if_pos hsize]
      rfl
  · rw [Raw.decode, if_pos htag, decode, if_pos htag]
    rfl

end Midstate

end Checksum
