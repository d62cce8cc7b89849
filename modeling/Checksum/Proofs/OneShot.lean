import Checksum.Host
import Checksum.Proofs.Uniform

/-!
# One-shot hashing

`Algorithm.hash` is the checksum of a message that is there as a whole: pad it, cut it into blocks,
fold the block function over them from the first chaining value, and write the result. No buffer and
no backend occur in it. Starting a hasher, absorbing the message and reading the checksum comes to the
same (`checksum_fresh`), on every backend that serves the algorithm. `Algorithm.hashFrom` is the same
from any chaining value and with any count, as they come out of a saved state.

The checksum is written out here from the numbers that its words are (`Algorithm.digest`), and so is the
length in the padding: both in the spelling of the algorithm, and with its own number of words. That the
bytes a hasher shifts out of its words come to the same is `Algorithm.output_eq_digest`.
-/

namespace Checksum

namespace Padding

theorem bytes_length_mod (order : ByteOrder) (n length : Nat) :
    bytes order n (length % 2 ^ 64) = bytes order n length := by
  rw [bytes, bytes, lengthField_mod]

/-- The length may be counted in a word, from any start. -/
theorem bytes_add_ofNat (order : ByteOrder) (n count : Nat) (length : UInt64) :
    bytes order n (length + UInt64.ofNat count).toNat = bytes order n (length.toNat + count) := by
  rw [UInt64.toNat_add, UInt64.toNat_ofNat', Nat.add_mod_mod, bytes_length_mod]

end Padding

/-- The first words of a chaining value, each a number in base 256. -/
theorem Midstate.output_words {n : Nat} (order : ByteOrder) (count : Nat) (chain : Chain n) :
    output order (4 * count) chain
      = (chain.toList.take count).flatMap fun w => order.arrange (Bytes.digits 4 w.toNat) := by
  have hword : order.bytes32 = fun w => order.arrange (Bytes.digits 4 w.toNat) := by
    funext w
    exact ByteOrder.bytes32_eq order w
  rw [output, Bytes.take_flatMap order.length_bytes32, hword]

/-- Nothing is kept back if all of the words are put out. -/
theorem Midstate.output_all {n : Nat} (order : ByteOrder) (chain : Chain n) :
    output order (4 * n) chain = chain.toList.flatMap order.bytes32 := by
  apply List.take_of_length_le
  rw [Bytes.length_flatMap order.length_bytes32, Vector.length_toList]

namespace Algorithm

/-- Only SHA-224 keeps a word of the last chaining value back. -/
theorem digestSize_eq {a : Algorithm} (h : a ≠ sha224) : a.digestSize = 4 * a.words := by
  cases a with
  | md5 => rfl
  | sha224 => exact absurd rfl h
  | sha256 => rfl

/-! ### The checksum of a stream -/

/-- A number in `k` bytes: MD5 starts with the least significant one, the others with the most. -/
def spell : Algorithm → Nat → Nat → Bytes
  | md5, k, n => (Bytes.digits k n).reverse
  | sha224, k, n => Bytes.digits k n
  | sha256, k, n => Bytes.digits k n

/-- How many words of the last chaining value make the checksum. -/
def digestWords : Algorithm → Nat
  | md5 => 4
  | sha224 => 7
  | sha256 => 8

/-- The checksum that the words of the last chaining value spell. -/
def digest (a : Algorithm) (words : List UInt32) : Bytes :=
  (words.take a.digestWords).flatMap fun w => a.spell 4 w.toNat

/-- What follows `n` bytes that are said to end an input of `count` bytes. -/
def padding (a : Algorithm) (n count : Nat) : Bytes :=
  0x80 :: List.replicate (Padding.zeroRun n) 0 ++ a.spell 8 (8 * count % 2 ^ 64)

/-- The checksum of a stream read from any chaining value, with a count of its own. -/
def hashFrom (a : Algorithm) (chain : Chain a.words) (stream : Bytes) (count : Nat) : Bytes :=
  let padded := stream ++ a.padding stream.length count
  a.digest ((Block.whole padded).foldl a.compress chain).toList

/-- The checksum of a message, from the message as a whole. -/
def hash (a : Algorithm) (message : Bytes) : Bytes := a.hashFrom a.initial message message.length

theorem spell_eq (a : Algorithm) (k n : Nat) : a.spell k n = a.order.arrange (Bytes.digits k n) := by
  cases a <;> rfl

theorem padding_eq (a : Algorithm) (n count : Nat) : a.padding n count = Padding.bytes a.order n count := by
  rw [padding, spell_eq, Padding.bytes, Padding.lengthField]

/-- What is put out of a chaining value is the checksum that its words spell. -/
theorem output_eq_digest (a : Algorithm) (chain : Chain a.words) :
    Midstate.output a.order a.digestSize chain = a.digest chain.toList := by
  have hsize : a.digestSize = 4 * a.digestWords := by cases a <;> rfl
  have hspell : (fun w : UInt32 => a.order.arrange (Bytes.digits 4 w.toNat))
      = fun w => a.spell 4 w.toNat := by
    funext w
    exact (spell_eq a 4 w.toNat).symm
  rw [hsize, Midstate.output_words, hspell, digest]

theorem hashFrom_eq (a : Algorithm) (chain : Chain a.words) (stream : Bytes) (count : Nat) :
    a.hashFrom chain stream count
      = Midstate.output a.order a.digestSize
          ((Block.whole (stream ++ Padding.bytes a.order stream.length count)).foldl a.compress chain) := by
  rw [hashFrom, padding_eq, output_eq_digest]

/-- The count that is put into the padding wraps on its own. -/
theorem hashFrom_mod (a : Algorithm) (chain : Chain a.words) (stream : Bytes) (count : Nat) :
    a.hashFrom chain stream (count % 2 ^ 64) = a.hashFrom chain stream count := by
  rw [hashFrom_eq, Padding.bytes_length_mod, hashFrom_eq]

end Algorithm

namespace Hasher

/-- The hasher that has read a message from a fresh start. -/
def fresh (b : Backend) (a : Algorithm) (message : Bytes) : Hasher :=
  of b a (.reading a.compress a.initial message (UInt64.ofNat message.length))

theorem fresh_nil (b : Backend) (a : Algorithm) : fresh b a [] = start b a := by
  rw [start_eq_of, Midstate.start_eq_reading a.compress]
  rfl

variable {p : Platform} {b : Backend} {a : Algorithm}

theorem writeAll_reading (hs : p.Serves b a) (chain : Chain a.words) (stream : Bytes)
    (length : UInt64) (pieces : List Bytes) :
    (of b a (.reading a.compress chain stream length)).writeAll p pieces
      = (of b a (.reading a.compress chain (stream ++ pieces.flatten)
          (length + UInt64.ofNat pieces.flatten.length)), pieces.flatten.length) := by
  rw [writeAll_of, Midstate.foldl_absorb_reading hs]

theorem checksum_reading (hs : p.Serves b a) (chain : Chain a.words) (stream : Bytes)
    (length : UInt64) :
    (of b a (.reading a.compress chain stream length)).checksum p
      = a.hashFrom chain stream length.toNat := by
  rw [checksum_of, Midstate.digest, Midstate.finish_reading hs, Algorithm.hashFrom_eq]

theorem absorb_fresh (hs : p.Serves b a) (message data : Bytes) :
    (fresh b a message).absorb p data = fresh b a (message ++ data) := by
  rw [fresh, absorb_of, Midstate.absorb_reading hs, fresh, List.length_append, UInt64.ofNat_add]

theorem writeAll_fresh (hs : p.Serves b a) (message : Bytes) (pieces : List Bytes) :
    (fresh b a message).writeAll p pieces
      = (fresh b a (message ++ pieces.flatten), pieces.flatten.length) := by
  rw [fresh, writeAll_reading hs, fresh, List.length_append, UInt64.ofNat_add]

theorem checksum_fresh (hs : p.Serves b a) (message : Bytes) :
    (fresh b a message).checksum p = a.hash message := by
  rw [fresh, checksum_reading hs, UInt64.toNat_ofNat', Algorithm.hashFrom_mod, Algorithm.hash]

end Hasher

namespace Host

/-- The backend for a hasher made without one; for MD5 there is no need to choose. -/
def backendFor (host : Host) : Algorithm → Backend × Host
  | .md5 => (.portable, host)
  | .sha224 => host.defaultBackend
  | .sha256 => host.defaultBackend

theorem newHasher_eq (host : Host) (a : Algorithm) :
    host.newHasher a = (.fresh (host.backendFor a).1 a [], (host.backendFor a).2) := by
  rw [Hasher.fresh_nil]
  cases a <;> rfl

theorem construct_eq {host : Host} {c : Constructor}
    (hs : host.platform.Serves (host.backendFor c.algorithm).1 c.algorithm) :
    host.construct c = (.fresh (host.backendFor c.algorithm).1 c.algorithm c.absorbed,
      (host.backendFor c.algorithm).2) := by
  simp only [construct, newHasher_eq]
  rw [Hasher.absorb_fresh hs, List.nil_append]

theorem checksum_eq {host : Host} {a : Algorithm}
    (hs : host.platform.Serves (host.backendFor a).1 a) (data : Bytes) :
    host.checksum a data = (a.hash data, (host.backendFor a).2) := by
  simp only [checksum, newHasher_eq]
  rw [Hasher.absorb_fresh hs, List.nil_append, Hasher.checksum_fresh hs]

end Host

end Checksum
