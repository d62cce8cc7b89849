import Checksum.Compression
import Checksum.Midstate.Saved

/-!
# SHA-256 and SHA-224

A block is sixteen big-endian words, which a recurrence extends to a schedule of 64. Compressing
runs one round per schedule word over eight registers and adds the registers to the chaining value
they started from. The two variants share all of this: they differ in the first chaining value, in
the tag of a saved hash, and in how much of the last chaining value is the digest.
-/

namespace Checksum.Sha256

def smallSigma0 (x : UInt32) : UInt32 := rotateRight x 7 ^^^ rotateRight x 18 ^^^ (x >>> 3)

def smallSigma1 (x : UInt32) : UInt32 := rotateRight x 17 ^^^ rotateRight x 19 ^^^ (x >>> 10)

def bigSigma0 (x : UInt32) : UInt32 := rotateRight x 2 ^^^ rotateRight x 13 ^^^ rotateRight x 22

def bigSigma1 (x : UInt32) : UInt32 := rotateRight x 6 ^^^ rotateRight x 11 ^^^ rotateRight x 25

/-- Bit by bit, the second word where the first is set and the third elsewhere. -/
def choose (x y z : UInt32) : UInt32 := (x &&& y) ^^^ (~~~x &&& z)

/-- Bit by bit, the value that at least two of the words hold. -/
def majority (x y z : UInt32) : UInt32 := (x &&& y) ^^^ (x &&& z) ^^^ (y &&& z)

/-- The first 32 bits after the point of the cube roots of the first 64 primes. -/
def constants : Vector UInt32 64 :=
  #v[
    0x428a2f98, 0x71374491, 0xb5c0fbcf, 0xe9b5dba5, 0x3956c25b, 0x59f111f1, 0x923f82a4, 0xab1c5ed5,
    0xd807aa98, 0x12835b01, 0x243185be, 0x550c7dc3, 0x72be5d74, 0x80deb1fe, 0x9bdc06a7, 0xc19bf174,
    0xe49b69c1, 0xefbe4786, 0x0fc19dc6, 0x240ca1cc, 0x2de92c6f, 0x4a7484aa, 0x5cb0a9dc, 0x76f988da,
    0x983e5152, 0xa831c66d, 0xb00327c8, 0xbf597fc7, 0xc6e00bf3, 0xd5a79147, 0x06ca6351, 0x14292967,
    0x27b70a85, 0x2e1b2138, 0x4d2c6dfc, 0x53380d13, 0x650a7354, 0x766a0abb, 0x81c2c92e, 0x92722c85,
    0xa2bfe8a1, 0xa81a664b, 0xc24b8b70, 0xc76c51a3, 0xd192e819, 0xd6990624, 0xf40e3585, 0x106aa070,
    0x19a4c116, 0x1e376c08, 0x2748774c, 0x34b0bcb5, 0x391c0cb3, 0x4ed8aa4a, 0x5b9cca4f, 0x682e6ff3,
    0x748f82ee, 0x78a5636f, 0x84c87814, 0x8cc70208, 0x90befffa, 0xa4506ceb, 0xbef9a3f7, 0xc67178f2]

/-- The first `16 + t` words of the schedule. -/
def scheduleTo (words : Vector UInt32 16) : (t : Nat) → Vector UInt32 (16 + t)
  | 0 => words
  | t + 1 =>
      let w := scheduleTo words t
      w.push (smallSigma1 w[t + 14] + w[t + 9] + smallSigma0 w[t + 1] + w[t])

def schedule (block : Block) : Vector UInt32 64 := scheduleTo (block.words .big) 48

structure Registers where
  a : UInt32
  b : UInt32
  c : UInt32
  d : UInt32
  e : UInt32
  f : UInt32
  g : UInt32
  h : UInt32
  deriving DecidableEq, Repr

def round (r : Registers) (constant word : UInt32) : Registers :=
  let t1 := r.h + bigSigma1 r.e + choose r.e r.f r.g + constant + word
  let t2 := bigSigma0 r.a + majority r.a r.b r.c
  ⟨t1 + t2, r.a, r.b, r.c, r.d + t1, r.e, r.f, r.g⟩

def Registers.ofChain (chain : Chain 8) : Registers :=
  ⟨chain[0], chain[1], chain[2], chain[3], chain[4], chain[5], chain[6], chain[7]⟩

def Registers.toChain (r : Registers) : Chain 8 := #v[r.a, r.b, r.c, r.d, r.e, r.f, r.g, r.h]

/-- The 64 rounds, before the chaining value is added back. -/
def rounds (chain : Chain 8) (block : Block) : Chain 8 :=
  let w := schedule block
  (Fin.foldl 64 (fun r i => round r (constants.get i) (w.get i)) (.ofChain chain)).toChain

def compress : BlockFunction 8 := fun chain block => chain.add (rounds chain block)

inductive Variant where
  | sha224
  | sha256
  deriving DecidableEq, Repr

namespace Variant

def label : Variant → String
  | sha224 => "Sha224"
  | sha256 => "Sha256"

def initial : Variant → Chain 8
  | sha224 => #v[0xc1059ed8, 0x367cd507, 0x3070dd17, 0xf70e5939,
      0xffc00b31, 0x68581511, 0x64f98fa7, 0xbefa4fa4]
  | sha256 => #v[0x6a09e667, 0xbb67ae85, 0x3c6ef372, 0xa54ff53a,
      0x510e527f, 0x9b05688c, 0x1f83d9ab, 0x5be0cd19]

def tag : Variant → Tag
  | sha224 => #v[0x73, 0x68, 0x61, 0x02]
  | sha256 => #v[0x73, 0x68, 0x61, 0x03]

def digestSize : Variant → Nat
  | sha224 => 28
  | sha256 => 32

end Variant

end Checksum.Sha256
