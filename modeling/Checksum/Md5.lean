import Checksum.Compression
import Checksum.Midstate.Saved

/-!
# MD5

A block is sixteen little-endian words, and compressing it runs 64 steps over four registers. Step
`i` mixes `b`, `c` and `d` in one of four ways, adds the result, a constant and one message word to
`a`, rotates, adds `b`, and moves every register on by one place; the message words are visited in a
different order in each quarter of the steps. The registers are then added to the chaining value
they started from.
-/

namespace Checksum.Md5

structure Registers where
  a : UInt32
  b : UInt32
  c : UInt32
  d : UInt32
  deriving DecidableEq, Repr

/-- How far step `i` rotates. -/
def distances : Vector UInt32 64 :=
  #v[
    7, 12, 17, 22, 7, 12, 17, 22, 7, 12, 17, 22, 7, 12, 17, 22,
    5, 9, 14, 20, 5, 9, 14, 20, 5, 9, 14, 20, 5, 9, 14, 20,
    4, 11, 16, 23, 4, 11, 16, 23, 4, 11, 16, 23, 4, 11, 16, 23,
    6, 10, 15, 21, 6, 10, 15, 21, 6, 10, 15, 21, 6, 10, 15, 21]

/-- The integer part of `2 ^ 32 * |sin (i + 1)|`, with `i + 1` in radians. -/
def sines : Vector UInt32 64 :=
  #v[
    0xd76aa478, 0xe8c7b756, 0x242070db, 0xc1bdceee, 0xf57c0faf, 0x4787c62a, 0xa8304613, 0xfd469501,
    0x698098d8, 0x8b44f7af, 0xffff5bb1, 0x895cd7be, 0x6b901122, 0xfd987193, 0xa679438e, 0x49b40821,
    0xf61e2562, 0xc040b340, 0x265e5a51, 0xe9b6c7aa, 0xd62f105d, 0x02441453, 0xd8a1e681, 0xe7d3fbc8,
    0x21e1cde6, 0xc33707d6, 0xf4d50d87, 0x455a14ed, 0xa9e3e905, 0xfcefa3f8, 0x676f02d9, 0x8d2a4c8a,
    0xfffa3942, 0x8771f681, 0x6d9d6122, 0xfde5380c, 0xa4beea44, 0x4bdecfa9, 0xf6bb4b60, 0xbebfbc70,
    0x289b7ec6, 0xeaa127fa, 0xd4ef3085, 0x04881d05, 0xd9d4d039, 0xe6db99e5, 0x1fa27cf8, 0xc4ac5665,
    0xf4292244, 0x432aff97, 0xab9423a7, 0xfc93a039, 0x655b59c3, 0x8f0ccc92, 0xffeff47d, 0x85845dd1,
    0x6fa87e4f, 0xfe2ce6e0, 0xa3014314, 0x4e0811a1, 0xf7537e82, 0xbd3af235, 0x2ad7d2bb, 0xeb86d391]

def mix (r : Registers) (i : Fin 64) : UInt32 :=
  match i.val / 16 with
  | 0 => (r.b &&& r.c) ||| (~~~r.b &&& r.d)
  | 1 => (r.b &&& r.d) ||| (r.c &&& ~~~r.d)
  | 2 => r.b ^^^ r.c ^^^ r.d
  | _ => r.c ^^^ (r.b ||| ~~~r.d)

/-- The message word that step `i` takes. -/
def wordIndex (i : Fin 64) : Fin 16 :=
  match i.val / 16 with
  | 0 => Fin.ofNat 16 i.val
  | 1 => Fin.ofNat 16 (5 * i.val + 1)
  | 2 => Fin.ofNat 16 (3 * i.val + 5)
  | _ => Fin.ofNat 16 (7 * i.val)

def step (message : Vector UInt32 16) (r : Registers) (i : Fin 64) : Registers where
  a := r.d
  b := r.b + rotateLeft (r.a + mix r i + sines.get i + message.get (wordIndex i)) (distances.get i)
  c := r.b
  d := r.c

def Registers.ofChain (chain : Chain 4) : Registers := ⟨chain[0], chain[1], chain[2], chain[3]⟩

def Registers.toChain (r : Registers) : Chain 4 := #v[r.a, r.b, r.c, r.d]

/-- The 64 steps, before the chaining value is added back. -/
def steps (chain : Chain 4) (block : Block) : Chain 4 :=
  (Fin.foldl 64 (step (block.words .little)) (.ofChain chain)).toChain

def compress : BlockFunction 4 := fun chain block => chain.add (steps chain block)

def run : Compression 4 := .sequential compress

def initial : Chain 4 := #v[0x67452301, 0xefcdab89, 0x98badcfe, 0x10325476]

def tag : Tag := #v[0x6d, 0x64, 0x35, 0x01]

def digestSize : Nat := 16

end Checksum.Md5
