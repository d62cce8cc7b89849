import Checksum.Sha256

/-!
# SHA-256 over a moving window

Another way to compress a block: the schedule is not written out but kept as its next sixteen words,
and every round uses the first of them and moves the window on by one. The two bitwise functions are
taken as a selection and as a disjunction, which need no exclusive or.
-/

namespace Checksum.Sha256.Window

def select (x y z : UInt32) : UInt32 := (x &&& y) ||| (~~~x &&& z)

def majorityOf (x y z : UInt32) : UInt32 := (x &&& y) ||| (x &&& z) ||| (y &&& z)

structure State where
  registers : Registers
  window : Vector UInt32 16

/-- The schedule word sixteen places behind the first word of the window. -/
def nextWord (w : Vector UInt32 16) : UInt32 :=
  smallSigma1 w[14] + w[9] + smallSigma0 w[1] + w[0]

/-- Drops the first word and takes a new last one. -/
def shift (w : Vector UInt32 16) (last : UInt32) : Vector UInt32 16 :=
  Vector.ofFn fun i => if h : i.val + 1 < 16 then w[i.val + 1] else last

def round (s : State) (constant : UInt32) : State :=
  let r := s.registers
  let t1 := r.h + bigSigma1 r.e + select r.e r.f r.g + constant + s.window[0]
  let t2 := bigSigma0 r.a + majorityOf r.a r.b r.c
  ⟨⟨t1 + t2, r.a, r.b, r.c, r.d + t1, r.e, r.f, r.g⟩, shift s.window (nextWord s.window)⟩

def compress : BlockFunction 8 := fun chain block =>
  let last := Fin.foldl 64 (fun s i => round s (constants.get i)) ⟨.ofChain chain, block.words .big⟩
  chain.add last.registers.toChain

def run : Compression 8 := .sequential compress

end Checksum.Sha256.Window
