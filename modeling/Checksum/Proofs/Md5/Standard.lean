import Mathlib.Logic.Function.Basic
import Checksum.Proofs.Md5.Sines
import Checksum.Proofs.OneShot
import Checksum.Proofs.Rounds

/-!
# The MD5 digest as the standard writes it

A second way to MD5, which takes nothing from the first but the types of blocks and chaining values.
The block function is a program of four lists of sixteen operations on four registers. An operation
`[abcd k s i]` says which register plays which part, which message word and which sine it adds and
how far it rotates, and it changes in place the one register that plays `a`; the registers never
move. The message is padded at once, with the length in bits least significant byte first.

The loop that moves every register on by one place is in step with the program (`InStep`): before
operation `i` its registers are those of the program as the parts are dealt out in that operation. So
the block functions are equal for every chaining value and every block (`compress_eq`), and with them
the digests of every message (`hash_eq`).
-/

namespace Checksum.Md5.Standard

/-! ### The program -/

inductive Register where
  | A
  | B
  | C
  | D
  deriving DecidableEq, Repr

/-- How the parts `a`, `b`, `c`, `d` are dealt out to the registers, listed in this order. -/
inductive Parts where
  | ABCD
  | DABC
  | CDAB
  | BCDA
  deriving DecidableEq, Repr

namespace Parts

def a : Parts → Register
  | ABCD => .A
  | DABC => .D
  | CDAB => .C
  | BCDA => .B

def b : Parts → Register
  | ABCD => .B
  | DABC => .A
  | CDAB => .D
  | BCDA => .C

def c : Parts → Register
  | ABCD => .C
  | DABC => .B
  | CDAB => .A
  | BCDA => .D

def d : Parts → Register
  | ABCD => .D
  | DABC => .C
  | CDAB => .B
  | BCDA => .A

end Parts

/-- The operation `[abcd k s i]`. -/
structure Operation where
  parts : Parts
  k : Nat
  s : Nat
  i : Nat
  deriving DecidableEq, Repr

/-- The functions that are each applied in one of the four lists. -/
inductive Mixing where
  | F
  | G
  | H
  | I
  deriving DecidableEq, Repr

def Mixing.apply : Mixing → UInt32 → UInt32 → UInt32 → UInt32
  | F, x, y, z => (x &&& y) ||| (~~~x &&& z)
  | G, x, y, z => (x &&& z) ||| (y &&& ~~~z)
  | H, x, y, z => x ^^^ y ^^^ z
  | I, x, y, z => y ^^^ (x ||| ~~~z)

def round1 : List Operation :=
  [⟨.ABCD, 0, 7, 1⟩, ⟨.DABC, 1, 12, 2⟩, ⟨.CDAB, 2, 17, 3⟩, ⟨.BCDA, 3, 22, 4⟩,
    ⟨.ABCD, 4, 7, 5⟩, ⟨.DABC, 5, 12, 6⟩, ⟨.CDAB, 6, 17, 7⟩, ⟨.BCDA, 7, 22, 8⟩,
    ⟨.ABCD, 8, 7, 9⟩, ⟨.DABC, 9, 12, 10⟩, ⟨.CDAB, 10, 17, 11⟩, ⟨.BCDA, 11, 22, 12⟩,
    ⟨.ABCD, 12, 7, 13⟩, ⟨.DABC, 13, 12, 14⟩, ⟨.CDAB, 14, 17, 15⟩, ⟨.BCDA, 15, 22, 16⟩]

def round2 : List Operation :=
  [⟨.ABCD, 1, 5, 17⟩, ⟨.DABC, 6, 9, 18⟩, ⟨.CDAB, 11, 14, 19⟩, ⟨.BCDA, 0, 20, 20⟩,
    ⟨.ABCD, 5, 5, 21⟩, ⟨.DABC, 10, 9, 22⟩, ⟨.CDAB, 15, 14, 23⟩, ⟨.BCDA, 4, 20, 24⟩,
    ⟨.ABCD, 9, 5, 25⟩, ⟨.DABC, 14, 9, 26⟩, ⟨.CDAB, 3, 14, 27⟩, ⟨.BCDA, 8, 20, 28⟩,
    ⟨.ABCD, 13, 5, 29⟩, ⟨.DABC, 2, 9, 30⟩, ⟨.CDAB, 7, 14, 31⟩, ⟨.BCDA, 12, 20, 32⟩]

def round3 : List Operation :=
  [⟨.ABCD, 5, 4, 33⟩, ⟨.DABC, 8, 11, 34⟩, ⟨.CDAB, 11, 16, 35⟩, ⟨.BCDA, 14, 23, 36⟩,
    ⟨.ABCD, 1, 4, 37⟩, ⟨.DABC, 4, 11, 38⟩, ⟨.CDAB, 7, 16, 39⟩, ⟨.BCDA, 10, 23, 40⟩,
    ⟨.ABCD, 13, 4, 41⟩, ⟨.DABC, 0, 11, 42⟩, ⟨.CDAB, 3, 16, 43⟩, ⟨.BCDA, 6, 23, 44⟩,
    ⟨.ABCD, 9, 4, 45⟩, ⟨.DABC, 12, 11, 46⟩, ⟨.CDAB, 15, 16, 47⟩, ⟨.BCDA, 2, 23, 48⟩]

def round4 : List Operation :=
  [⟨.ABCD, 0, 6, 49⟩, ⟨.DABC, 7, 10, 50⟩, ⟨.CDAB, 14, 15, 51⟩, ⟨.BCDA, 5, 21, 52⟩,
    ⟨.ABCD, 12, 6, 53⟩, ⟨.DABC, 3, 10, 54⟩, ⟨.CDAB, 10, 15, 55⟩, ⟨.BCDA, 1, 21, 56⟩,
    ⟨.ABCD, 8, 6, 57⟩, ⟨.DABC, 15, 10, 58⟩, ⟨.CDAB, 6, 15, 59⟩, ⟨.BCDA, 13, 21, 60⟩,
    ⟨.ABCD, 4, 6, 61⟩, ⟨.DABC, 11, 10, 62⟩, ⟨.CDAB, 2, 15, 63⟩, ⟨.BCDA, 9, 21, 64⟩]

/-- All operations in order, each with the function of its list. -/
def program : List (Mixing × Operation) :=
  round1.map (.F, ·) ++ round2.map (.G, ·) ++ round3.map (.H, ·) ++ round4.map (.I, ·)

/-! ### Running it -/

abbrev File := Register → UInt32

def rotated (s : Nat) (x : UInt32) : UInt32 := ⟨x.toBitVec.rotateLeft s⟩

/-- The word whose bytes are given, the least significant one first. -/
def lowFirst (bs : Bytes) : UInt32 := UInt32.ofNat (Bytes.value bs.reverse)

def messageWord (block : Block) (k : Nat) : UInt32 := lowFirst ((block.toList.drop (4 * k)).take 4)

/-- `a = b + ((a + F(b,c,d) + X[k] + T[i]) <<< s)`, in place. -/
noncomputable def execute (block : Block) (file : File) (line : Mixing × Operation) : File :=
  let op := line.2
  let a := file op.parts.a
  let b := file op.parts.b
  let mixed := line.1.apply b (file op.parts.c) (file op.parts.d)
  Function.update file op.parts.a
    (b + rotated op.s (a + mixed + messageWord block op.k + Sine.word op.i))

def File.ofChain (chain : Chain 4) : File
  | .A => wordAt chain 0
  | .B => wordAt chain 1
  | .C => wordAt chain 2
  | .D => wordAt chain 3

noncomputable def compress : BlockFunction 4 := fun chain block =>
  let first := File.ofChain chain
  let last := program.foldl (execute block) first
  #v[first .A + last .A, first .B + last .B, first .C + last .C, first .D + last .D]

/-! ### The digest -/

def initial : Chain 4 :=
  #v[lowFirst [0x01, 0x23, 0x45, 0x67], lowFirst [0x89, 0xab, 0xcd, 0xef],
    lowFirst [0xfe, 0xdc, 0xba, 0x98], lowFirst [0x76, 0x54, 0x32, 0x10]]

def pad (message : Bytes) : Bytes :=
  message ++ (0x80 :: List.replicate (Padding.zeroRun message.length) 0 ++
    (Bytes.digits 8 (8 * message.length % 2 ^ 64)).reverse)

noncomputable def digest (message : Bytes) : Bytes :=
  let last := (Block.whole (pad message)).foldl compress initial
  last.toList.flatMap fun w => (Bytes.digits 4 w.toNat).reverse

/-! ### The loop is in step with the program -/

def partsOf (i : Nat) : Parts :=
  match i % 4 with
  | 0 => .ABCD
  | 1 => .DABC
  | 2 => .CDAB
  | _ => .BCDA

def mixingOf (i : Fin 64) : Mixing :=
  match i.val / 16 with
  | 0 => .F
  | 1 => .G
  | 2 => .H
  | _ => .I

/-- What the loop does in step `i`, as an operation. -/
def line (i : Fin 64) : Mixing × Operation :=
  (mixingOf i, ⟨partsOf i, (wordIndex i).val, (distances.get i).toNat, i + 1⟩)

theorem program_eq : program = (List.finRange 64).map line := by decide +kernel

/-- Every register plays the next part in the next operation. -/
theorem partsOf_succ (i : Nat) :
    (partsOf (i + 1)).a = (partsOf i).d ∧ (partsOf (i + 1)).b = (partsOf i).a ∧
      (partsOf (i + 1)).c = (partsOf i).b ∧ (partsOf (i + 1)).d = (partsOf i).c := by
  have hcases : i % 4 = 0 ∨ i % 4 = 1 ∨ i % 4 = 2 ∨ i % 4 = 3 := by omega
  rcases hcases with h | h | h | h
  · simp [partsOf, h, show (i + 1) % 4 = 1 by omega, Parts.a, Parts.b, Parts.c, Parts.d]
  · simp [partsOf, h, show (i + 1) % 4 = 2 by omega, Parts.a, Parts.b, Parts.c, Parts.d]
  · simp [partsOf, h, show (i + 1) % 4 = 3 by omega, Parts.a, Parts.b, Parts.c, Parts.d]
  · simp [partsOf, h, show (i + 1) % 4 = 0 by omega, Parts.a, Parts.b, Parts.c, Parts.d]

/-- Only one register plays `a`. -/
theorem Parts.ne_a (parts : Parts) :
    parts.b ≠ parts.a ∧ parts.c ≠ parts.a ∧ parts.d ≠ parts.a := by
  cases parts <;> decide

theorem mix_eq (r : Registers) (i : Fin 64) : mix r i = (mixingOf i).apply r.b r.c r.d := by
  unfold mix mixingOf
  generalize i.val / 16 = quarter
  match quarter with
  | 0 => rfl
  | 1 => rfl
  | 2 => rfl
  | _ + 3 => rfl

theorem words_get (block : Block) (k : Fin 16) : (block.words .little).get k = messageWord block k := by
  have hget : (block.words .little).get k = (block.words .little)[k.val] := rfl
  rw [hget, Block.words, Vector.getElem_ofFn, ByteOrder.word32_eq, messageWord, lowFirst,
    Block.take_four_drop block k.isLt]
  rfl

theorem distances_between (i : Fin 64) :
    0 < (distances.get i).toNat ∧ (distances.get i).toNat < 32 := by
  revert i
  decide

private theorem add_swap_last (x y z : UInt32) : x + y + z = x + z + y := by
  rw [UInt32.add_assoc, UInt32.add_comm y, ← UInt32.add_assoc]

/-- Before operation `i` the loop's registers are those that the program deals out there. -/
def InStep (i : Nat) (r : Registers) (file : File) : Prop :=
  let parts := partsOf i
  r = ⟨file parts.a, file parts.b, file parts.c, file parts.d⟩

theorem InStep.step {block : Block} {i : Fin 64} {r : Registers} {file : File} (h : InStep i r file) :
    InStep (i + 1) (step (block.words .little) r i) (execute block file (line i)) := by
  obtain ⟨ha, hb, hc, hd⟩ := partsOf_succ i
  obtain ⟨hba, hca, hda⟩ := (partsOf i).ne_a
  obtain ⟨hpos, hlt⟩ := distances_between i
  subst h
  simp only [InStep, execute, line, ha, hb, hc, hd, Function.update_self, Function.update_of_ne hba,
    Function.update_of_ne hca, Function.update_of_ne hda, Md5.step, mix_eq, words_get,
    Sine.sines_eq, rotateLeft_eq _ hpos hlt, rotated, add_swap_last _ (Sine.word _)]

theorem inStep_start (chain : Chain 4) : InStep 0 (.ofChain chain) (.ofChain chain) := by
  have hfirst : Registers.ofChain chain
      = ⟨wordAt chain 0, wordAt chain 1, wordAt chain 2, wordAt chain 3⟩ := by
    rw [wordAt_eq chain (show 0 < 4 by decide), wordAt_eq chain (show 1 < 4 by decide),
      wordAt_eq chain (show 2 < 4 by decide), wordAt_eq chain (show 3 < 4 by decide)]
    rfl
  exact hfirst

/-- The loop and the program end with the same registers. -/
theorem inStep_end (chain : Chain 4) (block : Block) :
    InStep 64 (Fin.foldl 64 (step (block.words .little)) (.ofChain chain))
      (program.foldl (execute block) (.ofChain chain)) := by
  rw [program_eq, List.foldl_map, ← Fin.foldl_eq_finRange_foldl]
  exact foldl_related InStep (inStep_start chain) fun i r file h => h.step

theorem InStep.add_toChain {r : Registers} {file : File} (h : InStep 64 r file) (chain : Chain 4) :
    let first := File.ofChain chain
    chain.add r.toChain
      = #v[first .A + file .A, first .B + file .B, first .C + file .C, first .D + file .D] := by
  have hr : r = ⟨file .A, file .B, file .C, file .D⟩ := h
  subst hr
  apply Vector.ext
  intro i hi
  match i with
  | 0 => exact congrArg (· + file .A) (wordAt_eq chain hi).symm
  | 1 => exact congrArg (· + file .B) (wordAt_eq chain hi).symm
  | 2 => exact congrArg (· + file .C) (wordAt_eq chain hi).symm
  | 3 => exact congrArg (· + file .D) (wordAt_eq chain hi).symm

theorem compress_eq (chain : Chain 4) (block : Block) :
    Md5.compress chain block = compress chain block := by
  rw [Md5.compress, steps, compress]
  exact (inStep_end chain block).add_toChain chain

theorem hash_eq (message : Bytes) : Algorithm.md5.hash message = digest message := by
  have hcompress : Md5.compress = compress := by
    funext chain block
    exact compress_eq chain block
  have hinitial : Md5.initial = initial := by decide
  have hall (chain : Chain 4) : chain.toList.take 4 = chain.toList :=
    List.take_of_length_le (by rw [Vector.length_toList])
  rw [digest, ← hinitial, ← hcompress, ← hall]
  rfl

/-- Each application of the block function and the checksum of each message are those of the standard,
on every host. -/
theorem conforms (host : Host) (message : Bytes) :
    (∀ chain block, Md5.compress chain block = compress chain block) ∧
      (host.checksum .md5 message).1 = digest message := by
  refine ⟨compress_eq, ?_⟩
  rw [Host.checksum_eq (Platform.serves_md5 _ _), hash_eq]

end Checksum.Md5.Standard
