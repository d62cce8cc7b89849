import Mathlib.Data.List.Forall2
import Checksum.Proofs.OneShot
import Checksum.Proofs.Sha256.Rolling

/-!
# The SHA-2 digests as the standard writes them

A second way to SHA-224 and SHA-256, which takes nothing from the first but the types of blocks and
chaining values. The constants are not listed but computed: bits behind the point of the square and
cube roots of the first primes, which `EndsRoot` says without a computation. Words are numbers in base
256, rotations are those of bit vectors, the eight working variables are a vector, and the schedule is a
window of sixteen words that moves on by one in each round. The message is padded at once, and one round
is made for each constant.

The block functions are equal for every chaining value and every block (`compress_eq`), by way of
the moving window, and with them the digests of every message (`hash_eq`).
-/

namespace Checksum.Sha256.Standard

/-! ### Constants -/

/-- The integer part of the `k`-th root of `n`, if that is less than `2 ^ bits`, one bit at a time. -/
def floorRoot (k n : Nat) : (bits : Nat) → Nat
  | 0 => 0
  | bits + 1 =>
      let r := 2 * floorRoot k (n / 2 ^ k) bits
      if (r + 1) ^ k ≤ n then r + 1 else r

/-- The 32 bits that end `bits` bits behind the point of the `k`-th root of `p`, a root less than 8. -/
def rootWord (k bits p : Nat) : UInt32 :=
  UInt32.ofNat (floorRoot k (p * 2 ^ (k * bits)) (bits + 3))

def primes : List Nat :=
  [2, 3, 5, 7, 11, 13, 17, 19, 23, 29, 31, 37, 41, 43, 47, 53,
    59, 61, 67, 71, 73, 79, 83, 89, 97, 101, 103, 107, 109, 113, 127, 131,
    137, 139, 149, 151, 157, 163, 167, 173, 179, 181, 191, 193, 197, 199, 211, 223,
    227, 229, 233, 239, 241, 251, 257, 263, 269, 271, 277, 281, 283, 293, 307, 311]

/-- The first 32 bits behind the point of the cube roots of the first 64 primes. -/
def constants : List UInt32 := primes.map (rootWord 3 32)

/-- For SHA-256 the first 32 bits behind the point of the square roots of the first eight primes, for
SHA-224 the second 32 bits of those of the next eight. -/
def initial (v : Variant) : Chain 8 :=
  Vector.ofFn fun i =>
    match v with
    | .sha224 => rootWord 2 64 (primes.getD (8 + i) 0)
    | .sha256 => rootWord 2 32 (primes.getD i 0)

/-- Bit by bit, the root is the greatest number whose power is not too great. -/
theorem floorRoot_spec {k : Nat} (hk : 0 < k) (bits n : Nat) (hn : n < 2 ^ (k * bits)) :
    floorRoot k n bits ^ k ≤ n ∧ n < (floorRoot k n bits + 1) ^ k := by
  induction bits generalizing n with
  | zero =>
      obtain rfl : n = 0 := by simpa using hn
      simp [floorRoot, Nat.zero_pow hk]
  | succ bits ih =>
      have hpow : 0 < 2 ^ k := Nat.two_pow_pos k
      have hquotient : n / 2 ^ k < 2 ^ (k * bits) := by
        rw [Nat.div_lt_iff_lt_mul hpow, ← Nat.pow_add]
        rwa [Nat.mul_succ] at hn
      obtain ⟨hle, hlt⟩ := ih (n / 2 ^ k) hquotient
      have hlow : (2 * floorRoot k (n / 2 ^ k) bits) ^ k ≤ n := by
        rw [Nat.mul_pow]
        exact (Nat.mul_le_mul_left _ hle).trans (Nat.mul_div_le n (2 ^ k))
      have hhigh : n < (2 * floorRoot k (n / 2 ^ k) bits + 1 + 1) ^ k := by
        have hdouble : 2 * floorRoot k (n / 2 ^ k) bits + 1 + 1
            = 2 * (floorRoot k (n / 2 ^ k) bits + 1) := by omega
        rw [hdouble, Nat.mul_pow]
        exact (Nat.lt_mul_div_succ n hpow).trans_le (Nat.mul_le_mul_left _ hlt)
      simp only [floorRoot]
      split
      · rename_i hfits
        exact ⟨hfits, hhigh⟩
      · rename_i hover
        exact ⟨hlow, Nat.lt_of_not_le hover⟩

/-- The word holds the last 32 of the bits of the `k`-th root of `p` that stand before or up to `bits`
places behind the point. -/
def EndsRoot (k bits p : Nat) (w : UInt32) : Prop :=
  ∃ root, w = UInt32.ofNat root ∧ root ^ k ≤ p * 2 ^ (k * bits) ∧ p * 2 ^ (k * bits) < (root + 1) ^ k

theorem rootWord_spec {k p : Nat} (hk : 0 < k) (hp : p < 2 ^ (3 * k)) (bits : Nat) :
    EndsRoot k bits p (rootWord k bits p) := by
  have hlt : p * 2 ^ (k * bits) < 2 ^ (k * (bits + 3)) := by
    rw [Nat.mul_add, Nat.pow_add, Nat.mul_comm (2 ^ (k * bits)), Nat.mul_comm k 3]
    exact Nat.mul_lt_mul_of_pos_right hp (Nat.two_pow_pos _)
  exact ⟨_, rfl, floorRoot_spec hk (bits + 3) _ hlt⟩

theorem constants_eq : Sha256.constants.toList = constants := by decide +kernel

theorem initial_eq (v : Variant) : v.initial = initial v := by
  cases v <;> decide +kernel

/-- The primes whose square roots a variant starts from. -/
def initialPrimes : Variant → List Nat
  | .sha224 => (primes.drop 8).take 8
  | .sha256 => primes.take 8

/-- Where the words that a variant starts from end behind the point. -/
def initialBits : Variant → Nat
  | .sha224 => 64
  | .sha256 => 32

theorem constants_spec : List.Forall₂ (EndsRoot 3 32) primes Sha256.constants.toList := by
  have hsmall : ∀ p ∈ primes, p < 2 ^ (3 * 3) := by decide
  rw [constants_eq, constants, List.forall₂_map_right_iff, List.forall₂_same]
  intro p hp
  exact rootWord_spec (by decide) (hsmall p hp) 32

theorem initial_spec (v : Variant) :
    List.Forall₂ (EndsRoot 2 (initialBits v)) (initialPrimes v) v.initial.toList := by
  have hsmall : ∀ p ∈ initialPrimes v, p < 2 ^ (3 * 2) := by cases v <;> decide
  have hwords : v.initial.toList = (initialPrimes v).map (rootWord 2 (initialBits v)) := by
    cases v <;> decide +kernel
  rw [hwords, List.forall₂_map_right_iff, List.forall₂_same]
  intro p hp
  exact rootWord_spec (by decide) (hsmall p hp) (initialBits v)

/-! ### The block function -/

def rotated (k : Nat) (x : UInt32) : UInt32 := ⟨x.toBitVec.rotateRight k⟩

def shifted (k : Nat) (x : UInt32) : UInt32 := ⟨x.toBitVec >>> k⟩

def sum0 (x : UInt32) : UInt32 := rotated 2 x ^^^ rotated 13 x ^^^ rotated 22 x

def sum1 (x : UInt32) : UInt32 := rotated 6 x ^^^ rotated 11 x ^^^ rotated 25 x

def sigma0 (x : UInt32) : UInt32 := rotated 7 x ^^^ rotated 18 x ^^^ shifted 3 x

def sigma1 (x : UInt32) : UInt32 := rotated 17 x ^^^ rotated 19 x ^^^ shifted 10 x

/-- Bit by bit, `y` where `x` is set and `z` elsewhere. -/
def ch (x y z : UInt32) : UInt32 := (x &&& y) ||| (~~~x &&& z)

def maj (x y z : UInt32) : UInt32 := (x &&& y) ||| (x &&& z) ||| (y &&& z)

/-- Word `t` of a block, its bytes a number in base 256. -/
def messageWord (block : Block) (t : Nat) : UInt32 :=
  UInt32.ofNat (Bytes.value ((block.toList.drop (4 * t)).take 4))

/-- The eight working variables, and the schedule from the round's own word on. -/
structure State where
  working : Vector UInt32 8
  window : Vector UInt32 16

def round (s : State) (constant : UInt32) : State :=
  let v := wordAt s.working
  let w := wordAt s.window
  let t1 := v 7 + sum1 (v 4) + ch (v 4) (v 5) (v 6) + constant + w 0
  let t2 := sum0 (v 0) + maj (v 0) (v 1) (v 2)
  { working := #v[t1 + t2, v 0, v 1, v 2, v 3 + t1, v 4, v 5, v 6]
    window := s.window.tail.push (sigma1 (w 14) + w 9 + sigma0 (w 1) + w 0) }

def compress : BlockFunction 8 := fun chain block =>
  let last := constants.foldl round ⟨chain, Vector.ofFn fun t => messageWord block t⟩
  Vector.ofFn fun i => chain[i] + last.working[i]

/-! ### The digest -/

def pad (message : Bytes) : Bytes :=
  message ++ (0x80 :: List.replicate (Padding.zeroRun message.length) 0 ++
    Bytes.digits 8 (8 * message.length % 2 ^ 64))

/-- How many of the eight words are the digest. -/
def outputWords : Variant → Nat
  | .sha224 => 7
  | .sha256 => 8

def digest (v : Variant) (message : Bytes) : Bytes :=
  let last := (Block.whole (pad message)).foldl compress (initial v)
  (last.toList.take (outputWords v)).flatMap fun w => Bytes.digits 4 w.toNat

/-! ### Each part is the one of the library -/

theorem rotateRight_eq_rotated {k : Nat} (hpos : 0 < k) (h : k < 32) (x : UInt32) :
    rotateRight x (UInt32.ofNat k) = rotated k x := by
  have hk : (UInt32.ofNat k).toNat = k := by
    rw [UInt32.toNat_ofNat']
    omega
  rw [rotateRight_eq x (by rwa [hk]) (by rwa [hk]), hk, rotated]

theorem bigSigma0_eq (x : UInt32) : bigSigma0 x = sum0 x := by
  rw [sum0, ← rotateRight_eq_rotated (by decide) (by decide),
    ← rotateRight_eq_rotated (by decide) (by decide), ← rotateRight_eq_rotated (by decide) (by decide)]
  rfl

theorem bigSigma1_eq (x : UInt32) : bigSigma1 x = sum1 x := by
  rw [sum1, ← rotateRight_eq_rotated (by decide) (by decide),
    ← rotateRight_eq_rotated (by decide) (by decide), ← rotateRight_eq_rotated (by decide) (by decide)]
  rfl

theorem smallSigma0_eq (x : UInt32) : smallSigma0 x = sigma0 x := by
  rw [sigma0, ← rotateRight_eq_rotated (by decide) (by decide),
    ← rotateRight_eq_rotated (by decide) (by decide)]
  rfl

theorem smallSigma1_eq (x : UInt32) : smallSigma1 x = sigma1 x := by
  rw [sigma1, ← rotateRight_eq_rotated (by decide) (by decide),
    ← rotateRight_eq_rotated (by decide) (by decide)]
  rfl

theorem words_eq (block : Block) : block.words .big = Vector.ofFn fun t => messageWord block t := by
  apply Vector.ext
  intro t ht
  rw [Block.words, Vector.getElem_ofFn, Vector.getElem_ofFn, ByteOrder.word32_eq, messageWord,
    Block.take_four_drop block ht]
  rfl

/-- The working variables and the window of the moving-window form. -/
def State.of (s : Window.State) : State := ⟨s.registers.toChain, s.window⟩

theorem shift_eq (w : Vector UInt32 16) (last : UInt32) : Window.shift w last = w.tail.push last := by
  apply Vector.ext
  intro i hi
  rw [Window.shift, Vector.getElem_ofFn, Vector.getElem_push]
  by_cases h : i + 1 < 16
  · rw [dif_pos h, dif_pos (by omega)]
    simp only [Vector.tail_eq_cast_extract, Vector.getElem_cast, Vector.getElem_extract,
      Nat.add_comm 1 i]
  · rw [dif_neg h, dif_neg (by omega)]

theorem round_of (s : Window.State) (constant : UInt32) :
    round (.of s) constant = .of (Window.round s constant) := by
  have hhead : s.window[0] = wordAt s.window 0 := (wordAt_eq s.window (by decide)).symm
  simp only [round, State.of, Window.round, hhead, nextWord_eq, shift_eq, bigSigma0_eq, bigSigma1_eq,
    smallSigma0_eq, smallSigma1_eq]
  rfl

theorem compress_eq (chain : Chain 8) (block : Block) :
    Sha256.compress chain block = compress chain block := by
  have hstart : (⟨chain, block.words .big⟩ : State) = .of ⟨.ofChain chain, block.words .big⟩ := by
    rw [State.of, toChain_ofChain]
  rw [compress_eq_window, Window.compress, compress, ← words_eq, hstart,
    List.foldl_hom State.of round_of, ← constants_eq, foldl_get]
  rfl

theorem hash_eq (v : Variant) (message : Bytes) :
    (Algorithm.ofVariant v).hash message = digest v message := by
  have hcompress : Sha256.compress = compress := by
    funext chain block
    exact compress_eq chain block
  rw [digest, ← initial_eq, ← hcompress]
  cases v <;> rfl

/-- On a host whose hashers are portable, each application of the block function and the checksum of
each message are those of the standard, and the constants end the roots that the standard takes. -/
theorem portable_conforms {host : Host} (h : host.defaultBackend.1 = .portable) (v : Variant)
    (message : Bytes) :
    (∀ chain block, Sha256.compress chain block = compress chain block) ∧
      (host.checksum (.ofVariant v) message).1 = digest v message ∧
      List.Forall₂ (EndsRoot 3 32) primes Sha256.constants.toList ∧
      List.Forall₂ (EndsRoot 2 (initialBits v)) (initialPrimes v) v.initial.toList := by
  refine ⟨compress_eq, ?_, constants_spec, initial_spec v⟩
  have hbackend : (host.backendFor (.ofVariant v)).1 = .portable := by
    cases v <;> exact h
  have hserves : host.platform.Serves (host.backendFor (.ofVariant v)).1 (.ofVariant v) := by
    rw [hbackend]
    exact Platform.serves_portable _ _
  rw [Host.checksum_eq hserves, hash_eq]

/-- The digest of the three letters that the standard takes for its own example. -/
theorem generic_conforms_abc :
    (Host.start .generic none).defaultBackend.1 = .portable ∧
      digest .sha256 (Bytes.ofText "abc") = [0xba, 0x78, 0x16, 0xbf, 0x8f, 0x01, 0xcf, 0xea,
        0x41, 0x41, 0x40, 0xde, 0x5d, 0xae, 0x22, 0x23, 0xb0, 0x03, 0x61, 0xa3, 0x96, 0x17, 0x7a, 0x9c,
        0xb4, 0x10, 0xff, 0x61, 0xf2, 0x00, 0x15, 0xad] := by
  have hportable : (Host.start .generic none).defaultBackend.1 = .portable := by decide
  refine ⟨hportable, ?_⟩
  rw [← (portable_conforms hportable .sha256 (Bytes.ofText "abc")).2.1]
  decide +kernel

end Checksum.Sha256.Standard
