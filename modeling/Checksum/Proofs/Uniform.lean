import Checksum.Hasher
import Checksum.Proofs.Stream

/-!
# One hasher for all algorithms

The three kinds of hashers do the same with different values: the block function, the first chaining
value, the byte order of digest and length, the tag and the sizes. `Hasher.of` builds a hasher from
an algorithm, a backend and a midstate; each operation on such a hasher is the operation on the
midstate (`absorb_of` to `restore_of`), and every hasher is one of these (`exists_of`).

A platform serves an algorithm on a backend if the compression it runs there applies the block
function in order. A sound platform serves all; without the kernel nothing is asked of it.
-/

namespace Checksum

namespace Algorithm

def order : Algorithm → ByteOrder
  | md5 => .little
  | sha224 => .big
  | sha256 => .big

def compress : (a : Algorithm) → BlockFunction a.words
  | md5 => Md5.compress
  | sha224 => Sha256.compress
  | sha256 => Sha256.compress

def initial : (a : Algorithm) → Chain a.words
  | md5 => Md5.initial
  | sha224 => Sha256.Variant.sha224.initial
  | sha256 => Sha256.Variant.sha256.initial

theorem tag_injective {a b : Algorithm} (h : a.tag = b.tag) : a = b := by
  revert h
  cases a <;> cases b <;> decide

end Algorithm

namespace Platform

def run (p : Platform) (b : Backend) : (a : Algorithm) → Compression a.words
  | .md5 => Md5.run
  | .sha224 => p.compression b
  | .sha256 => p.compression b

def Serves (p : Platform) (b : Backend) (a : Algorithm) : Prop := (p.run b a).InOrder a.compress

theorem serves_md5 (p : Platform) (b : Backend) : p.Serves b .md5 :=
  Compression.sequential_inOrder Md5.compress

theorem serves_portable (p : Platform) (a : Algorithm) : p.Serves .portable a := by
  cases a with
  | md5 => exact serves_md5 p .portable
  | sha224 => exact Compression.sequential_inOrder Sha256.compress
  | sha256 => exact Compression.sequential_inOrder Sha256.compress

theorem Sound.serves {p : Platform} (h : p.Sound) (b : Backend) (a : Algorithm) : p.Serves b a := by
  cases b with
  | portable => exact serves_portable p a
  | accelerated =>
      cases a with
      | md5 => exact serves_md5 p .accelerated
      | sha224 => exact h
      | sha256 => exact h

end Platform

namespace Hasher

/-- The hasher with this midstate; MD5 has no use for the backend. -/
def of (b : Backend) : (a : Algorithm) → Midstate a.words → Hasher
  | .md5, m => md5 m
  | .sha224, m => sha2 .sha224 b m
  | .sha256, m => sha2 .sha256 b m

theorem exists_of (h : Hasher) : ∃ b a m, h = of b a m := by
  match h with
  | md5 m => exact ⟨.portable, .md5, m, rfl⟩
  | sha2 .sha224 b m => exact ⟨b, .sha224, m, rfl⟩
  | sha2 .sha256 b m => exact ⟨b, .sha256, m, rfl⟩

variable (p : Platform) (b : Backend) (a : Algorithm)

theorem start_eq_of : start b a = of b a (.start a.initial) := by
  cases a <;> rfl

@[simp] theorem algorithm_of (m : Midstate a.words) : (of b a m).algorithm = a := by
  cases a <;> rfl

/-- If the backends show the same, what is built with them is the same. -/
theorem of_eq_of_backend? {b c : Backend} {l m : Midstate a.words}
    (h : (of b a l).backend? = (of c a m).backend?) : of b a = of c a := by
  cases a with
  | md5 => rfl
  | sha224 => exact congrArg (sha2 .sha224) (Option.some.inj h)
  | sha256 => exact congrArg (sha2 .sha256) (Option.some.inj h)

/-- Only a hasher that uses the kernel needs it to be sound. -/
theorem serves_of {p : Platform} {m : Midstate a.words}
    (h : (of b a m).backend? = some .accelerated → p.Sound) : p.Serves b a := by
  cases b with
  | portable => exact Platform.serves_portable p a
  | accelerated =>
      cases a with
      | md5 => exact Platform.serves_md5 p .accelerated
      | sha224 => exact (h rfl).serves .accelerated .sha224
      | sha256 => exact (h rfl).serves .accelerated .sha256

theorem write_of (m : Midstate a.words) (data : Bytes) :
    (of b a m).write p data = (of b a (m.absorb (p.run b a) data), data.length) := by
  cases a <;> rfl

theorem absorb_of (m : Midstate a.words) (data : Bytes) :
    (of b a m).absorb p data = of b a (m.absorb (p.run b a) data) := by
  rw [absorb, write_of]

/-- Pieces are absorbed one after another, and all of their bytes are counted. -/
theorem writeAll_of (m : Midstate a.words) (pieces : List Bytes) :
    (of b a m).writeAll p pieces
      = (of b a (pieces.foldl (Midstate.absorb (p.run b a)) m), pieces.flatten.length) := by
  have hcounting (count : Nat) :
      pieces.foldl (fun (state : Hasher × Nat) piece =>
        ((state.1.write p piece).1, state.2 + (state.1.write p piece).2)) (of b a m, count)
      = (of b a (pieces.foldl (Midstate.absorb (p.run b a)) m), count + pieces.flatten.length) := by
    induction pieces generalizing m count with
    | nil => rfl
    | cons piece pieces ih =>
        simp only [List.foldl_cons, write_of, List.flatten_cons, List.length_append]
        rw [ih, Nat.add_assoc]
  have hall := hcounting 0
  rw [Nat.zero_add] at hall
  exact hall

theorem writeAll_append (h : Hasher) (one two : List Bytes) :
    h.writeAll p (one ++ two)
      = (((h.writeAll p one).1.writeAll p two).1,
          (h.writeAll p one).2 + ((h.writeAll p one).1.writeAll p two).2) := by
  obtain ⟨b, a, m, rfl⟩ := h.exists_of
  simp only [writeAll_of, List.foldl_append, List.flatten_append, List.length_append]

theorem checksum_of (m : Midstate a.words) :
    (of b a m).checksum p = m.digest a.order (p.run b a) a.digestSize := by
  cases a <;> rfl

theorem reset_of (m : Midstate a.words) : (of b a m).reset = start b a := by
  cases a <;> rfl

theorem save_of (m : Midstate a.words) : (of b a m).save = m.encode a.tag := by
  cases a <;> rfl

theorem restore_of (m : Midstate a.words) (blob : Bytes) :
    (of b a m).restore blob = (Midstate.decode a.tag blob).map (of b a) := by
  cases a <;> rfl

variable {b a}

/-- Restoring is reading, with the backend kept. -/
theorem restore_eq_ok_iff {m : Midstate a.words} {blob : Bytes} {restored : Hasher} :
    (of b a m).restore blob = .ok restored
      ↔ ∃ l, Midstate.decode a.tag blob = .ok l ∧ of b a l = restored := by
  rw [restore_of]
  cases Midstate.decode a.tag blob with
  | error e => simp [Except.map]
  | ok l => simp [Except.map]

theorem restore_eq_error_iff {m : Midstate a.words} {blob : Bytes} {e : StateError} :
    (of b a m).restore blob = .error e ↔ Midstate.decode (n := a.words) a.tag blob = .error e := by
  rw [restore_of]
  cases Midstate.decode (n := a.words) a.tag blob with
  | error e' => simp [Except.map]
  | ok l => simp [Except.map]

end Hasher

end Checksum
