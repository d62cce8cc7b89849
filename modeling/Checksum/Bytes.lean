/-!
# Byte strings

Messages, digests and saved hashes are lists of bytes. A byte string is shown as two lower-case
hexadecimal digits per byte, the high half first.
-/

namespace Checksum

abbrev Bytes := List UInt8

namespace Bytes

def hexDigits (b : UInt8) : List Char := [Nat.digitChar (b.toNat / 16), Nat.digitChar (b.toNat % 16)]

def toHex (bs : Bytes) : String := String.ofList (bs.flatMap hexDigits)

/-- The bytes of a text in UTF-8. -/
def ofText (s : String) : Bytes := s.toUTF8.data.toList

/-- The text that a byte string spells in UTF-8, if it is well formed. -/
def toText? (bs : Bytes) : Option String := String.fromUTF8? ⟨bs.toArray⟩

/-- Cuts pieces of the given sizes from the front while bytes are left, the last one shorter if need be. -/
def cutOnce : List Nat → Bytes → List Bytes × Bytes
  | [], bs => ([], bs)
  | size :: sizes, bs =>
      if bs.isEmpty then ([], [])
      else
        let behind := cutOnce sizes (bs.drop size)
        (bs.take size :: behind.1, behind.2)

theorem length_cutOnce_le (sizes : List Nat) (bs : Bytes) :
    (cutOnce sizes bs).2.length ≤ bs.length := by
  induction sizes generalizing bs with
  | nil => exact Nat.le_refl _
  | cons size sizes ih =>
      simp only [cutOnce]
      split
      · exact Nat.zero_le _
      · have := ih (bs.drop size)
        simp only [List.length_drop] at this ⊢
        omega

theorem length_cutOnce_lt {sizes : List Nat} {bs : Bytes} (hsizes : ∃ size ∈ sizes, 0 < size)
    (hbs : bs ≠ []) : (cutOnce sizes bs).2.length < bs.length := by
  induction sizes generalizing bs with
  | nil => simp at hsizes
  | cons size sizes ih =>
      have hpos := List.length_pos_iff.mpr hbs
      simp only [cutOnce, List.isEmpty_iff, if_neg hbs]
      by_cases hsize : 0 < size
      · have := length_cutOnce_le sizes (bs.drop size)
        simp only [List.length_drop] at this
        omega
      · obtain rfl : size = 0 := by omega
        exact ih (by simpa using hsizes) (by simpa using hbs)

/-- Cuts a byte string into pieces whose sizes cycle through a list; the empty one has no pieces. A
size may be zero; if all of them are, nothing gets cut and the whole is one piece. -/
def cut (sizes : List Nat) (bs : Bytes) : List Bytes :=
  if h : ∃ size ∈ sizes, 0 < size then go h [] bs
  else if bs.isEmpty then [] else [bs]
where
  go (h : ∃ size ∈ sizes, 0 < size) (done : List Bytes) (bs : Bytes) : List Bytes :=
    if bs = [] then done.reverse
    else
      let pass := cutOnce sizes bs
      go h (pass.1.reverse ++ done) pass.2
  termination_by bs.length
  decreasing_by exact length_cutOnce_lt h ‹_›

end Bytes

end Checksum
