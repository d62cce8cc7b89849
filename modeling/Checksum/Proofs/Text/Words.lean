import Mathlib.Data.List.DropRight
import Checksum.Text.Blank

/-!
# Words between white space, in either case

A text is its trimmed form with white space before and behind it (`surrounds_trim`). If there is no white
space in the form itself, it is the trimmed form of all the texts that stand so around it, and of no
others (`trim_of_surrounds`). `White` lists the characters with the property White_Space one by one.

Lowering reaches ASCII only, so what it makes of a character is a lower-case letter or a digit just for
that character itself and, if it is a letter, for the capital that stands 32 places before it
(`toLower_eq_iff`). No letter beyond ASCII becomes one of these.
-/

namespace Checksum.Text

/-- The characters with the Unicode property White_Space. -/
def White (c : Char) : Prop :=
  c.toNat ∈ [0x9, 0xa, 0xb, 0xc, 0xd, 0x20, 0x85, 0xa0, 0x1680, 0x2000, 0x2001, 0x2002, 0x2003, 0x2004,
    0x2005, 0x2006, 0x2007, 0x2008, 0x2009, 0x200a, 0x2028, 0x2029, 0x202f, 0x205f, 0x3000]

instance (c : Char) : Decidable (White c) := inferInstanceAs (Decidable (_ ∈ _))

theorem isBlank_iff {c : Char} : isBlank c = true ↔ White c := by
  simp only [isBlank, Ranges.has, whiteSpace, White, List.any_cons, List.any_nil, Bool.or_false,
    Bool.or_eq_true, Bool.and_eq_true, decide_eq_true_eq, List.mem_cons, List.not_mem_nil, or_false]
  omega

theorem not_white {c : Char} (hlow : 0x20 < c.toNat) (hhigh : c.toNat < 0x80) : ¬White c := by
  simp only [White, List.mem_cons, List.not_mem_nil, or_false]
  omega

/-- The text has white space before and behind `body`, or none. -/
def Surrounds (cs body : List Char) : Prop :=
  ∃ front back, (∀ c ∈ front, White c) ∧ (∀ c ∈ back, White c) ∧ cs = front ++ body ++ back

theorem surrounds_trim (cs : List Char) : Surrounds cs (trim cs) := by
  refine ⟨cs.takeWhile isBlank, (cs.dropWhile isBlank).rtakeWhile isBlank, ?_, ?_, ?_⟩
  · intro c hc
    exact isBlank_iff.mp (List.mem_takeWhile_imp hc)
  · intro c hc
    exact isBlank_iff.mp (List.mem_rtakeWhile_imp hc)
  · have hback : trim cs ++ (cs.dropWhile isBlank).rtakeWhile isBlank = cs.dropWhile isBlank :=
      List.rdropWhile_append_rtakeWhile
    rw [List.append_assoc, hback, List.takeWhile_append_dropWhile]

theorem dropWhile_white_append {blanks : List Char} (hblanks : ∀ c ∈ blanks, White c)
    (rest : List Char) : (blanks ++ rest).dropWhile isBlank = rest.dropWhile isBlank :=
  List.dropWhile_append_of_pos fun c hc => isBlank_iff.mpr (hblanks c hc)

theorem dropWhile_of_not_white {cs : List Char} (h : ∀ c ∈ cs, ¬White c) : cs.dropWhile isBlank = cs := by
  cases cs with
  | nil => rfl
  | cons c cs =>
      apply List.dropWhile_cons_of_neg
      rw [isBlank_iff]
      exact h c List.mem_cons_self

/-- White space around a text is trimmed away with that of its own. -/
theorem trim_eq_of_surrounds {cs body : List Char} (h : Surrounds cs body) : trim cs = trim body := by
  obtain ⟨front, back, hfront, hback, rfl⟩ := h
  rw [trim, trim, List.append_assoc, dropWhile_white_append hfront, List.dropWhile_append]
  split
  · rename_i hnone
    have hback' := dropWhile_white_append hback []
    rw [List.append_nil] at hback'
    rw [hback', List.isEmpty_iff.mp hnone]
    rfl
  · have hback' : ∀ d ∈ back.reverse, White d := by
      intro d hd
      exact hback d (List.mem_reverse.mp hd)
    rw [List.reverse_append, dropWhile_white_append hback']

theorem trim_of_surrounds {cs body : List Char} (hbody : ∀ c ∈ body, ¬White c)
    (h : Surrounds cs body) : trim cs = body := by
  have hreverse : ∀ c ∈ body.reverse, ¬White c := by
    intro c hc
    exact hbody c (List.mem_reverse.mp hc)
  rw [trim_eq_of_surrounds h, trim, dropWhile_of_not_white hbody, dropWhile_of_not_white hreverse,
    List.reverse_reverse]

/-! ### Either case -/

/-- The character of a word as it may be written: itself, or the capital of a lower-case letter. -/
def Written (k c : Char) : Prop := c = k ∨ (k.isLower ∧ c.toNat + 32 = k.toNat)

theorem isLower_iff_toNat {c : Char} : c.isLower ↔ 97 ≤ c.toNat ∧ c.toNat ≤ 122 := by
  unfold Char.isLower
  simp only [ge_iff_le, UInt32.le_iff_toNat_le, Bool.and_eq_true, decide_eq_true_eq]
  rfl

theorem toNat_toLower (c : Char) :
    c.toLower.toNat = if 65 ≤ c.toNat ∧ c.toNat ≤ 90 then c.toNat + 32 else c.toNat := by
  have hcapital : (c.val ≥ 'A'.val ∧ c.val ≤ 'Z'.val) ↔ 65 ≤ c.toNat ∧ c.toNat ≤ 90 := by
    simp only [ge_iff_le, UInt32.le_iff_toNat_le]
    rfl
  by_cases h : 65 ≤ c.toNat ∧ c.toNat ≤ 90
  · have hval : c.toLower.val = c.val + 32 := by
      unfold Char.toLower
      rw [dif_pos (hcapital.mpr h)]
      rfl
    have hlt : c.toNat + 32 < 2 ^ 32 := by omega
    rw [if_pos h, ← Char.toNat_val, hval, UInt32.toNat_add, Char.toNat_val]
    exact Nat.mod_eq_of_lt hlt
  · unfold Char.toLower
    rw [if_neg h, dif_neg (mt hcapital.mp h)]

theorem Written.visible {k c : Char} (hk : k.isLower ∨ k.isDigit) (h : Written k c) :
    0x20 < c.toNat ∧ c.toNat < 0x80 := by
  rw [isLower_iff_toNat, Char.isDigit_iff_toNat] at hk
  rw [Written, isLower_iff_toNat, ← Char.toNat_inj] at h
  have h0 : '0'.toNat = 48 := rfl
  have h9 : '9'.toNat = 57 := rfl
  omega

/-- What may be lowered to a lower-case letter or a digit. -/
theorem toLower_eq_iff {k c : Char} (hk : k.isLower ∨ k.isDigit) : c.toLower = k ↔ Written k c := by
  rw [isLower_iff_toNat, Char.isDigit_iff_toNat] at hk
  rw [Written, isLower_iff_toNat, ← Char.toNat_inj, ← Char.toNat_inj, toNat_toLower]
  have h0 : '0'.toNat = 48 := rfl
  have h9 : '9'.toNat = 57 := rfl
  split <;> omega

end Checksum.Text
