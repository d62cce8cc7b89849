import Mathlib.Data.Bool.AllAny
import Checksum.Proofs.Text.Words
import Checksum.Registry

/-!
# How the name of an algorithm may be spelled

Reading a name is a pipeline: trim, lower, drop the separators, compare. The grammar says the same from
the other end. A name is white space, a spelling, and white space; a spelling is the letters and digits of
the key, one by one, the letters in either case, with hyphens and underscores before, between and behind
them. There is no white space in a spelling and nothing beyond ASCII (`Spelling.visible`), so white space
stands only outside of the outermost separator or letter, and a hyphen beyond inner white space spoils
the name.
-/

namespace Checksum.Algorithm

open Text

/-! ### The grammar -/

/-- The characters of a key in their order, with separators anywhere. -/
inductive Spelling : List Char → List Char → Prop where
  | done : Spelling [] []
  | separator {c : Char} {key cs : List Char} (hc : c = '-' ∨ c = '_') (hrest : Spelling key cs) :
      Spelling key (c :: cs)
  | letter {k c : Char} {key cs : List Char} (hc : Written k c) (hrest : Spelling key cs) :
      Spelling (k :: key) (c :: cs)

/-- The names of an algorithm. -/
def Names (a : Algorithm) (cs : List Char) : Prop :=
  ∃ spelling, Spelling a.key.toList spelling ∧ Surrounds cs spelling

/-! ### Keys -/

/-- Keys consist of lower-case letters and digits. -/
def Keyed (key : List Char) : Prop := ∀ k ∈ key, k.isLower ∨ k.isDigit

theorem keyed (a : Algorithm) : Keyed a.key.toList := by
  rw [Keyed, ← List.all_iff_forall_prop]
  cases a <;> decide

theorem isSeparator_iff {c : Char} : isSeparator c ↔ c = '-' ∨ c = '_' := by
  rw [isSeparator, Bool.or_eq_true, beq_iff_eq, beq_iff_eq]

/-- Lowering makes no separators and takes none away. -/
theorem isSeparator_toLower (c : Char) : isSeparator c.toLower ↔ c = '-' ∨ c = '_' := by
  have hhyphen : '-'.toNat = 45 := rfl
  have hunderscore : '_'.toNat = 95 := rfl
  rw [isSeparator_iff]
  simp only [← Char.toNat_inj, toNat_toLower]
  split <;> omega

theorem not_isSeparator {k : Char} (hk : k.isLower ∨ k.isDigit) : ¬isSeparator k := by
  rw [isSeparator_iff]
  rintro (rfl | rfl)
  · exact absurd hk (by decide)
  · exact absurd hk (by decide)

/-! ### Spellings -/

theorem Spelling.visible {key cs : List Char} (hkey : Keyed key) (h : Spelling key cs) :
    ∀ c ∈ cs, 0x20 < c.toNat ∧ c.toNat < 0x80 := by
  induction h with
  | done => simp
  | separator hc hrest ih =>
      refine List.forall_mem_cons.mpr ⟨?_, ih hkey⟩
      rcases hc with rfl | rfl <;> decide
  | letter hc hrest ih =>
      obtain ⟨hk, hkey⟩ := List.forall_mem_cons.mp hkey
      exact List.forall_mem_cons.mpr ⟨hc.visible hk, ih hkey⟩

/-- Lowering a spelling and dropping its separators gives the key, and nothing else gives it. -/
theorem spelling_iff {key cs : List Char} (hkey : Keyed key) :
    Spelling key cs ↔ (cs.map Char.toLower).filter (!isSeparator ·) = key := by
  constructor
  · intro h
    induction h with
    | done => rfl
    | @separator c key cs hc hrest ih =>
        have hdropped := (isSeparator_toLower c).mpr hc
        rw [List.map_cons, List.filter_cons_of_neg (by simpa using hdropped), ih hkey]
    | @letter k c key cs hc hrest ih =>
        obtain ⟨hk, hkey⟩ := List.forall_mem_cons.mp hkey
        have hkept := not_isSeparator hk
        rw [List.map_cons, (toLower_eq_iff hk).mpr hc, List.filter_cons_of_pos (by simpa using hkept),
          ih hkey]
  · intro h
    induction cs generalizing key with
    | nil =>
        subst h
        exact .done
    | cons c cs ih =>
        rw [List.map_cons] at h
        by_cases hc : isSeparator c.toLower
        · rw [List.filter_cons_of_neg (by simpa using hc)] at h
          exact .separator ((isSeparator_toLower c).mp hc) (ih hkey h)
        · rw [List.filter_cons_of_pos (by simpa using hc)] at h
          subst h
          obtain ⟨hk, hkey⟩ := List.forall_mem_cons.mp hkey
          exact .letter ((toLower_eq_iff hk).mp rfl) (ih hkey rfl)

theorem Spelling.not_white {key cs : List Char} (hkey : Keyed key) (h : Spelling key cs) :
    ∀ c ∈ cs, ¬White c := by
  intro c hc
  obtain ⟨hlow, hhigh⟩ := h.visible hkey c hc
  exact Text.not_white hlow hhigh

/-! ### Names -/

/-- The pipeline ends with the key for the names of the grammar. -/
theorem normalForm_eq_iff (a : Algorithm) (name : String) :
    normalForm name = a.key.toList ↔ a.Names name.toList := by
  rw [normalForm, ← spelling_iff (keyed a)]
  constructor
  · intro hspelling
    exact ⟨_, hspelling, surrounds_trim name.toList⟩
  · rintro ⟨spelling, hspelling, hsurrounds⟩
    rwa [trim_of_surrounds (hspelling.not_white (keyed a)) hsurrounds]

theorem ofName?_eq_some_iff (a : Algorithm) (name : String) :
    ofName? name = some a ↔ a.Names name.toList := by
  rw [← normalForm_eq_iff, ofName?]
  constructor
  · intro h
    have hkey := List.find?_some h
    exact (beq_iff_eq.mp hkey).symm
  · intro h
    rw [h]
    cases a <;> decide

theorem ofName?_eq_none_iff (name : String) : ofName? name = none ↔ ∀ a : Algorithm, ¬a.Names name.toList := by
  simp only [← ofName?_eq_some_iff]
  exact Option.eq_none_iff_forall_ne_some

end Checksum.Algorithm
