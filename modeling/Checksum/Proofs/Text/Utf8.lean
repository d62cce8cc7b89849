import Mathlib.Data.List.DropRight
import Checksum.Bytes

/-!
# Texts in bytes

The syntax of UTF-8, read from the bytes. A code point is spelled by one byte, or by a leading byte that says
how many tail bytes follow it, each with six more bits. A spelling that could be shorter is none, nor are those
of the surrogates and of what is beyond the last code point; these are excluded by the second byte. A byte
string spells a text if it is made of the spellings of its characters, and it is read as the text that it
spells, if there is one (`toText?_eq_some_iff`).

No spelling is the beginning or the end of another (`Sequence.append_inj_left`, `Sequence.append_inj_right`).
So a text in front of a byte string or behind it can be told apart from it, even if that is not well formed
(`spells_between_iff`).
-/

namespace Checksum.Text

/-- A byte behind the leading one. -/
def Tail (b : UInt8) : Prop := 0x80 ≤ b.toNat ∧ b.toNat ≤ 0xbf

instance (b : UInt8) : Decidable (Tail b) := inferInstanceAs (Decidable (_ ∧ _))

/-- The bytes of one code point. -/
inductive Sequence : Bytes → Nat → Prop where
  | one {a : UInt8} {n : Nat} (ha : a.toNat ≤ 0x7f) (hn : n = a.toNat) : Sequence [a] n
  | two {a b : UInt8} {n : Nat} (ha : 0xc2 ≤ a.toNat ∧ a.toNat ≤ 0xdf) (hb : Tail b)
      (hn : n = (a.toNat - 0xc0) * 0x40 + (b.toNat - 0x80)) : Sequence [a, b] n
  | three {a b c : UInt8} {n : Nat} (ha : 0xe0 ≤ a.toNat ∧ a.toNat ≤ 0xef) (hb : Tail b) (hc : Tail c)
      (hshortest : a.toNat = 0xe0 → 0xa0 ≤ b.toNat) (hsurrogate : a.toNat = 0xed → b.toNat ≤ 0x9f)
      (hn : n = (a.toNat - 0xe0) * 0x1000 + (b.toNat - 0x80) * 0x40 + (c.toNat - 0x80)) :
      Sequence [a, b, c] n
  | four {a b c d : UInt8} {n : Nat} (ha : 0xf0 ≤ a.toNat ∧ a.toNat ≤ 0xf4) (hb : Tail b) (hc : Tail c)
      (hd : Tail d) (hshortest : a.toNat = 0xf0 → 0x90 ≤ b.toNat) (hlast : a.toNat = 0xf4 → b.toNat ≤ 0x8f)
      (hn : n = (a.toNat - 0xf0) * 0x40000 + (b.toNat - 0x80) * 0x1000 + (c.toNat - 0x80) * 0x40
        + (d.toNat - 0x80)) :
      Sequence [a, b, c, d] n

/-- The bytes of a text. -/
inductive Spells : Bytes → List Char → Prop where
  | nil : Spells [] []
  | cons {front rest : Bytes} {c : Char} {cs : List Char} (hfront : Sequence front c.toNat)
      (hrest : Spells rest cs) : Spells (front ++ rest) (c :: cs)

/-! ### Reading -/

theorem sequence_utf8EncodeChar (c : Char) : Sequence (String.utf8EncodeChar c) c.toNat := by
  have hvalid : c.toNat < 0xd800 ∨ 0xdfff < c.toNat ∧ c.toNat < 0x110000 := c.valid
  have hval : c.val.toNat = c.toNat := rfl
  unfold String.utf8EncodeChar
  simp only [hval]
  generalize c.toNat = n at hvalid
  split
  · apply Sequence.one <;> simp only [UInt8.toNat_ofNat'] <;> omega
  · split
    · apply Sequence.two <;> simp only [Tail, UInt8.toNat_ofNat'] <;> omega
    · split
      · apply Sequence.three <;> simp only [Tail, UInt8.toNat_ofNat'] <;> omega
      · apply Sequence.four <;> simp only [Tail, UInt8.toNat_ofNat'] <;> omega

/-- A code point is spelled in one way. -/
theorem Sequence.eq_utf8EncodeChar {bs : Bytes} {c : Char} (h : Sequence bs c.toNat) :
    bs = String.utf8EncodeChar c := by
  have hval : c.val.toNat = c.toNat := rfl
  unfold String.utf8EncodeChar
  simp only [hval]
  generalize c.toNat = n at h
  cases h with
  | one ha hn => rw [if_pos (by omega), hn, UInt8.ofNat_toNat]
  | two ha hb hn =>
      rw [Tail] at hb
      rw [if_neg (by omega), if_pos (by omega)]
      simp only [List.cons.injEq, ← UInt8.toNat_inj, UInt8.toNat_ofNat', and_true]
      omega
  | three ha hb hc hshortest hsurrogate hn =>
      rw [Tail] at hb hc
      rw [if_neg (by omega), if_neg (by omega), if_pos (by omega)]
      simp only [List.cons.injEq, ← UInt8.toNat_inj, UInt8.toNat_ofNat', and_true]
      omega
  | four ha hb hc hd hshortest hlast hn =>
      rw [Tail] at hb hc hd
      rw [if_neg (by omega), if_neg (by omega), if_neg (by omega)]
      simp only [List.cons.injEq, ← UInt8.toNat_inj, UInt8.toNat_ofNat', and_true]
      omega

theorem spells_iff {bs : Bytes} {cs : List Char} : Spells bs cs ↔ bs = cs.flatMap String.utf8EncodeChar := by
  constructor
  · intro h
    induction h with
    | nil => rfl
    | cons hfront hrest ih => rw [List.flatMap_cons, hfront.eq_utf8EncodeChar, ih]
  · rintro rfl
    induction cs with
    | nil => exact .nil
    | cons c cs ih => exact .cons (sequence_utf8EncodeChar c) ih

/-- What is read is what is spelled, and only that is read. -/
theorem toText?_eq_some_iff {bs : Bytes} {text : String} :
    Bytes.toText? bs = some text ↔ Spells bs text.toList := by
  have hbytes : text.toByteArray = ⟨bs.toArray⟩ ↔ Spells bs text.toList := by
    rw [← String.utf8Encode_toList, spells_iff, ByteArray.ext_iff, List.utf8Encode, List.data_toByteArray]
    exact ⟨fun h => (List.toArray_inj h).symm, fun h => congrArg List.toArray h.symm⟩
  rw [← hbytes, Bytes.toText?, String.fromUTF8?]
  constructor
  · intro h
    split at h
    · cases h
      rfl
    · cases h
  · intro h
    have hvalid : ByteArray.IsValidUTF8 ⟨bs.toArray⟩ := h ▸ text.isValidUTF8
    rw [dif_pos hvalid]
    exact congrArg some (String.toByteArray_inj.mp h.symm)

/-! ### Where a text begins and ends -/

/-- The bytes of a code point are a leading byte, which settles how many they are, and tail bytes. -/
theorem Sequence.exists_lead {bs : Bytes} {n : Nat} (h : Sequence bs n) :
    ∃ lead tails, bs = lead :: tails ∧ ¬Tail lead ∧ (∀ b ∈ tails, Tail b) ∧
      tails.length = if lead.toNat ≤ 0x7f then 0 else if lead.toNat ≤ 0xdf then 1
        else if lead.toNat ≤ 0xef then 2 else 3 := by
  cases h with
  | @one a _ ha hn =>
      refine ⟨a, [], rfl, by rw [Tail]; omega, by simp, ?_⟩
      rw [if_pos ha]
      rfl
  | @two a b _ ha hb hn =>
      refine ⟨a, [b], rfl, by rw [Tail]; omega, by simpa using hb, ?_⟩
      rw [if_neg (by omega), if_pos (by omega)]
      rfl
  | @three a b c _ ha hb hc hshortest hsurrogate hn =>
      refine ⟨a, [b, c], rfl, by rw [Tail]; omega, by simpa using ⟨hb, hc⟩, ?_⟩
      rw [if_neg (by omega), if_neg (by omega), if_pos (by omega)]
      rfl
  | @four a b c d _ ha hb hc hd hshortest hlast hn =>
      refine ⟨a, [b, c, d], rfl, by rw [Tail]; omega, by simpa using ⟨hb, hc, hd⟩, ?_⟩
      rw [if_neg (by omega), if_neg (by omega), if_neg (by omega)]
      rfl

theorem Sequence.append_inj_left {bs cs xs ys : Bytes} {n m : Nat} (hbs : Sequence bs n)
    (hcs : Sequence cs m) (h : bs ++ xs = cs ++ ys) : bs = cs ∧ xs = ys := by
  obtain ⟨lead, tails, rfl, -, -, hlength⟩ := hbs.exists_lead
  obtain ⟨lead', tails', rfl, -, -, hlength'⟩ := hcs.exists_lead
  have hlead : lead = lead' := (List.cons.inj h).1
  subst hlead
  refine List.append_inj h ?_
  rw [List.length_cons, List.length_cons, hlength, hlength']

theorem rtakeWhile_tail {xs tails : Bytes} {lead : UInt8} (hlead : ¬Tail lead)
    (htails : ∀ b ∈ tails, Tail b) : (xs ++ lead :: tails).rtakeWhile (Tail ·) = tails := by
  have hreversed : ∀ b ∈ tails.reverse, decide (Tail b) = true := by
    intro b hb
    exact decide_eq_true (htails b (List.mem_reverse.mp hb))
  rw [List.rtakeWhile, List.reverse_append, List.reverse_cons, List.append_assoc, List.singleton_append,
    List.takeWhile_append_of_pos hreversed, List.takeWhile_cons_of_neg (by simpa using hlead),
    List.append_nil, List.reverse_reverse]

theorem Sequence.append_inj_right {bs cs xs ys : Bytes} {n m : Nat} (hbs : Sequence bs n)
    (hcs : Sequence cs m) (h : xs ++ bs = ys ++ cs) : xs = ys ∧ bs = cs := by
  obtain ⟨lead, tails, rfl, hlead, htails, -⟩ := hbs.exists_lead
  obtain ⟨lead', tails', rfl, hlead', htails', -⟩ := hcs.exists_lead
  have hsame : tails = tails' :=
    calc tails = (xs ++ lead :: tails).rtakeWhile (Tail ·) := (rtakeWhile_tail hlead htails).symm
      _ = (ys ++ lead' :: tails').rtakeWhile (Tail ·) := by rw [h]
      _ = tails' := rtakeWhile_tail hlead' htails'
  refine List.append_inj' h ?_
  rw [hsame, List.length_cons, List.length_cons]

theorem Sequence.ne_nil {bs : Bytes} {n : Nat} (h : Sequence bs n) : bs ≠ [] := by
  obtain ⟨lead, tails, rfl, -⟩ := h.exists_lead
  exact List.cons_ne_nil lead tails

theorem Sequence.unique {bs : Bytes} {n m : Nat} (hn : Sequence bs n) (hm : Sequence bs m) : n = m := by
  cases hn <;> cases hm <;> omega

theorem spells_nil_iff {bs : Bytes} : Spells bs [] ↔ bs = [] := by
  rw [spells_iff, List.flatMap_nil]

theorem spells_cons_iff {bs : Bytes} {c : Char} {cs : List Char} :
    Spells bs (c :: cs) ↔ ∃ front rest, bs = front ++ rest ∧ Sequence front c.toNat ∧ Spells rest cs := by
  constructor
  · rintro (_ | ⟨hfront, hrest⟩)
    exact ⟨_, _, rfl, hfront, hrest⟩
  · rintro ⟨front, rest, rfl, hfront, hrest⟩
    exact .cons hfront hrest

theorem spells_append_singleton_iff {bs : Bytes} {c : Char} {cs : List Char} :
    Spells bs (cs ++ [c]) ↔ ∃ rest last, bs = rest ++ last ∧ Spells rest cs ∧ Sequence last c.toNat := by
  constructor
  · intro h
    rw [spells_iff, List.flatMap_append, List.flatMap_singleton] at h
    exact ⟨_, _, h, spells_iff.mpr rfl, sequence_utf8EncodeChar c⟩
  · rintro ⟨rest, last, rfl, hrest, hlast⟩
    rw [spells_iff, List.flatMap_append, List.flatMap_singleton, ← spells_iff.mp hrest,
      hlast.eq_utf8EncodeChar]

theorem exists_of_spells_append_left {front bs : Bytes} {cs whole : List Char} (hfront : Spells front cs)
    (h : Spells (front ++ bs) whole) : ∃ rest, whole = cs ++ rest ∧ Spells bs rest := by
  induction hfront generalizing whole with
  | nil => exact ⟨whole, rfl, h⟩
  | @cons first others c cs hfirst hothers ih =>
      rw [List.append_assoc] at h
      cases whole with
      | nil =>
          rw [spells_nil_iff] at h
          exact absurd (List.append_eq_nil_iff.mp h).1 hfirst.ne_nil
      | cons d ds =>
          obtain ⟨first', others', hsplit, hfirst', hothers'⟩ := spells_cons_iff.mp h
          obtain ⟨rfl, rfl⟩ := hfirst.append_inj_left hfirst' hsplit
          obtain ⟨rest, rfl, hrest⟩ := ih hothers'
          obtain rfl := Char.toNat_inj.mp (hfirst.unique hfirst')
          exact ⟨rest, rfl, hrest⟩

theorem exists_of_spells_append_right {bs back : Bytes} {cs whole : List Char} (hback : Spells back cs)
    (h : Spells (bs ++ back) whole) : ∃ rest, whole = rest ++ cs ∧ Spells bs rest := by
  induction cs using List.reverseRecOn generalizing back whole with
  | nil =>
      rw [spells_nil_iff] at hback
      rw [hback, List.append_nil] at h
      exact ⟨whole, whole.append_nil.symm, h⟩
  | append_singleton cs c ih =>
      obtain ⟨others, last, rfl, hothers, hlast⟩ := spells_append_singleton_iff.mp hback
      rw [← List.append_assoc] at h
      rcases whole.eq_nil_or_concat' with rfl | ⟨ds, d, rfl⟩
      · rw [spells_nil_iff] at h
        exact absurd (List.append_eq_nil_iff.mp h).2 hlast.ne_nil
      · obtain ⟨others', last', hsplit, hothers', hlast'⟩ := spells_append_singleton_iff.mp h
        obtain ⟨rfl, rfl⟩ := hlast.append_inj_right hlast' hsplit
        obtain ⟨rest, rfl, hrest⟩ := ih hothers hothers'
        obtain rfl := Char.toNat_inj.mp (hlast.unique hlast')
        exact ⟨rest, List.append_assoc _ _ _, hrest⟩

/-- Between texts, a byte string spells what it spells by itself, and nothing if that is nothing. -/
theorem spells_between_iff {front bs back : Bytes} {cs ds whole : List Char} (hfront : Spells front cs)
    (hback : Spells back ds) :
    Spells (front ++ bs ++ back) whole ↔ ∃ body, whole = cs ++ body ++ ds ∧ Spells bs body := by
  constructor
  · intro h
    obtain ⟨others, rfl, hothers⟩ := exists_of_spells_append_right hback h
    obtain ⟨body, rfl, hbody⟩ := exists_of_spells_append_left hfront hothers
    exact ⟨body, rfl, hbody⟩
  · rintro ⟨body, rfl, hbody⟩
    rw [spells_iff] at *
    rw [hfront, hbody, hback, List.flatMap_append, List.flatMap_append]

end Checksum.Text
