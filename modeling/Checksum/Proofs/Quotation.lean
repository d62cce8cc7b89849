import Mathlib.Data.Bool.AllAny
import Checksum.Registry

/-!
# What is quoted can be read back

A quoted text is read back from its first quote to the next one that no backslash stands for, and what is
read is the text that was quoted (`unquote?_quote`). Everything rests on the three forms that a character
takes between quotes, a letter behind a backslash, the character itself or its code point (`Escaped`): each
of them is read back as that character, leaves no backslash pending, has no bare quote in it, and is made
of characters that stay on the line. So an error that names what it could not read tells two such names
apart.
-/

namespace Checksum

namespace Text

/-! ### Reading back -/

/-- The character that a letter behind a backslash stands for, `u` apart. -/
def letterValue? : Char → Option Char
  | '0' => some '\x00'
  | 't' => some '\t'
  | 'r' => some '\r'
  | 'n' => some '\n'
  | '\x22' => some '\x22'
  | '\\' => some '\\'
  | _ => none

/-- The value of a hexadecimal digit in lower case. -/
def hexValue? (c : Char) : Option Nat :=
  if '0' ≤ c ∧ c ≤ '9' then some (c.toNat - '0'.toNat)
  else if 'a' ≤ c ∧ c ≤ 'f' then some (10 + (c.toNat - 'a'.toNat))
  else none

/-- What was read of a quoted text before the next character. -/
inductive Reading where
  | text
  | backslash
  | opening
  | code (n : Nat)

/-- Reads up to the closing quote, which is the last character. -/
def readQuoted : Reading → List Char → Option (List Char)
  | _, [] => none
  | .text, c :: cs =>
      if c = '\x22' then if cs = [] then some [] else none
      else if c = '\\' then readQuoted .backslash cs
      else (readQuoted .text cs).map (c :: ·)
  | .backslash, c :: cs =>
      if c = 'u' then readQuoted .opening cs
      else (letterValue? c).bind fun d => (readQuoted .text cs).map (d :: ·)
  | .opening, c :: cs => if c = '\x7b' then readQuoted (.code 0) cs else none
  | .code n, c :: cs =>
      if c = '\x7d' then
        if n.isValidChar then (readQuoted .text cs).map (Char.ofNat n :: ·) else none
      else (hexValue? c).bind fun d => readQuoted (.code (16 * n + d)) cs

/-- The text between quotes, with its escapes undone. -/
def unquote? (s : String) : Option String :=
  match s.toList with
  | [] => none
  | c :: cs => if c = '\x22' then (readQuoted .text cs).map String.ofList else none

/-! ### Forms -/

/-- The controls, with those beyond ASCII. -/
def IsControl (c : Char) : Prop := c.toNat < 0x20 ∨ 0x7f ≤ c.toNat ∧ c.toNat ≤ 0x9f

/-- The characters behind which a new line begins. -/
def BreaksLine (c : Char) : Prop := c.toNat ∈ [0xa, 0xb, 0xc, 0xd, 0x85, 0x2028, 0x2029]

/-- A character that stays on the line. -/
def Inline (c : Char) : Prop := ¬IsControl c ∧ ¬BreaksLine c

instance (c : Char) : Decidable (IsControl c) := inferInstanceAs (Decidable (_ ∨ _))

instance (c : Char) : Decidable (BreaksLine c) := inferInstanceAs (Decidable (_ ∈ _))

instance (c : Char) : Decidable (Inline c) := inferInstanceAs (Decidable (_ ∧ _))

theorem inline_of_ascii {c : Char} (hlow : 0x20 ≤ c.toNat) (hhigh : c.toNat ≤ 0x7e) : Inline c := by
  simp only [Inline, IsControl, BreaksLine, List.mem_cons, List.not_mem_nil, or_false]
  omega

theorem Ranges.has_of_mem {ranges : Ranges} {c : Char} {first last : Nat}
    (h : (first, last) ∈ ranges) (hfirst : first ≤ c.toNat) (hlast : c.toNat ≤ last) :
    ranges.has c = true := by
  rw [has, List.any_eq_true]
  refine ⟨_, h, ?_⟩
  simp only [Bool.and_eq_true, decide_eq_true_eq]
  exact ⟨hfirst, hlast⟩

theorem inline_of_printable {c : Char} (h : unprintable.has c = false) : Inline c := by
  have houtside (first last : Nat) (hmem : (first, last) ∈ unprintable) :
      ¬(first ≤ c.toNat ∧ c.toNat ≤ last) := by
    rintro ⟨hfirst, hlast⟩
    rw [Ranges.has_of_mem hmem hfirst hlast] at h
    cases h
  have hlow := houtside 0x0 0x1f (by decide)
  have hmiddle := houtside 0x7f 0xa0 (by decide)
  have hhigh := houtside 0x2028 0x202f (by decide)
  simp only [Inline, IsControl, BreaksLine, List.mem_cons, List.not_mem_nil, or_false]
  omega

theorem inline_of_showsItself {c : Char} (h : showsItself c = true) : Inline c := by
  simp only [showsItself, Bool.or_eq_true, Bool.and_eq_true, decide_eq_true_eq, Bool.not_eq_true',
    Bool.or_eq_false_iff] at h
  rcases h with ⟨hlow, hhigh⟩ | ⟨hprintable, -⟩
  · exact inline_of_ascii hlow hhigh
  · exact inline_of_printable hprintable

/-- The forms of a character between quotes. -/
inductive Escaped (c : Char) : List Char → Prop
  | letter {l : Char} : l ≠ 'u' → letterValue? l = some c → Inline l → Escaped c ['\\', l]
  | itself : c ≠ '\x22' → c ≠ '\\' → Inline c → Escaped c [c]
  | code : Escaped c (['\\', 'u', '\x7b'] ++ Nat.toDigits 16 c.toNat ++ ['\x7d'])

theorem letterValue?_of_escapeLetter? {c l : Char} (h : escapeLetter? c = some l) :
    l ≠ 'u' ∧ letterValue? l = some c ∧ Inline l := by
  unfold escapeLetter? at h
  split at h <;> cases h <;>
    exact ⟨by decide, rfl, inline_of_ascii (by decide) (by decide)⟩

theorem escaped_escape (c : Char) : Escaped c (escape c) := by
  rw [escape]
  cases hletter : escapeLetter? c with
  | some l =>
      obtain ⟨hu, hvalue, hinline⟩ := letterValue?_of_escapeLetter? hletter
      exact .letter hu hvalue hinline
  | none =>
      -- Quotes and backslashes have a letter, so they are not among the characters left here.
      by_cases hshows : showsItself c = true
      · simp only [if_pos hshows]
        refine .itself ?_ ?_ (inline_of_showsItself hshows)
        · rintro rfl
          cases hletter
        · rintro rfl
          cases hletter
      · simp only [if_neg hshows]
        exact .code

/-! ### Digits -/

/-- What holds of one digit, and of a number with one more digit behind it, holds of all numbers. -/
theorem toDigits_induction {P : Nat → List Char → Prop}
    (hone : ∀ d, d < 16 → P d [Nat.digitChar d])
    (hmore : ∀ n digits d, d < 16 → P n digits → P (16 * n + d) (digits ++ [Nat.digitChar d])) (n : Nat) :
    P n (Nat.toDigits 16 n) := by
  induction n using Nat.strongRecOn with
  | ind n ih =>
      by_cases hn : n < 16
      · rw [Nat.toDigits_of_lt_base hn]
        exact hone n hn
      · have hn := Nat.le_of_not_lt hn
        have hlast := hmore (n / 16) _ (n % 16) (Nat.mod_lt n (by decide))
          (ih (n / 16) (Nat.div_lt_self (by omega) (by decide)))
        rwa [Nat.div_add_mod, ← Nat.toDigits_of_base_le (by decide) hn] at hlast

theorem mem_toDigits (n : Nat) : ∀ x ∈ Nat.toDigits 16 n, ∃ d < 16, x = Nat.digitChar d := by
  refine toDigits_induction (P := fun _ digits => ∀ x ∈ digits, ∃ d < 16, x = Nat.digitChar d) ?_ ?_ n
  · intro d hd
    rw [List.forall_mem_singleton]
    exact ⟨d, hd, rfl⟩
  · intro n digits d hd ih
    rw [List.forall_mem_append, List.forall_mem_singleton]
    exact ⟨ih, d, hd, rfl⟩

theorem digitChar_plain {d : Nat} (h : d < 16) :
    Nat.digitChar d ≠ '\x22' ∧ Nat.digitChar d ≠ '\\' ∧
      0x20 ≤ (Nat.digitChar d).toNat ∧ (Nat.digitChar d).toNat ≤ 0x7e := by
  revert d
  decide

/-! ### Reading a form -/

theorem hexValue?_digitChar {d : Nat} (h : d < 16) :
    Nat.digitChar d ≠ '\x7d' ∧ hexValue? (Nat.digitChar d) = some d := by
  revert d
  decide

theorem readQuoted_digitChar {n d : Nat} (h : d < 16) (rest : List Char) :
    readQuoted (.code n) (Nat.digitChar d :: rest) = readQuoted (.code (16 * n + d)) rest := by
  obtain ⟨hne, hvalue⟩ := hexValue?_digitChar h
  rw [readQuoted, if_neg hne, hvalue]
  rfl

/-- The digits of a number are read as that number. -/
theorem readQuoted_toDigits (n : Nat) (rest : List Char) :
    readQuoted (.code 0) (Nat.toDigits 16 n ++ rest) = readQuoted (.code n) rest := by
  refine toDigits_induction
    (P := fun n digits => ∀ rest, readQuoted (.code 0) (digits ++ rest) = readQuoted (.code n) rest)
    ?_ ?_ n rest
  · intro d hd rest
    rw [List.singleton_append, readQuoted_digitChar hd, Nat.mul_zero, Nat.zero_add]
  · intro n digits d hd ih rest
    rw [List.append_assoc, List.singleton_append, ih, readQuoted_digitChar hd]

theorem readQuoted_escaped {c : Char} {form : List Char} (h : Escaped c form) (rest : List Char) :
    readQuoted .text (form ++ rest) = (readQuoted .text rest).map (c :: ·) := by
  cases h with
  | letter hu hvalue _ =>
      have hquote : '\\' ≠ '\x22' := by decide
      rw [List.cons_append, List.singleton_append, readQuoted, if_neg hquote, if_pos rfl, readQuoted,
        if_neg hu, hvalue]
      rfl
  | itself hquote hbackslash _ =>
      rw [List.singleton_append, readQuoted, if_neg hquote, if_neg hbackslash]
  | code =>
      have hread : readQuoted .text (['\\', 'u', '\x7b'] ++ Nat.toDigits 16 c.toNat ++ ['\x7d'] ++ rest)
          = readQuoted (.code 0) (Nat.toDigits 16 c.toNat ++ ('\x7d' :: rest)) := by
        rw [List.append_assoc, List.append_assoc]
        rfl
      have hvalid : c.toNat.isValidChar := c.valid
      rw [hread, readQuoted_toDigits, readQuoted, if_pos rfl, if_pos hvalid, Char.ofNat_toNat]

theorem unquote?_quote (s : String) : unquote? (quote s) = some s := by
  have hread (cs : List Char) : readQuoted .text (cs.flatMap escape ++ ['\x22']) = some cs := by
    induction cs with
    | nil => rfl
    | cons c cs ih =>
        rw [List.flatMap_cons, List.append_assoc, readQuoted_escaped (escaped_escape c), ih]
        rfl
  rw [unquote?, quote, String.toList_ofList]
  simp only [List.cons_append, if_true, hread, Option.map_some, String.ofList_toList]

theorem quote_injective {s t : String} (h : quote s = quote t) : s = t := by
  have hread := unquote?_quote s
  rw [h, unquote?_quote, Option.some.injEq] at hread
  exact hread.symm

/-! ### Bare quotes -/

/-- Whether the text ends with a backslash that the next character stands behind, and not with one that
stands behind another. -/
def pending (cs : List Char) : Bool := cs.foldl (fun waiting c => !waiting && c == '\\') false

/-- There is a quote in this place, and no backslash for it. -/
def Bare (text : List Char) (i : Nat) : Prop := text[i]? = some '\x22' ∧ pending (text.take i) = false

/-- A text without bare quotes that leaves what comes behind it as it is. -/
structure Settled (cs : List Char) : Prop where
  pending_eq : pending cs = false
  not_bare : ∀ i, ¬Bare cs i

variable {xs ys : List Char}

theorem pending_append (h : pending xs = false) (ys : List Char) : pending (xs ++ ys) = pending ys := by
  rw [pending] at h
  rw [pending, List.foldl_append, h, pending]

theorem bare_append_iff (h : pending xs = false) {i : Nat} :
    Bare (xs ++ ys) i ↔ Bare xs i ∨ ∃ j, i = xs.length + j ∧ Bare ys j := by
  by_cases hi : i < xs.length
  · have hout : ¬∃ j, i = xs.length + j ∧ Bare ys j := by
      rintro ⟨j, rfl, -⟩
      omega
    rw [or_iff_left hout, Bare, Bare, List.getElem?_append_left hi,
      List.take_append_of_le_length (Nat.le_of_lt hi)]
  · obtain ⟨j, rfl⟩ := Nat.exists_eq_add_of_le (Nat.le_of_not_lt hi)
    have hout : ¬Bare xs (xs.length + j) := by
      rintro ⟨hquote, -⟩
      rw [List.getElem?_eq_none (Nat.le_add_right _ _)] at hquote
      cases hquote
    -- Of what stands before this place only the part in `ys` counts, as `xs` leaves nothing pending.
    rw [or_iff_right hout, Bare, List.getElem?_append_right (Nat.le_add_right _ _),
      Nat.add_sub_cancel_left, List.take_append, List.take_of_length_le (Nat.le_add_right _ _),
      Nat.add_sub_cancel_left, pending_append h]
    constructor
    · intro hbare
      exact ⟨j, rfl, hbare⟩
    · rintro ⟨k, hk, hbare⟩
      rwa [Nat.add_left_cancel hk]

theorem Settled.bare_append_iff (h : Settled xs) {i : Nat} :
    Bare (xs ++ ys) i ↔ ∃ j, i = xs.length + j ∧ Bare ys j := by
  rw [Text.bare_append_iff h.pending_eq, or_iff_right (h.not_bare i)]

theorem Settled.append (hxs : Settled xs) (hys : Settled ys) : Settled (xs ++ ys) where
  pending_eq := (pending_append hxs.pending_eq ys).trans hys.pending_eq
  not_bare i := by
    rw [hxs.bare_append_iff]
    rintro ⟨j, -, hbare⟩
    exact hys.not_bare j hbare

theorem settled_nil : Settled [] where
  pending_eq := rfl
  not_bare i := by
    rintro ⟨hquote, -⟩
    cases hquote

theorem settled_singleton {c : Char} (hquote : c ≠ '\x22') (hbackslash : c ≠ '\\') : Settled [c] where
  pending_eq := beq_false_of_ne hbackslash
  not_bare i := by
    rintro ⟨hbare, -⟩
    exact hquote (List.mem_singleton.mp (List.mem_of_getElem? hbare)).symm

theorem settled_of_plain (h : ∀ c ∈ xs, c ≠ '\x22' ∧ c ≠ '\\') : Settled xs := by
  induction xs with
  | nil => exact settled_nil
  | cons c cs ih =>
      obtain ⟨⟨hquote, hbackslash⟩, hcs⟩ := List.forall_mem_cons.mp h
      exact (settled_singleton hquote hbackslash).append (ih hcs)

/-- A quote behind a backslash is not bare. -/
theorem settled_letter (l : Char) : Settled ['\\', l] where
  pending_eq := rfl
  not_bare i := by
    rintro ⟨hquote, hpending⟩
    match i with
    | 0 => cases hquote
    | 1 => cases hpending
    | i + 2 => cases hquote

theorem Escaped.settled {c : Char} {form : List Char} (h : Escaped c form) : Settled form := by
  cases h with
  | letter _ _ _ => exact settled_letter _
  | itself hquote hbackslash _ => exact settled_singleton hquote hbackslash
  | code =>
      have hdigits : Settled (Nat.toDigits 16 c.toNat) := by
        refine settled_of_plain fun x hx => ?_
        obtain ⟨d, hd, rfl⟩ := mem_toDigits _ x hx
        exact ⟨(digitChar_plain hd).1, (digitChar_plain hd).2.1⟩
      have hopening : Settled ['\x7b'] := settled_singleton (by decide) (by decide)
      have hclosing : Settled ['\x7d'] := settled_singleton (by decide) (by decide)
      exact (((settled_letter 'u').append hopening).append hdigits).append hclosing

theorem settled_flatMap_escape (cs : List Char) : Settled (cs.flatMap escape) := by
  induction cs with
  | nil => exact settled_nil
  | cons c cs ih => exact (escaped_escape c).settled.append ih

theorem bare_singleton_iff {i : Nat} : Bare ['\x22'] i ↔ i = 0 := by
  constructor
  · rintro ⟨hquote, -⟩
    cases i with
    | zero => rfl
    | succ i => cases hquote
  · rintro rfl
    exact ⟨rfl, rfl⟩

/-- In front of a quoted text without quotes and backslashes, the bare quotes are the first and the last
of the quoted text. -/
theorem bare_quote_iff {front : List Char} (hfront : ∀ c ∈ front, c ≠ '\x22' ∧ c ≠ '\\') (s : String)
    {i : Nat} : Bare (front ++ (quote s).toList) i
      ↔ i = front.length ∨ i + 1 = (front ++ (quote s).toList).length := by
  have hbody := settled_flatMap_escape s.toList
  have hopening : pending ['\x22'] = false := rfl
  have hquote : (quote s).toList = ['\x22'] ++ (s.toList.flatMap escape ++ ['\x22']) := by
    rw [quote, String.toList_ofList]
    rfl
  rw [hquote, (settled_of_plain hfront).bare_append_iff]
  simp only [bare_append_iff hopening, hbody.bare_append_iff, bare_singleton_iff,
    List.length_append, List.length_singleton]
  constructor
  · rintro ⟨j, rfl, rfl | ⟨k, rfl, l, rfl, rfl⟩⟩
    · exact .inl rfl
    · exact .inr (by omega)
  · rintro (rfl | hlast)
    · exact ⟨0, rfl, .inl rfl⟩
    · exact ⟨_, by omega, .inr ⟨_, rfl, 0, rfl, rfl⟩⟩

/-! ### One line -/

theorem Escaped.inline {c : Char} {form : List Char} (h : Escaped c form) : ∀ x ∈ form, Inline x := by
  cases h with
  | letter _ _ hinline =>
      rw [List.forall_mem_cons, List.forall_mem_singleton]
      exact ⟨inline_of_ascii (by decide) (by decide), hinline⟩
  | itself _ _ hinline =>
      rw [List.forall_mem_singleton]
      exact hinline
  | code =>
      have hopening : ∀ x ∈ ['\\', 'u', '\x7b'], Inline x := List.all_iff_forall_prop.mp (by decide)
      have hclosing : ∀ x ∈ ['\x7d'], Inline x := List.all_iff_forall_prop.mp (by decide)
      have hdigits : ∀ x ∈ Nat.toDigits 16 c.toNat, Inline x := by
        intro x hx
        obtain ⟨d, hd, rfl⟩ := mem_toDigits _ x hx
        obtain ⟨-, -, hlow, hhigh⟩ := digitChar_plain hd
        exact inline_of_ascii hlow hhigh
      rw [List.forall_mem_append, List.forall_mem_append]
      exact ⟨⟨hopening, hdigits⟩, hclosing⟩

theorem inline_quote (s : String) : ∀ c ∈ (quote s).toList, Inline c := by
  have hmark : Inline '\x22' := by decide
  rw [quote, String.toList_ofList, List.forall_mem_append, List.forall_mem_cons, List.forall_mem_singleton]
  refine ⟨⟨hmark, ?_⟩, hmark⟩
  intro x hx
  obtain ⟨c, -, hc⟩ := List.mem_flatMap.mp hx
  exact (escaped_escape c).inline x hc

end Text

namespace Algorithm

/-- A name that is read as no algorithm comes back in the message of the error, in quotes and so that it can
be read from there as it was given. Two such names have different messages. The message has no bare quotes
but the two around the name, and it stays on one line, whatever the name is. -/
theorem refused_names_are_told (name : String) (e : RegistryError) (h : ofName name = .error e) :
    let front := "unknown hash algorithm "
    (∀ r : Registry, r.getByName name = .error e) ∧
    (∃ quoted, e.message = front ++ quoted ∧ Text.unquote? quoted = some name) ∧
    (∀ other e', ofName other = .error e' → e'.message = e.message → other = name) ∧
    (∀ i, Text.Bare e.message.toList i ↔ i = front.length ∨ i + 1 = e.message.length) ∧
    ∀ c ∈ e.message.toList, ¬Text.IsControl c ∧ ¬Text.BreaksLine c := by
  intro front
  obtain ⟨hnone, rfl⟩ := ofName_eq_error_iff.mp h
  have hmessage (s : String) : (RegistryError.unknownAlgorithm s).message = front ++ Text.quote s := rfl
  refine ⟨?_, ?_, ?_, ?_, ?_⟩
  · intro r
    rw [Registry.getByName, h]
  · exact ⟨Text.quote name, hmessage name, Text.unquote?_quote name⟩
  · intro other e' hother hsame
    obtain ⟨-, rfl⟩ := ofName_eq_error_iff.mp hother
    rw [hmessage, hmessage, String.append_right_inj] at hsame
    exact Text.quote_injective hsame
  · intro i
    simp only [← String.length_toList, hmessage, String.toList_append]
    exact Text.bare_quote_iff (List.all_iff_forall_prop.mp (by decide)) name
  · rw [hmessage, String.toList_append, List.forall_mem_append]
    exact ⟨List.all_iff_forall_prop.mp (by decide), Text.inline_quote name⟩

/-- Quotes and backslashes of its own, something that looks like an escape, a mark that combines with the
letter before it, and two line ends. -/
theorem refused_names_are_told_escaped :
    let name := "say \"md5\" \\u\x7b41\x7d e\u0301\n\u2028"
    let e := RegistryError.unknownAlgorithm name
    ofName name = .error e ∧
      e.message = "unknown hash algorithm \"say \\\"md5\\\" \\\\u\x7b41\x7d e\\u\x7b301\x7d\\n\\u\x7b2028\x7d\"" ∧
      (∃ quoted, e.message = "unknown hash algorithm " ++ quoted ∧ Text.unquote? quoted = some name) ∧
      ∀ c ∈ e.message.toList, ¬Text.IsControl c ∧ ¬Text.BreaksLine c := by
  intro name e
  have hrefused : ofName name = .error e := ofName_eq_error_iff.mpr ⟨by decide, rfl⟩
  obtain ⟨-, hquoted, -, -, hline⟩ := refused_names_are_told name e hrefused
  exact ⟨hrefused, by decide +kernel, hquoted, hline⟩

end Algorithm

end Checksum
