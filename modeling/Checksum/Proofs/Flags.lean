import Mathlib.Data.Bool.AllAny
import Mathlib.Data.List.Forall2
import Checksum.Flag
import Checksum.Proofs.Text.Utf8
import Checksum.Proofs.Text.Words

/-!
# What switches a flag

The grammar of a flag's value: white space, a word in any mixture of ASCII case, white space. A text switches
the flag on or off exactly if it says one of the four words for that (`parse_eq_some_true_iff`,
`parse_eq_some_false_iff`), and the value of an environment variable is on exactly if it spells, in UTF-8, a
text that says so. There is no white space in a word and nothing beyond ASCII, so white space around a value
is all that can be added to it. As a text and the white space around it can be told apart in their bytes, this
holds of values that are not well formed as well (`isSet_between`).
-/

namespace Checksum.Flag

open Text

/-- One of the words, in any mixture of ASCII case, with white space before and behind it, or none. -/
def Says (words : List String) (cs : List Char) : Prop :=
  ∃ word ∈ words, ∃ body, List.Forall₂ Written word.toList body ∧ Surrounds cs body

/-! ### Words -/

/-- Words of lower-case letters and digits. -/
def Plain (words : List String) : Prop := ∀ word ∈ words, ∀ k ∈ word.toList, k.isLower ∨ k.isDigit

theorem plain_onWords : Plain onWords := by
  simp only [Plain, ← List.all_iff_forall_prop]
  decide

theorem plain_offWords : Plain offWords := by
  simp only [Plain, ← List.all_iff_forall_prop]
  decide

/-- Lowering gives a word for the ways in which the word may be written, and for nothing else. -/
theorem map_toLower_eq_iff {word cs : List Char} (hword : ∀ k ∈ word, k.isLower ∨ k.isDigit) :
    cs.map Char.toLower = word ↔ List.Forall₂ Written word cs := by
  induction word generalizing cs with
  | nil => rw [List.forall₂_nil_left_iff, List.map_eq_nil_iff]
  | cons k word ih =>
      obtain ⟨hk, hword⟩ := List.forall_mem_cons.mp hword
      rw [List.map_eq_cons_iff, List.forall₂_cons_left_iff]
      simp only [toLower_eq_iff hk, ih hword]
      constructor
      · rintro ⟨c, rest, rfl, hc, hrest⟩
        exact ⟨c, rest, hc, hrest, rfl⟩
      · rintro ⟨c, rest, hc, hrest, rfl⟩
        exact ⟨c, rest, rfl, hc, hrest⟩

theorem visible_of_written {word cs : List Char} (hword : ∀ k ∈ word, k.isLower ∨ k.isDigit)
    (h : List.Forall₂ Written word cs) : ∀ c ∈ cs, 0x20 < c.toNat ∧ c.toNat < 0x80 := by
  induction h with
  | nil => simp
  | cons hc hcs ih =>
      obtain ⟨hk, hword⟩ := List.forall_mem_cons.mp hword
      exact List.forall_mem_cons.mpr ⟨hc.visible hk, ih hword⟩

/-! ### Texts -/

variable {words : List String} {text : String}

/-- Trimming and lowering gives one of the words for the texts that say so. -/
theorem says_iff (hwords : Plain words) (cs : List Char) :
    Says words cs ↔ String.ofList ((trim cs).map Char.toLower) ∈ words := by
  constructor
  · rintro ⟨word, hword, body, hbody, hsurrounds⟩
    have hvisible := visible_of_written (hwords word hword) hbody
    have hwhite : ∀ c ∈ body, ¬White c := fun c hc => not_white (hvisible c hc).1 (hvisible c hc).2
    rw [trim_of_surrounds hwhite hsurrounds, (map_toLower_eq_iff (hwords word hword)).mpr hbody,
      String.ofList_toList]
    exact hword
  · intro h
    have hlowered : (trim cs).map Char.toLower
        = (String.ofList ((trim cs).map Char.toLower)).toList := by
      rw [String.toList_ofList]
    exact ⟨_, h, trim cs, (map_toLower_eq_iff (hwords _ h)).mp hlowered, surrounds_trim cs⟩

theorem parse_eq_some_true_iff : parse text = some true ↔ Says onWords text.toList := by
  rw [says_iff plain_onWords, parse]
  by_cases hon : String.ofList ((trim text.toList).map Char.toLower) ∈ onWords
  · simp only [hon, if_true]
  · simp only [hon, if_false, iff_false]
    split <;> simp

theorem parse_eq_some_false_iff : parse text = some false ↔ Says offWords text.toList := by
  rw [says_iff plain_offWords, parse]
  by_cases hoff : String.ofList ((trim text.toList).map Char.toLower) ∈ offWords
  · have hon : ∀ word ∈ offWords, word ∉ onWords := by decide
    simp only [hon _ hoff, hoff, if_true, if_false]
  · simp only [hoff, if_false, iff_false]
    split <;> simp

theorem parse_eq_none_iff :
    parse text = none ↔ ¬Says onWords text.toList ∧ ¬Says offWords text.toList := by
  rw [← parse_eq_some_true_iff, ← parse_eq_some_false_iff]
  cases parse text with
  | none => simp
  | some on => cases on <;> simp

theorem trim_of_says (hwords : Plain words) {cs : List Char} (h : Says words cs) :
    ∀ c ∈ trim cs, c.toNat < 0x80 ∧ ¬White c := by
  obtain ⟨word, hword, body, hbody, hsurrounds⟩ := h
  have hvisible := visible_of_written (hwords word hword) hbody
  have hwhite : ∀ c ∈ body, ¬White c := fun c hc => not_white (hvisible c hc).1 (hvisible c hc).2
  rw [trim_of_surrounds hwhite hsurrounds]
  exact fun c hc => ⟨(hvisible c hc).2, hwhite c hc⟩

theorem trim_of_parse_ne_none (h : parse text ≠ none) :
    ∀ c ∈ trim text.toList, c.toNat < 0x80 ∧ ¬White c := by
  obtain ⟨on, hon⟩ := Option.ne_none_iff_exists'.mp h
  cases on with
  | true => exact trim_of_says plain_onWords (parse_eq_some_true_iff.mp hon)
  | false => exact trim_of_says plain_offWords (parse_eq_some_false_iff.mp hon)

/-- White space around a text makes no difference. -/
theorem parse_of_surrounds {wrapped : String} (h : Surrounds wrapped.toList text.toList) :
    parse wrapped = parse text := by
  rw [parse, trim_eq_of_surrounds h, parse]

/-! ### Values -/

theorem isSet_eq_true_iff (value : Bytes) :
    isSet (some value) = true ↔ ∃ cs, Spells value cs ∧ Says onWords cs := by
  have hread {cs : List Char} (hcs : Spells value cs) : Bytes.toText? value = some (String.ofList cs) := by
    rw [toText?_eq_some_iff, String.toList_ofList]
    exact hcs
  constructor
  · intro h
    rw [isSet, Option.bind_some] at h
    cases htext : Bytes.toText? value with
    | none =>
        rw [htext] at h
        cases h
    | some text =>
        rw [htext] at h
        exact ⟨text.toList, toText?_eq_some_iff.mp htext, parse_eq_some_true_iff.mp (beq_iff_eq.mp h)⟩
  · rintro ⟨cs, hcs, hword⟩
    have hon : parse (String.ofList cs) = some true := by
      rw [parse_eq_some_true_iff, String.toList_ofList]
      exact hword
    rw [isSet, Option.bind_some, hread hcs]
    exact beq_iff_eq.mpr hon

/-- Nor does it around the value of a variable, be that well formed or not. -/
theorem isSet_between {front value back : Bytes} {cs ds : List Char} (hfront : Spells front cs)
    (hback : Spells back ds) (hcs : ∀ c ∈ cs, White c) (hds : ∀ d ∈ ds, White d) :
    isSet (some (front ++ value ++ back)) = isSet (some value) := by
  have hbetween (body : List Char) : Says onWords (cs ++ body ++ ds) ↔ Says onWords body := by
    rw [says_iff plain_onWords, says_iff plain_onWords, trim_eq_of_surrounds ⟨cs, ds, hcs, hds, rfl⟩]
  rw [Bool.eq_iff_iff, isSet_eq_true_iff, isSet_eq_true_iff]
  constructor
  · rintro ⟨whole, hwhole, hon⟩
    obtain ⟨body, rfl, hbody⟩ := (spells_between_iff hfront hback).mp hwhole
    exact ⟨body, hbody, (hbetween body).mp hon⟩
  · rintro ⟨body, hbody, hon⟩
    exact ⟨cs ++ body ++ ds, (spells_between_iff hfront hback).mpr ⟨body, rfl, hbody⟩, (hbetween body).mpr hon⟩

/-- The value of a variable sets a flag exactly if it spells white space, a word for that in any mixture of
ASCII case, and white space; without a value, and for every other one, the flag is not set. A text is read by
the same grammar, with words for either answer, and as none if it says neither. What is not white space at the
ends of such a text is all ASCII and no white space. White space around a text or a value changes nothing. -/
theorem flags_keep_to_the_grammar :
    (∀ value : Bytes, isSet (some value) = true
      ↔ ∃ cs, Spells value cs ∧ Says ["1", "on", "true", "yes"] cs) ∧
    isSet none = false ∧
    (∀ text : String,
      (parse text = some true ↔ Says ["1", "on", "true", "yes"] text.toList) ∧
      (parse text = some false ↔ Says ["0", "off", "false", "no"] text.toList) ∧
      (parse text = none ↔ ¬Says ["1", "on", "true", "yes"] text.toList ∧
        ¬Says ["0", "off", "false", "no"] text.toList) ∧
      (parse text ≠ none → ∀ c ∈ trim text.toList, c.toNat < 0x80 ∧ ¬White c)) ∧
    (∀ text wrapped : String, Surrounds wrapped.toList text.toList → parse wrapped = parse text) ∧
    (∀ front value back cs ds, Spells front cs → Spells back ds → (∀ c ∈ cs, White c) →
      (∀ d ∈ ds, White d) → isSet (some (front ++ value ++ back)) = isSet (some value)) := by
  refine ⟨isSet_eq_true_iff, rfl, ?_, ?_, ?_⟩
  · intro text
    exact ⟨parse_eq_some_true_iff, parse_eq_some_false_iff, parse_eq_none_iff, trim_of_parse_ne_none⟩
  · intro text wrapped hsurrounds
    exact parse_of_surrounds hsurrounds
  · intro front value back cs ds hfront hback hcs hds
    exact isSet_between hfront hback hcs hds

/-- White space of two and of three bytes around a word and around a byte that spells nothing; white space of
no width, and white space inside. -/
theorem flags_keep_to_the_grammar_wrapped :
    let front : Bytes := [0xc2, 0x85]
    let back : Bytes := [0xe3, 0x80, 0x80]
    isSet (some (front ++ [0x59, 0x65, 0x53] ++ back)) = true ∧
      isSet (some (front ++ [0xff] ++ back)) = false ∧
      parse "\u2003oFF\t" = some false ∧ (∀ c ∈ trim "oFF\t".toList, c.toNat < 0x80 ∧ ¬White c) ∧
      parse "\u200btrue" = none ∧ ¬Says ["1", "on", "true", "yes"] "o n".toList := by
  intro front back
  obtain ⟨-, -, htexts, haround, hbetween⟩ := flags_keep_to_the_grammar
  have hfront : Spells front ['\u0085'] := spells_iff.mpr (by decide)
  have hback : Spells back ['\u3000'] := spells_iff.mpr (by decide)
  have hwhite {c : Char} (hblank : isBlank c = true) : ∀ d ∈ [c], White d :=
    List.forall_mem_singleton.mpr (isBlank_iff.mp hblank)
  have hwrapped (value : Bytes) : isSet (some (front ++ value ++ back)) = isSet (some value) :=
    hbetween front value back _ _ hfront hback (hwhite (by decide)) (hwhite (by decide))
  have hoff : parse "oFF\t" = some false := by decide
  have hpadded : parse "\u2003oFF\t" = parse "oFF\t" :=
    haround "oFF\t" "\u2003oFF\t" ⟨['\u2003'], [], hwhite (by decide), by simp, by decide⟩
  have hread : parse "oFF\t" ≠ none := by rw [hoff]; decide
  refine ⟨?_, ?_, hpadded.trans hoff, (htexts "oFF\t").2.2.2 hread, by decide, ?_⟩
  · rw [hwrapped]
    decide +kernel
  · rw [hwrapped]
    decide +kernel
  · have hnone : parse "o n" = none := by decide
    exact ((htexts "o n").2.2.1.mp hnone).1

end Checksum.Flag
