import Notebook.Proofs.Question.Readers

/-!
# Phrases that a question does not hold

A phrase is only taken if its number has a value, so it is missed in a text without numbers, and it
is missed in a text with one number if what stands next to the number does not fit.

- `Unnumbered` — a text with no digit and no word for a position;
- `Phrase.Misses` — nothing that a phrase reads in a text has a value;
- `misses_of_no_digit` — the phrases with a numeral are missed in a text without digits;
- `misses_beforeNoun` — an ordinal in front of a noun is missed if something else follows the only
  number;
- `misses_nounNumeral` — a noun in front of a number is missed if the only number has an ending.
-/

namespace Notebook

open Text

/-! ### Texts without numbers -/

/-- A text with no digit, and with no word for a position, up to folding. -/
structure Unnumbered (t : Text) : Prop where
  no_digit : ∀ c ∈ t, c.isDigit = false
  no_word : ∀ word ∈ ordinals.map (·.1), word.all Char.isAlpha = true →
    ¬word <:+: t.map foldCase

namespace Unnumbered

theorem of_infix {t u : Text} (h : Unnumbered t) (hu : u <:+: t) : Unnumbered u where
  no_digit := fun c hc => h.no_digit c (hu.subset hc)
  no_word := fun word hword hletters hwithin =>
    h.no_word word hword hletters (hwithin.trans (hu.map foldCase))

/-- Without digits there is no word for a position that is written with some, either. -/
theorem no_ordinal {t : Text} (h : Unnumbered t) (word : Text)
    (hword : word ∈ ordinals.map (·.1)) : ¬word <:+: t.map foldCase := by
  intro hwithin
  have hdigits : ∀ word ∈ ordinals.map (·.1),
      word.all Char.isAlpha = true ∨ word.head?.any Char.isDigit = true := by decide
  rcases hdigits word hword with hletters | hdigit
  · exact h.no_word word hword hletters hwithin
  · cases word with
    | nil => cases hdigit
    | cons c word =>
      have hc : c.isDigit = true := hdigit
      obtain ⟨d, hd, hfold⟩ := List.mem_map.mp (hwithin.subset List.mem_cons_self)
      rw [← eq_of_foldCase_eq (not_isAlpha_of_isDigit hc) hfold, h.no_digit d hd] at hc
      cases hc

theorem isAlphanum_of_mem_ordinal {word : Text} (hword : word ∈ ordinals.map (·.1)) {c : Char}
    (hc : c ∈ word) : c.isAlphanum = true := by
  have hall : ∀ word ∈ ordinals.map (·.1), word.all Char.isAlphanum = true := by decide
  exact List.all_eq_true.mp (hall word hword) c hc

/-- No word for a position has a gap in it. -/
theorem not_mem_ordinal {g : Char} (hg : isGap g = true) {word : Text}
    (hword : word ∈ ordinals.map (·.1)) : g ∉ word := by
  intro hmem
  have hword := isWord_of_isAlphanum (isAlphanum_of_mem_ordinal hword hmem)
  rw [not_isGap_of_isWord hword] at hg
  cases hg

/-- A gap keeps words for positions apart. -/
theorem append_gap {u v : Text} {g : Char} (hg : isGap g = true) (hu : Unnumbered u)
    (hv : Unnumbered v) : Unnumbered (u ++ g :: v) where
  no_digit := by
    intro c hc
    rcases List.mem_append.mp hc with hc | hc
    · exact hu.no_digit c hc
    · rcases List.mem_cons.mp hc with rfl | hc
      · by_contra hdigit
        have hword := isWord_of_isAlphanum (c := c) (by simp [Char.isAlphanum, hdigit])
        rw [not_isGap_of_isWord hword] at hg
        cases hg
      · exact hv.no_digit c hc
  no_word := by
    intro word hword _
    rw [List.map_append, List.map_cons, foldCase_of_isGap hg, ← contains_iff,
      contains_append (not_mem_ordinal hg hword), Bool.or_eq_true, contains_iff, contains_iff,
      not_or]
    exact ⟨hu.no_ordinal word hword, hv.no_ordinal word hword⟩

theorem cons_space {t : Text} (h : Unnumbered t) : Unnumbered (' ' :: t) :=
  append_gap (u := []) (by decide) ⟨nofun, by decide⟩ h

/-- White space at the end of the first of two texts keeps words for positions apart. -/
theorem append {u v : Text} (hu : Unnumbered u) (hlast : ∀ c ∈ u.getLast?, isBlank c = true)
    (hv : Unnumbered v) : Unnumbered (u ++ v) := by
  rcases List.eq_nil_or_concat u with rfl | ⟨front, c, rfl⟩
  · exact hv
  · have hc : isBlank c = true := hlast c (by simp)
    rw [List.concat_eq_append] at hu ⊢
    rw [List.append_assoc]
    exact append_gap (isGap_of_isBlank hc) (hu.of_infix (List.prefix_append _ _).isInfix) hv

/-- The words of a table are unnumbered if the table has no number. -/
theorem of_spells {words : List Text} (h : ∀ w ∈ words, w.map foldCase = w ∧
    (w.all fun c => !c.isDigit) = true ∧ (ordinals.all fun (o, _) => !contains o w) = true)
    {t : Text} (ht : Spells words t) : Unnumbered t where
  no_digit := by
    intro c hc
    have hlower := List.all_eq_true.mp (h _ ht).2.1 _ (List.mem_map_of_mem hc)
    by_contra hdigit
    have hdigit : c.isDigit = true := by simpa using hdigit
    rw [toLower_eq_self (not_isAlpha_of_isDigit hdigit), hdigit] at hlower
    cases hlower
  no_word := by
    intro word hword _
    obtain ⟨⟨o, n⟩, hmem, rfl⟩ := List.mem_map.mp hword
    have hnot := List.all_eq_true.mp (h _ ht).2.2 _ hmem
    rw [map_foldCase_eq_map_toLower (h _ ht).1, ← contains_iff]
    simpa using hnot

theorem isEndMark_iff {c : Char} : Question.isEndMark c = true ↔ c = '?' ∨ c = '.' ∨ c = '!' := by
  simp [Question.isEndMark, or_assoc]

/-- End marks behind a text make no difference. -/
theorem append_marks {t marks : Text} (h : Unnumbered t)
    (hmarks : ∀ c ∈ marks, Question.isEndMark c = true) : Unnumbered (t ++ marks) where
  no_digit := by
    intro c hc
    rcases List.mem_append.mp hc with hc | hc
    · exact h.no_digit c hc
    · rcases isEndMark_iff.mp (hmarks c hc) with rfl | rfl | rfl <;> decide
  no_word := by
    intro word hword _
    have hmark : ∀ c, Question.isEndMark c = true → foldCase c = c ∧ c ∉ word := by
      intro c hc
      have hno : c.isAlphanum = false ∧ foldCase c = c := by
        rcases isEndMark_iff.mp hc with rfl | rfl | rfl <;> decide
      refine ⟨hno.2, fun hmem => ?_⟩
      rw [isAlphanum_of_mem_ordinal hword hmem] at hno
      exact Bool.noConfusion hno.1
    -- An end mark is in no word for a position, so a word would stand on one side of it.
    induction marks generalizing t with
    | nil =>
      rw [List.append_nil]
      exact h.no_ordinal word hword
    | cons m marks ih =>
      obtain ⟨hfold, hnot⟩ := hmark m (hmarks m List.mem_cons_self)
      have hmore := ih (t := []) ⟨nofun, by decide⟩ fun c hc => hmarks c (List.mem_cons_of_mem _ hc)
      rw [List.nil_append] at hmore
      rw [List.map_append, List.map_cons, hfold, ← contains_iff, contains_append hnot,
        Bool.or_eq_true, contains_iff, contains_iff, not_or]
      exact ⟨h.no_ordinal word hword, hmore⟩

end Unnumbered

namespace Question

/-! ### Phrases that read nothing with a value -/

/-- Nothing that a phrase reads in a text has a value. -/
def Phrase.Misses (phrase : Phrase) (t : Text) : Prop :=
  ∀ number rest, leftmost phrase.read? none t = some (number, rest) → phrase.value? number = none

/-- It is enough to look at the readings with a value. -/
theorem Phrase.misses_of {phrase : Phrase} {t : Text}
    (h : ∀ u v number rest, t = u ++ v → phrase.read? v = some (number, rest) →
      phrase.value? number ≠ none → False) : phrase.Misses t := by
  intro number rest hleftmost
  obtain ⟨u, v, ht, -, hread⟩ := exists_of_leftmost hleftmost
  by_contra hvalue
  exact h u v number rest ht hread hvalue

/-- A reader of numbers: what it reads has no white space, and is part of no unnumbered text if it
has a value. -/
def ReadsNumber (read? : Text → Option (Text × Text)) (value? : Text → Option Nat) : Prop :=
  ∀ t number rest, read? t = some (number, rest) → value? number ≠ none →
    ∃ read, t = read ++ rest ∧ (∀ c ∈ read, isBlank c = false) ∧
      ∀ u, Unnumbered u → ¬read <:+: u

/-- Digits with a value are part of no unnumbered text. -/
theorem not_infix_of_value {digits u : Text} (h : positionOfDigits? digits ≠ none)
    (hu : Unnumbered u) : ¬digits <:+: u := by
  intro hwithin
  obtain ⟨n, hn⟩ := Option.ne_none_iff_exists'.mp h
  obtain ⟨hne, hdigits, -⟩ := positionOfDigits?_eq_some_iff.mp hn
  obtain ⟨c, hc⟩ := List.exists_mem_of_ne_nil digits hne
  have hdigit := hu.no_digit c (hwithin.subset hc)
  rw [hdigits c hc] at hdigit
  cases hdigit

/-- What folds to a word has no white space, if the word has none. -/
theorem not_isBlank_of_map_foldCase {t w : Text} (h : t.map foldCase = w.map foldCase)
    (hw : (w.map foldCase).all (!isBlank ·) = true) {c : Char} (hc : c ∈ t) :
    isBlank c = false := by
  by_contra hblank
  have hgap : isBlank c = true := by simpa using hblank
  have hmem : foldCase c ∈ w.map foldCase := h ▸ List.mem_map_of_mem hc
  have hnot := List.all_eq_true.mp hw _ hmem
  rw [foldCase_of_isGap (isGap_of_isBlank hgap), hgap] at hnot
  cases hnot

theorem readsNumber_numeral : ReadsNumber afterOrdinalNumeral? positionOfDigits? := by
  intro t digits rest hread hvalue
  obtain ⟨ending, rfl, hdigits, -, w, hw, hending⟩ := afterOrdinalNumeral?_eq_some hread
  have hwords : ∀ w ∈ ordinalEndings, (w.map foldCase).all (!isBlank ·) = true := by decide
  refine ⟨digits ++ ending, (List.append_assoc _ _ _).symm, ?_, fun u hu hwithin => ?_⟩
  · intro c hc
    rcases List.mem_append.mp hc with hc | hc
    · exact not_isBlank_of_isDecimalDigit (hdigits c hc)
    · exact not_isBlank_of_map_foldCase hending (hwords w hw) hc
  · exact not_infix_of_value hvalue hu ((List.prefix_append _ _).isInfix.trans hwithin)

theorem readsNumber_word : ReadsNumber afterOrdinalWord? ordinalNumber? := by
  intro t word rest hread _
  obtain ⟨rfl, w, hw, hword⟩ := afterOneOf?_eq_some hread
  have hwords : ∀ w ∈ ordinals.map (·.1), (w.map foldCase).all (!isBlank ·) = true := by decide
  refine ⟨word, rfl, fun c hc => not_isBlank_of_map_foldCase hword (hwords w hw) hc,
    fun u hu hwithin => hu.no_ordinal w hw ?_⟩
  rw [← apart_ordinals.folded w hw, ← hword]
  exact hwithin.map foldCase

/-! ### A text with one number -/

/-- A part without white space that neither the front nor the back of a text has is within what
stands between the two. -/
theorem exists_of_between {front middle back u part v : Text}
    (h : front ++ (middle ++ ' ' :: back) = u ++ (part ++ v))
    (hfront : ∀ c ∈ front.getLast?, isBlank c = true) (hpart : ∀ c ∈ part, isBlank c = false)
    (hnotFront : ¬part <:+: front) (hnotBack : ¬part <:+: ' ' :: back) :
    ∃ before behind, middle = before ++ (part ++ behind) ∧ v = behind ++ ' ' :: back := by
  -- The part begins behind the front: it is not within it, and has not the white space at its end.
  obtain ⟨a, ha⟩ : ∃ a, middle ++ ' ' :: back = a ++ (part ++ v) := by
    rcases List.append_eq_append_iff.mp h with ⟨a, -, ha⟩ | ⟨c, hc, hrest⟩
    · exact ⟨a, ha⟩
    · rcases List.append_eq_append_iff.mp hrest with ⟨d, rfl, -⟩ | ⟨d, rfl, hd⟩
      · exact absurd ⟨u, d, by rw [hc, List.append_assoc]⟩ hnotFront
      · rcases List.eq_nil_or_concat c with rfl | ⟨c, e, rfl⟩
        · exact ⟨[], hd⟩
        · have hblank := hfront e (by simp [hc])
          rw [hpart e (by simp)] at hblank
          cases hblank
  -- It ends in front of the back, for the same reasons.
  rcases List.append_eq_append_iff.mp ha with ⟨d, -, hd⟩ | ⟨d, rfl, hd⟩
  · exact absurd ⟨d, v, by rw [hd, List.append_assoc]⟩ hnotBack
  · rcases List.append_eq_append_iff.mp hd with ⟨e, rfl, he⟩ | ⟨e, rfl, he⟩
    · exact ⟨a, e, rfl, he⟩
    · cases e with
      | nil => exact ⟨a, [], by simp, he.symm⟩
      | cons c e =>
        obtain ⟨rfl, -⟩ := List.cons.inj he
        have hspace : isBlank ' ' = true := by decide
        rw [hpart ' ' (by simp)] at hspace
        cases hspace

/-- **An ordinal in front of a noun is missed** if the only number has something else behind it. -/
theorem misses_beforeNoun {ordinal : Text → Option (Text × Text)} {value? : Text → Option Nat}
    (hordinal : ReadsNumber ordinal value?) {front middle back : Text} (hfront : Unnumbered front)
    (hlast : ∀ c ∈ front.getLast?, isBlank c = true) (hmiddle : ∀ c ∈ middle, isBlank c = false)
    (hback : Unnumbered back) (hnoun : afterNoun? nounsAfterOrdinal (trimStart back) = none) :
    Phrase.Misses ⟨beforeNoun ordinal, value?⟩ (front ++ (middle ++ ' ' :: back)) := by
  refine Phrase.misses_of fun u v number rest ht hread hvalue => ?_
  obtain ⟨⟨number', behind⟩, hnumber, hrest⟩ := Option.bind_eq_some_iff.mp hread
  obtain ⟨rest', hnounRead, heq⟩ := Option.map_eq_some_iff.mp hrest
  obtain ⟨rfl, rfl⟩ := Prod.mk.inj heq
  obtain ⟨part, rfl, hpart, hnowhere⟩ := hordinal v _ behind hnumber hvalue
  obtain ⟨start, more, hsplit, rfl⟩ := exists_of_between ht hlast hpart (hnowhere front hfront)
    (hnowhere _ hback.cons_space)
  -- White space must follow the number, so it reaches to the end of the part in the middle.
  cases more with
  | nil =>
    have hspace : isBlank ' ' = true := by decide
    rw [List.nil_append, afterBlanks?, if_pos hspace, Option.bind_some, hnoun] at hnounRead
    cases hnounRead
  | cons c more =>
    have hc : isBlank c = false := hmiddle c (by simp [hsplit])
    rw [List.cons_append, afterBlanks?, hc, if_neg Bool.false_ne_true] at hnounRead
    cases hnounRead

/-! ### Numerals -/

/-- **A noun in front of a number is missed** if the only number has letters behind it. -/
theorem misses_nounNumeral {front digits ending back : Text} (hfront : Unnumbered front)
    (hlast : ∀ c ∈ front.getLast?, isBlank c = true) (hdigits : ∀ c ∈ digits, c.isDigit = true)
    (hending : ∀ c ∈ ending, c.isAlpha = true) (hne : ending ≠ []) (hback : Unnumbered back) :
    Phrase.nounNumeral.Misses (front ++ (digits ++ ending ++ ' ' :: back)) := by
  refine Phrase.misses_of fun u v number rest ht hread hvalue => ?_
  obtain ⟨noun, rfl, -, hnumber, hall, hend⟩ := nounFirst_eq_some hread
  rw [← List.append_assoc u] at ht
  obtain ⟨start, more, hsplit, rfl⟩ := exists_of_between ht hlast
    (fun c hc => not_isBlank_of_isDecimalDigit (hall c hc)) (not_infix_of_value hvalue hfront)
    (not_infix_of_value hvalue hback.cons_space)
  cases more with
  | nil =>
    -- The number would reach to the end of the letters.
    have hlastNumber := List.getLast?_eq_getLast_of_ne_nil hnumber
    have hlastEnding := List.getLast?_eq_getLast_of_ne_nil hne
    have hends := congrArg List.getLast? hsplit
    rw [List.append_nil, List.getLast?_append_of_ne_nil _ hne,
      List.getLast?_append_of_ne_nil _ hnumber, hlastNumber, hlastEnding, Option.some_inj] at hends
    have hletter := not_isDecimalDigit_of_isAlpha (hending _ (List.getLast_mem hne))
    rw [hends, hall _ (List.getLast_mem hnumber)] at hletter
    cases hletter
  | cons c more =>
    -- The number would end at a digit or letter, and not at the end of a word.
    have hc : c ∈ digits ++ ending := by
      rw [hsplit]
      simp
    have hword : isWord c = true := by
      rcases List.mem_append.mp hc with hc | hc
      · exact isWord_of_isDecimalDigit (isDecimalDigit_of_isDigit (hdigits c hc))
      · exact isWord_of_isAlpha (hending c hc)
    have hnot : isWord c = false := hend c rfl
    rw [hword] at hnot
    cases hnot

/-- A phrase whose numbers are numerals of the text is missed in a text without digits. -/
theorem Phrase.misses_of_digits {phrase : Phrase} (hvalue : phrase.value? = positionOfDigits?)
    (hread : ∀ v digits rest, phrase.read? v = some (digits, rest) → digits <:+: v) {t : Text}
    (h : ∀ c ∈ t, c.isDigit = false) : phrase.Misses t := by
  refine Phrase.misses_of fun u v digits rest ht hphrase hposition => ?_
  rw [hvalue] at hposition
  obtain ⟨n, hn⟩ := Option.ne_none_iff_exists'.mp hposition
  obtain ⟨hne, hdigits, -⟩ := positionOfDigits?_eq_some_iff.mp hn
  obtain ⟨c, hc⟩ := List.exists_mem_of_ne_nil digits hne
  have hmem : c ∈ t := by
    rw [ht]
    exact List.mem_append_right _ ((hread v digits rest hphrase).subset hc)
  have hnot := h c hmem
  rw [hdigits c hc] at hnot
  cases hnot

/-- **The phrases with a numeral are missed in a text without digits.** -/
theorem misses_of_no_digit {t : Text} (h : ∀ c ∈ t, c.isDigit = false) :
    Phrase.numeralNoun.Misses t ∧ Phrase.nounNumeral.Misses t ∧ Phrase.requestNumeral.Misses t := by
  refine ⟨Phrase.misses_of_digits rfl ?_ h, Phrase.misses_of_digits rfl ?_ h,
    Phrase.misses_of_digits rfl ?_ h⟩
  · exact fun v digits rest hread => (setOff_beforeNoun ordinalAt_numeral hread).1.isInfix
  · exact fun v digits rest hread => (setOff_nounFirst hread).1.isInfix
  · exact fun v digits rest hread => (setOff_requested
      (fun _ => not_isDecimalDigit_of_not_isWord) ordinalAt_numeral hread).1.isInfix

end Question

end Notebook
