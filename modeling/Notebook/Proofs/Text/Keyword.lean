import Mathlib
import Notebook.Proofs.Text.Gap

/-!
# Keywords and letter case

- `eq_of_foldCase_eq`, `isAlpha_of_foldCase_eq` — what folds to a character: only the character
  itself if it is no letter, and only a letter if it is one with a single lower-case form;
- `toLower_eq_foldCase`, `foldCase_eq_toLower` — when folding is lower-casing;
- `eq_or_eq_of_foldCase_eq` — what folds to a small letter: the letter and its capital;
- `isWord_of_foldsToAlphanumeric` — what folds to a letter or digit is a word character;
- `isDecimalDigit_of_isDigit`, `not_isDecimalDigit_of_isAlpha` — digits, letters and white space are
  three kinds of characters;
- `findSome?_of_unique` — looking through a table of which one entry gives a result;
- `Text.after?_append` — a keyword is looked for in a text up to a character that is not in it;
- `Text.contains_iff`, `contains_append` — the same for a part anywhere in a text;
- `Text.splitOnce?_append` — cutting a text behind such a character.
-/

namespace Notebook

/-! ### Letter case -/

/-- Letters and digits of ASCII are among its code points. -/
theorem toNat_lt_of_isAlphanum {c : Char} (h : c.isAlphanum = true) : c.toNat < 128 := by
  simp only [Char.isAlphanum, Char.isAlpha, Char.isUpper, Char.isLower, Char.isDigit,
    Bool.or_eq_true, Bool.and_eq_true, decide_eq_true_eq, UInt32.le_iff_toNat_le] at h
  have hc : c.toNat = c.val.toNat := rfl
  have hz : 'z'.val.toNat = 122 := rfl
  have hZ : 'Z'.val.toNat = 90 := rfl
  have h9 : '9'.val.toNat = 57 := rfl
  omega

theorem isAlphanum_of_isAlpha {c : Char} (h : c.isAlpha = true) : c.isAlphanum = true := by
  rw [Char.isAlphanum, h, Bool.true_or]

theorem toNat_lt_of_isAlpha {c : Char} (h : c.isAlpha = true) : c.toNat < 128 :=
  toNat_lt_of_isAlphanum (isAlphanum_of_isAlpha h)

/-- Only letters have a lower case of their own. -/
theorem toLower_eq_self {c : Char} (h : c.isAlpha = false) : c.toLower = c := by
  rw [Char.isAlpha, Bool.or_eq_false_iff] at h
  refine Char.toLower_eq_of_not_isUpper ?_
  rw [h.1]
  exact Bool.false_ne_true

theorem isAlphanum_toLower (c : Char) : c.toLower.isAlphanum = c.isAlphanum := by
  by_cases h : c.isAlpha = true
  · have hlower : c.toLower.isAlpha = true := (Char.isAlpha_toLower_eq_isAlpha c).trans h
    rw [Char.isAlphanum, Char.isAlphanum, h, hlower, Bool.true_or, Bool.true_or]
  · rw [toLower_eq_self (by simpa using h)]

/-- What folds to a character that is no letter is that character. -/
theorem eq_of_foldCase_eq {c d : Char} (hd : d.isAlpha = false) (h : foldCase c = d) : c = d := by
  unfold foldCase at h
  split at h
  · rw [← h] at hd
    cases hd
  · split at h
    · rw [← h] at hd
      cases hd
    · have hc : c.isAlpha = false := by rw [← Char.isAlpha_toLower_eq_isAlpha, h, hd]
      rwa [toLower_eq_self hc] at h

theorem eq_of_toLower_eq {c d : Char} (hd : d.isAlpha = false) (h : c.toLower = d) : c = d := by
  have hc : c.isAlpha = false := by rw [← Char.isAlpha_toLower_eq_isAlpha, h, hd]
  rwa [toLower_eq_self hc] at h

/-- What folds to a letter is a letter, but for the two letters that something else folds to. -/
theorem isAlpha_of_foldCase_eq {c d : Char} (hd : d.isAlpha = true) (hs : d ≠ 's') (hk : d ≠ 'k')
    (h : foldCase c = d) : c.isAlpha = true := by
  unfold foldCase at h
  split at h
  · exact absurd h.symm hs
  · split at h
    · exact absurd h.symm hk
    · rw [← Char.isAlpha_toLower_eq_isAlpha, h, hd]

/-- What lower-cases to a character that folding leaves alone folds to it as well. -/
theorem foldCase_eq_toLower {c : Char} (h : foldCase c.toLower = c.toLower) :
    foldCase c = c.toLower := by
  have hlong : c ≠ '\u017F' := by
    rintro rfl
    revert h
    decide
  have hkelvin : c ≠ '\u212A' := by
    rintro rfl
    revert h
    decide
  rw [foldCase, if_neg hlong, if_neg hkelvin]

theorem map_foldCase_eq_map_toLower {t : Text}
    (h : (t.map Char.toLower).map foldCase = t.map Char.toLower) :
    t.map foldCase = t.map Char.toLower := by
  refine List.map_congr_left fun c hc => foldCase_eq_toLower ?_
  have hfixed := List.map_eq_map_iff.mp (h.trans (List.map_id _).symm)
  exact hfixed _ (List.mem_map_of_mem hc)

/-- Besides a small letter itself, only its capital has it as lower case. -/
theorem eq_or_eq_of_toLower_eq {c lower upper : Char} (h : c.toLower = lower)
    (hupper : upper.toNat + 32 = lower.toNat) : c = lower ∨ c = upper := by
  by_cases hc : c.isUpper = true
  · right
    have hlt : c.toNat < 128 := toNat_lt_of_isAlpha (by rw [Char.isAlpha, hc, Bool.true_or])
    have hnat : (Char.ofNat (c.toNat + 32)).toNat = c.toNat + 32 := by
      rw [Char.toNat_ofNat, if_pos (Or.inl (by omega))]
    rw [Char.toLower_eq_of_isUpper hc] at h
    rw [h] at hnat
    exact Char.toNat_inj.mp (by omega)
  · left
    rwa [Char.toLower_eq_of_not_isUpper hc] at h

/-- Folding is lower-casing, but for the two letters that something else folds to. -/
theorem toLower_eq_foldCase {c : Char} (hs : foldCase c ≠ 's') (hk : foldCase c ≠ 'k') :
    c.toLower = foldCase c := by
  unfold foldCase at hs hk ⊢
  split at hs
  · exact absurd rfl hs
  · split at hk
    · contradiction
    · split at hk
      · exact absurd rfl hk
      · rw [if_neg ‹_›, if_neg ‹_›]

/-- Besides a small letter that nothing else folds to, only its capital folds to it. -/
theorem eq_or_eq_of_foldCase_eq {c lower upper : Char} (h : foldCase c = lower) (hs : lower ≠ 's')
    (hk : lower ≠ 'k') (hupper : upper.toNat + 32 = lower.toNat) : c = lower ∨ c = upper := by
  refine eq_or_eq_of_toLower_eq ?_ hupper
  rw [← h] at hs hk
  exact (toLower_eq_foldCase hs hk).trans h

theorem map_toLower_eq_map_foldCase {t : Text} (hs : 's' ∉ t.map foldCase)
    (hk : 'k' ∉ t.map foldCase) : t.map Char.toLower = t.map foldCase := by
  refine List.map_congr_left fun c hc => toLower_eq_foldCase ?_ ?_
  · exact fun h => hs (h ▸ List.mem_map_of_mem hc)
  · exact fun h => hk (h ▸ List.mem_map_of_mem hc)

/-- A letter or digit of ASCII is a word character. -/
theorem isWord_of_isAlphanum {c : Char} (h : c.isAlphanum = true) : isWord c = true := by
  unfold isWord
  rw [if_pos (toNat_lt_of_isAlphanum h), h, Bool.true_or]

theorem isWord_of_isAlpha {c : Char} (h : c.isAlpha = true) : isWord c = true :=
  isWord_of_isAlphanum (isAlphanum_of_isAlpha h)

/-- A letter or digit of ASCII is no white space. -/
theorem not_isBlank_of_isAlphanum {c : Char} (h : c.isAlphanum = true) : isBlank c = false :=
  not_isBlank_of_isWord (isWord_of_isAlphanum h)

theorem not_isBlank_of_isAlpha {c : Char} (h : c.isAlpha = true) : isBlank c = false :=
  not_isBlank_of_isWord (isWord_of_isAlpha h)

/-- What folds to a letter or digit is a word character. -/
theorem isWord_of_foldsToAlphanumeric {c : Char} (h : foldsToAlphanumeric c = true) :
    isWord c = true := by
  unfold foldsToAlphanumeric foldCase at h
  split at h
  · rename_i hc
    subst hc
    decide +kernel
  · split at h
    · rename_i hc
      subst hc
      decide +kernel
    · rw [isAlphanum_toLower] at h
      exact isWord_of_isAlphanum h

/-- A letter or digit of ASCII folds to one. -/
theorem foldsToAlphanumeric_of_isAlphanum {c : Char} (h : c.isAlphanum = true) :
    foldsToAlphanumeric c = true := by
  unfold foldsToAlphanumeric
  rw [foldCase_of_ascii (toNat_lt_of_isAlphanum h), isAlphanum_toLower, h]

/-- A gap folds to no letter or digit. -/
theorem not_foldsToAlphanumeric_of_isGap {c : Char} (h : isGap c = true) :
    foldsToAlphanumeric c = false := by
  by_contra hfold
  have hword := isWord_of_foldsToAlphanumeric (Bool.eq_true_of_not_eq_false hfold)
  rw [isWord_of_isGap h] at hword
  cases hword

/-- Nor is it a letter. -/
theorem not_isAlpha_of_isGap {c : Char} (h : isGap c = true) : c.isAlpha = false := by
  by_contra halpha
  have hword := isWord_of_isAlpha (Bool.eq_true_of_not_eq_false halpha)
  rw [isWord_of_isGap h] at hword
  cases hword

/-! ### Digits -/

theorem toNat_of_isDigit {c : Char} (h : c.isDigit = true) : 0x30 ≤ c.toNat ∧ c.toNat < 0x3A := by
  simp only [Char.isDigit, Bool.and_eq_true, decide_eq_true_eq, UInt32.le_iff_toNat_le] at h
  have hc : c.toNat = c.val.toNat := rfl
  have h0 : '0'.val.toNat = 48 := rfl
  have h9 : '9'.val.toNat = 57 := rfl
  omega

theorem not_isDecimalDigit_of_not_isWord {c : Char} (h : isWord c = false) :
    isDecimalDigit c = false := by
  cases hdigit : isDecimalDigit c with
  | false => rfl
  | true =>
    rw [isWord_of_isDecimalDigit hdigit] at h
    cases h

theorem isDecimalDigit_of_isDigit {c : Char} (h : c.isDigit = true) : isDecimalDigit c = true := by
  have hascii : c.toNat < 0x80 := by
    have := toNat_of_isDigit h
    omega
  rw [isDecimalDigit, if_pos hascii, h]

theorem isBlank_of_isDigit {c : Char} (h : c.isDigit = true) : isBlank c = false := by
  have := toNat_of_isDigit h
  simp only [isBlank, Bool.or_eq_false_iff, Bool.and_eq_false_imp, decide_eq_true_eq,
    decide_eq_false_iff_not, beq_eq_false_iff_ne]
  omega

/-- A letter is no digit. -/
theorem not_isDecimalDigit_of_isAlpha {c : Char} (h : c.isAlpha = true) :
    isDecimalDigit c = false := by
  rw [isDecimalDigit, if_pos (toNat_lt_of_isAlpha h)]
  by_contra hdigit
  have hrange := toNat_of_isDigit (by simpa using hdigit)
  simp only [Char.isAlpha, Char.isUpper, Char.isLower, Bool.or_eq_true, Bool.and_eq_true,
    decide_eq_true_eq, UInt32.le_iff_toNat_le] at h
  have hc : c.toNat = c.val.toNat := rfl
  have hA : 'A'.val.toNat = 65 := rfl
  have ha : 'a'.val.toNat = 97 := rfl
  omega

theorem not_isDigit_of_isAlpha {c : Char} (h : c.isAlpha = true) : c.isDigit = false := by
  by_contra hdigit
  have hnot := not_isDecimalDigit_of_isAlpha h
  rw [isDecimalDigit_of_isDigit (Bool.eq_true_of_not_eq_false hdigit)] at hnot
  cases hnot

theorem not_isAlpha_of_isDigit {c : Char} (h : c.isDigit = true) : c.isAlpha = false := by
  by_contra hletter
  rw [not_isDigit_of_isAlpha (Bool.eq_true_of_not_eq_false hletter)] at h
  cases h

/-! ### Tables -/

/-- The only entry of a table that gives a result gives the result of the table. -/
theorem findSome?_of_unique {α β : Type} {f : α → Option β} {l : List α} {a : α} {b : β}
    (hmem : a ∈ l) (ha : f a = some b) (hother : ∀ c ∈ l, c = a ∨ f c = none) :
    l.findSome? f = some b := by
  induction l with
  | nil => cases hmem
  | cons c l ih =>
    rw [List.findSome?_cons]
    rcases hother c List.mem_cons_self with rfl | hc
    · rw [ha]
    · rw [hc]
      have hne : a ≠ c := by
        rintro rfl
        rw [ha] at hc
        cases hc
      exact ih ((List.mem_cons.mp hmem).resolve_left hne)
        fun d hd => hother d (List.mem_cons_of_mem _ hd)

namespace Text

/-! ### Keywords at the start -/

/-- A keyword that a character is no spelling of a part of is looked for before that character. -/
theorem after?_append {fold : Char → Char} {keyword u v : Text} {g : Char}
    (h : ∀ k ∈ keyword, fold g ≠ fold k) :
    after? fold keyword (u ++ g :: v) = (after? fold keyword u).map (· ++ g :: v) := by
  induction keyword generalizing u with
  | nil => rfl
  | cons k ks ih =>
    cases u with
    | nil => exact if_neg (h k List.mem_cons_self)
    | cons c u =>
      have hks : ∀ k ∈ ks, fold g ≠ fold k := fun k hk => h k (List.mem_cons_of_mem _ hk)
      rw [List.cons_append, after?, after?]
      split
      · exact ih hks
      · rfl

/-- A keyword without gaps is looked for before a gap. -/
theorem after?_append_gap {fold : Char → Char} {keyword : Text} {g : Char} (hg : isGap g = true)
    (hfold : fold g = g) (h : keyword.all (fun k => !isGap (fold k)) = true) (u v : Text) :
    after? fold keyword (u ++ g :: v) = (after? fold keyword u).map (· ++ g :: v) := by
  refine after?_append fun k hk heq => ?_
  have hk' := List.all_eq_true.mp h k hk
  rw [← heq, hfold, hg] at hk'
  cases hk'

/-- The same for a space, which is no spelling of anything else. -/
theorem after?_append_space {fold : Char → Char} {keyword : Text} (hspace : fold ' ' = ' ')
    (h : ' ' ∉ keyword.map fold) (u v : Text) :
    after? fold keyword (u ++ ' ' :: v) = (after? fold keyword u).map (· ++ ' ' :: v) := by
  refine after?_append fun k hk heq => h ?_
  rw [← hspace, heq]
  exact List.mem_map_of_mem hk

theorem afterExact?_append {part u v : Text} {g : Char} (h : g ∉ part) :
    afterExact? part (u ++ g :: v) = (afterExact? part u).map (· ++ g :: v) :=
  after?_append fun k hk (heq : g = k) => h (heq ▸ hk)

/-! ### Parts anywhere -/

/-- A text contains its infixes. -/
theorem contains_iff {part t : Text} : contains part t = true ↔ part <:+: t := by
  induction t with
  | nil => rw [contains, List.isEmpty_iff, List.infix_nil]
  | cons c rest ih =>
    rw [contains, Bool.or_eq_true, List.isPrefixOf_iff_prefix, ih, List.infix_cons_iff]

theorem contains_eq_false {part t : Text} {c : Char} (hc : c ∈ part) (ht : c ∉ t) :
    contains part t = false := by
  by_contra hcontains
  have hpart := contains_iff.mp (by simpa using hcontains)
  exact ht (hpart.subset hc)

theorem isPrefixOf_append {part u v : Text} {g : Char} (h : g ∉ part) :
    part.isPrefixOf (u ++ g :: v) = part.isPrefixOf u := by
  induction part generalizing u with
  | nil => rfl
  | cons p part ih =>
    have hp : g ≠ p := fun heq => h (heq ▸ List.mem_cons_self)
    have hpart : g ∉ part := fun hmem => h (List.mem_cons_of_mem _ hmem)
    cases u with
    | nil =>
      show ((p == g) && part.isPrefixOf v) = false
      rw [beq_eq_false_iff_ne.mpr (Ne.symm hp), Bool.false_and]
    | cons c u => exact congrArg ((p == c) && ·) (ih hpart)

/-- A part without the character between two texts is contained in one of them. -/
theorem contains_append {part u v : Text} {g : Char} (h : g ∉ part) :
    contains part (u ++ g :: v) = (contains part u || contains part v) := by
  induction u with
  | nil =>
    have hstarts : part.isPrefixOf (g :: v) = part.isEmpty := by
      have := isPrefixOf_append (u := []) (v := v) h
      rw [List.nil_append] at this
      rw [this]
      cases part <;> rfl
    show (part.isPrefixOf (g :: v) || contains part v) = (part.isEmpty || contains part v)
    rw [hstarts]
  | cons c u ih =>
    have hstarts := isPrefixOf_append (u := c :: u) (v := v) h
    rw [List.cons_append] at hstarts ⊢
    rw [contains, contains, hstarts, ih, Bool.or_assoc]

/-- A text is not cut if it lacks a character of the separator. -/
theorem splitOnce?_eq_none {sep t : Text} {c : Char} (hc : c ∈ sep) (ht : c ∉ t) :
    splitOnce? sep t = none := by
  induction t with
  | nil => rfl
  | cons d rest ih =>
    have hafter : afterExact? sep (d :: rest) = none := by
      refine Option.eq_none_iff_forall_ne_some.mpr fun tail htail => ht ?_
      obtain ⟨head, hsplit, hhead⟩ := after?_eq_some_iff.mp htail
      rw [List.map_id, List.map_id] at hhead
      rw [hsplit, hhead]
      exact List.mem_append_left _ hc
    rw [splitOnce?, hafter, ih fun hmem => ht (List.mem_cons_of_mem _ hmem)]
    rfl

/-- A text is cut behind a character that the separator has not, if the separator is not before
it. -/
theorem splitOnce?_append {sep u v : Text} {g : Char} (hg : g ∉ sep)
    (hu : contains sep u = false) (hsep : sep ≠ []) :
    splitOnce? sep (u ++ g :: v) = (splitOnce? sep v).map fun (head, tail) =>
      (u ++ g :: head, tail) := by
  induction u with
  | nil =>
    have hnone : afterExact? sep (g :: v) = none := by
      have := afterExact?_append (u := []) (v := v) hg
      rw [List.nil_append] at this
      rw [this]
      cases sep with
      | nil => exact absurd rfl hsep
      | cons s sep => rfl
    rw [List.nil_append, splitOnce?, hnone]
    rfl
  | cons c u ih =>
    rw [contains, Bool.or_eq_false_iff] at hu
    -- The separator is not here, and it cannot reach over the character behind the text.
    have hnone : afterExact? sep (c :: u) = none := by
      cases hafter : afterExact? sep (c :: u) with
      | none => rfl
      | some rest =>
        obtain ⟨head, hhead, hmap⟩ := after?_eq_some_iff.mp hafter
        rw [List.map_id, List.map_id] at hmap
        subst hmap
        have hstarts : head.isPrefixOf (c :: u) = true := by
          rw [hhead, List.isPrefixOf_iff_prefix]
          exact List.prefix_append head rest
        rw [hstarts] at hu
        cases hu.1
    have hnone' := afterExact?_append (u := c :: u) (v := v) hg
    rw [hnone, Option.map_none] at hnone'
    rw [List.cons_append] at hnone' ⊢
    rw [splitOnce?, hnone', ih hu.2, Option.map_map]
    rfl

end Text

end Notebook
