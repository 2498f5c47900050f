import Notebook.Proofs.Question.Shapes

/-!
# Nothing is read in front of a phrase

A phrase is looked for from left to right. What stands in front of it ends in white space and has no
number in it, so a phrase that began there would have to go on behind it, with a number where the
phrase that is asked for starts with something else.

- `Ahead` — a text is what is left of an aside and what follows it;
- `after?_aside`, `Ahead.of_after?` — a word that starts in an aside ends in it;
- `nounFirst_aside`, `requested_aside` — no phrase starts in an aside;
- `leftmost_behind` — so a phrase is read where it starts.
-/

namespace Notebook

open Text

namespace Question

/-! ### In front of a phrase -/

/-- A text is what is left of an aside and what follows it. -/
def Ahead (aside back t : Text) : Prop := ∃ left, left <:+ aside ∧ t = left ++ back

section Ahead

variable {aside back t : Text}

theorem Ahead.of_trimStart {c : Char} {more : Text} (hc : c.isAlpha = true)
    (h : Ahead aside (c :: more) t) : Ahead aside (c :: more) (trimStart t) := by
  obtain ⟨left, hleft, rfl⟩ := h
  have hback : ¬isBlank c = true := by simp [not_isBlank_of_isAlpha hc]
  rw [trimStart, List.dropWhile_append]
  split
  · exact ⟨[], List.nil_suffix, List.dropWhile_cons_of_neg hback⟩
  · exact ⟨_, (List.dropWhile_suffix _).trans hleft, rfl⟩

theorem Ahead.of_afterBlanks? {c : Char} {more rest : Text} (hc : c.isAlpha = true)
    (h : Ahead aside (c :: more) t) (hread : afterBlanks? t = some rest) :
    Ahead aside (c :: more) rest := by
  obtain ⟨left, hleft, rfl⟩ := h
  cases left with
  | nil =>
    rw [List.nil_append, afterBlanks?, not_isBlank_of_isAlpha hc,
      if_neg Bool.false_ne_true] at hread
    cases hread
  | cons d left =>
    rw [List.cons_append, afterBlanks?] at hread
    split at hread
    · obtain rfl := Option.some.inj hread
      exact Ahead.of_trimStart hc ⟨left, (List.suffix_cons d left).trans hleft, rfl⟩
    · cases hread

variable (haside : IsAside aside)

include haside

/-- A word that starts in an aside ends in it. -/
theorem after?_aside {left keyword rest : Text} (hleft : left <:+ aside) (hne : left ≠ [])
    (hkeyword : (keyword.map foldCase).all (!isBlank ·) = true)
    (h : after? foldCase keyword (left ++ back) = some rest) :
    Ahead aside back rest ∧ keyword.map foldCase <:+: aside.map foldCase := by
  -- An aside ends in white space, which is in no keyword, so the keyword ends in front of it.
  obtain ⟨front, c, rfl⟩ := (List.eq_nil_or_concat left).resolve_left hne
  rw [List.concat_eq_append] at hleft h
  have hblank : isBlank c = true := by
    obtain ⟨before, hsplit⟩ := hleft
    exact haside.last c (by rw [← hsplit]; simp)
  have hnot : ∀ k ∈ keyword, foldCase c ≠ foldCase k := by
    intro k hk heq
    have hfold := List.all_eq_true.mp hkeyword _ (List.mem_map_of_mem hk)
    rw [← heq, foldCase_of_isGap (isGap_of_isBlank hblank), hblank] at hfold
    cases hfold
  rw [List.append_assoc, List.singleton_append, after?_append hnot] at h
  obtain ⟨more, hmore, rfl⟩ := Option.map_eq_some_iff.mp h
  obtain ⟨head, rfl, hhead⟩ := after?_eq_some_iff.mp hmore
  refine ⟨⟨more ++ [c], ?_, by simp⟩, ?_⟩
  · rw [List.append_assoc] at hleft
    exact (List.suffix_append head _).trans hleft
  · rw [← hhead]
    have hwithin : head <:+: aside := by
      rw [List.append_assoc] at hleft
      exact (List.prefix_append head _).isInfix.trans hleft.isInfix
    exact hwithin.map foldCase

/-- No number starts in an aside. -/
theorem afterDigits?_aside {left : Text} (hleft : left <:+ aside) (hne : left ≠ []) :
    afterDigits? (left ++ back) = none := by
  obtain ⟨c, rest, rfl⟩ := List.exists_cons_of_ne_nil hne
  have hmem : c ∈ aside := hleft.subset List.mem_cons_self
  have hc : ¬isDecimalDigit c = true := by
    rw [isDecimalDigit, if_pos (haside.ascii c hmem), haside.unnumbered.no_digit c hmem]
    exact Bool.false_ne_true
  rw [afterDigits?, List.cons_append, List.takeWhile_cons_of_neg hc]

theorem afterOrdinalWord?_aside {left : Text} (hleft : left <:+ aside) (hne : left ≠ []) :
    afterOrdinalWord? (left ++ back) = none := by
  rw [Option.eq_none_iff_forall_ne_some]
  rintro ⟨word, rest⟩ hread
  obtain ⟨w, hw, hafter⟩ := after?_of_afterOneOf? hread
  have hblanks : ∀ w ∈ ordinals.map (·.1), (w.map foldCase).all (!isBlank ·) = true := by decide
  obtain ⟨-, hwithin⟩ := after?_aside haside hleft hne (hblanks w hw) hafter
  rw [apart_ordinals.folded w hw] at hwithin
  exact haside.unnumbered.no_ordinal w hw hwithin

/-! ### Reading on from an aside

The text behind the aside starts with a letter, as nouns and requests do. -/

variable {c : Char} {more : Text} (hc : c.isAlpha = true)

include hc

theorem Ahead.no_digits (h : Ahead aside (c :: more) t) : afterDigits? t = none := by
  obtain ⟨left, hleft, rfl⟩ := h
  by_cases hne : left = []
  · subst hne
    have hdigit : ¬isDecimalDigit c = true := by simp [not_isDecimalDigit_of_isAlpha hc]
    rw [List.nil_append, afterDigits?, List.takeWhile_cons_of_neg hdigit]
  · exact afterDigits?_aside haside hleft hne

theorem nounFirst_aside {left : Text} (hleft : left <:+ aside) (hne : left ≠ []) :
    nounFirst (left ++ c :: more) = none := by
  rw [Option.eq_none_iff_forall_ne_some]
  rintro ⟨digits, rest⟩ hread
  obtain ⟨⟨word, behind⟩, hword, hmore⟩ := Option.bind_eq_some_iff.mp hread
  obtain ⟨⟨digits', rest'⟩, hdigits, -⟩ := Option.bind_eq_some_iff.mp hmore
  obtain ⟨w, hw, hafter⟩ := after?_of_afterOneOf? hword
  have hblanks : ∀ w ∈ nounsBeforeNumber, (w.map foldCase).all (!isBlank ·) = true := by decide
  obtain ⟨hbehind, -⟩ := after?_aside haside hleft hne (hblanks w hw) hafter
  have hnext := Ahead.of_trimStart hc hbehind
  -- No number sign takes the reader past the aside, since a letter follows that.
  have hlast : Ahead aside (c :: more) (if (trimStart behind).head? = some '#'
      then trimStart (trimStart behind).tail else trimStart behind) := by
    split
    · rename_i hsign
      obtain ⟨left', hleft', heq⟩ := hnext
      cases left' with
      | nil =>
        rw [heq, List.nil_append, List.head?_cons, Option.some_inj] at hsign
        have hletter : ('#').isAlpha = false := by decide
        rw [hsign, hletter] at hc
        cases hc
      | cons d left' =>
        rw [heq]
        exact Ahead.of_trimStart hc ⟨left', (List.suffix_cons d left').trans hleft', rfl⟩
    · exact hnext
  rw [Ahead.no_digits haside hc hlast] at hdigits
  cases hdigits

omit hc in
/-- A word that is not read behind an aside ends in it, if it is read at all. -/
theorem Ahead.of_after? {keyword rest : Text} (h : Ahead aside (c :: more) t)
    (hkeyword : (keyword.map foldCase).all (!isBlank ·) = true)
    (hback : after? foldCase keyword (c :: more) = none)
    (hread : after? foldCase keyword t = some rest) : Ahead aside (c :: more) rest := by
  obtain ⟨left, hleft, rfl⟩ := h
  by_cases hne : left = []
  · subst hne
    rw [List.nil_append, hback] at hread
    cases hread
  · exact (after?_aside haside hleft hne hkeyword hread).1

theorem Ahead.of_skipWord {word : Text} (h : Ahead aside (c :: more) t)
    (hword : (word.map foldCase).all (!isBlank ·) = true)
    (hback : after? foldCase word (c :: more) = none) :
    Ahead aside (c :: more) (skipWord word t) := by
  unfold skipWord
  cases hskip : (after? foldCase word t).bind afterBlanks? with
  | none => exact h
  | some rest =>
    obtain ⟨behind, hread, hblanks⟩ := Option.bind_eq_some_iff.mp hskip
    exact (h.of_after? haside hword hback hread).of_afterBlanks? hc hblanks

/-- A request that starts in an aside ends in it, if what follows does not go on with it. -/
theorem afterRequest?_aside {left rest : Text} (hleft : left <:+ aside) (hne : left ≠ [])
    (hback : ∀ word ∈ ["is", "me", "the"].map String.toList,
      after? foldCase word (c :: more) = none)
    (hread : afterRequest? (left ++ c :: more) = some rest) : Ahead aside (c :: more) rest := by
  obtain ⟨asked, hasked, rfl⟩ := Option.map_eq_some_iff.mp hread
  obtain ⟨behind, hverb, hblanks⟩ := Option.bind_eq_some_iff.mp hasked
  have hbehind : Ahead aside (c :: more) behind := by
    rcases (Option.orElse_eq_some _ _ _).mp hverb with hverb | ⟨-, hverb⟩
    · obtain ⟨⟨word, rest⟩, hword, rfl⟩ := Option.map_eq_some_iff.mp hverb
      obtain ⟨w, hw, hafter⟩ := after?_of_afterOneOf? hword
      have hverbs : ∀ w ∈ askVerbs, (w.map foldCase).all (!isBlank ·) = true := by decide
      exact (after?_aside haside hleft hne (hverbs w hw) hafter).1
    · obtain ⟨afterWhat, hwhat, his⟩ := Option.bind_eq_some_iff.mp hverb
      obtain ⟨rest, hwhat, hspace⟩ := Option.bind_eq_some_iff.mp hwhat
      have hrest := (after?_aside haside hleft hne (by decide) hwhat).1
      exact (hrest.of_afterBlanks? hc hspace).of_after? haside (by decide) (hback _ (by simp)) his
  exact ((hbehind.of_afterBlanks? hc hblanks).of_skipWord haside hc (by decide)
    (hback _ (by simp))).of_skipWord haside hc (by decide) (hback _ (by simp))

theorem requested_aside {ordinal : Text → Option (Text × Text)} {left : Text}
    (hleft : left <:+ aside) (hne : left ≠ [])
    (hback : ∀ word ∈ ["is", "me", "the"].map String.toList,
      after? foldCase word (c :: more) = none)
    (hordinal : ∀ t, Ahead aside (c :: more) t → ordinal t = none) :
    requested ordinal (left ++ c :: more) = none := by
  rw [Option.eq_none_iff_forall_ne_some]
  rintro ⟨number, rest⟩ hread
  obtain ⟨⟨number', rest'⟩, hnumber, -⟩ := Option.bind_eq_some_iff.mp hread
  obtain ⟨asked, hasked, hordinalRead⟩ := Option.bind_eq_some_iff.mp hnumber
  rw [hordinal asked (afterRequest?_aside haside hc hleft hne hback hasked)] at hordinalRead
  cases hordinalRead

end Ahead

/-! ### The leftmost reading -/

/-- Where nothing is read, the leftmost reading comes later. -/
theorem leftmost_append {α : Type} {read? : Text → Option α} {front back : Text}
    (h : ∀ left, left <:+ front → left ≠ [] → read? (left ++ back) = none)
    (before : Option Char) :
    leftmost read? before (front ++ back) = leftmost read? (lastOf before front) back := by
  induction front generalizing before with
  | nil => rfl
  | cons c front ih =>
    have hhere : read? (c :: (front ++ back)) = none :=
      h (c :: front) List.suffix_rfl (List.cons_ne_nil c front)
    rw [List.cons_append, leftmost, hhere, ite_self]
    exact ih (fun left hleft => h left (hleft.trans (List.suffix_cons c front))) (some c)

/-- A phrase is read behind an aside in which it is not read. -/
theorem leftmost_behind {α : Type} {read? : Text → Option α} {aside back : Text} {a : α}
    (haside : IsAside aside) (hne : back ≠ [])
    (h : ∀ left, left <:+ aside → left ≠ [] → read? (left ++ back) = none)
    (hread : read? back = some a) : leftmost read? none (aside ++ back) = some a := by
  have hboundary : (lastOf none aside).any isWord = false := by
    rcases List.eq_nil_or_concat aside with rfl | ⟨front, c, rfl⟩
    · rfl
    · rw [List.concat_eq_append, lastOf_concat]
      exact isWord_of_isGap (isGap_of_isBlank (haside.last c (by simp)))
  obtain ⟨c, rest, rfl⟩ := List.exists_cons_of_ne_nil hne
  rw [leftmost_append h, leftmost, hboundary, if_neg Bool.false_ne_true, hread]

end Question

end Notebook
