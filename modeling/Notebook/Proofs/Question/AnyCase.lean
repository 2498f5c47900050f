import Notebook.Proofs.Question.Numeral
import Notebook.Proofs.Text.Keyword

/-!
# The words of a question, in any case

The words that a question is made of come from a few tables. A word of a table is read wherever it
stands, however its letters are written, since no word of a table begins another.

- `Spells` — a text is a word of a table, in any case of its ASCII letters;
- `Apart` — what the tables have in common: lower case, and no word that begins another;
- `after?_eq_none_iff`, `afterOneOf?_spelled` — reading one of several words;
- `afterNoun?_spelled`, `afterNoun?_eq_none` — reading a noun, or something else in its place;
- `skipWord_optional` — passing over a word that may be there.
-/

namespace Notebook

open Text

/-- A text is a word of a table, in any case of its ASCII letters. -/
def Spells (words : List Text) (t : Text) : Prop := t.map Char.toLower ∈ words

instance (words : List Text) (t : Text) : Decidable (Spells words t) :=
  inferInstanceAs (Decidable (t.map Char.toLower ∈ words))

namespace Text

/-- A keyword is not read exactly if the text does not begin with it, up to folding. -/
theorem after?_eq_none_iff {fold : Char → Char} {keyword t : Text} :
    after? fold keyword t = none ↔ ¬keyword.map fold <+: t.map fold := by
  rw [Option.eq_none_iff_forall_ne_some]
  constructor
  · rintro h ⟨rest, hrest⟩
    obtain ⟨head, tail, rfl, hhead, -⟩ := List.map_eq_append_iff.mp hrest.symm
    exact h tail (after?_eq_some_iff.mpr ⟨head, rfl, hhead⟩)
  · rintro h rest hrest
    obtain ⟨head, rfl, hhead⟩ := after?_eq_some_iff.mp hrest
    rw [List.map_append, hhead] at h
    exact h (List.prefix_append _ _)

end Text

namespace Question

/-! ### Tables -/

/-- Words in lower case, none of which begins another. -/
structure Apart (words : List Text) : Prop where
  folded : ∀ w ∈ words, w.map foldCase = w
  apart : ∀ w ∈ words, ∀ v ∈ words, w <+: v → w = v

theorem apart_ordinalEndings : Apart ordinalEndings := ⟨by decide, by decide⟩

theorem apart_nounsBeforeNumber : Apart nounsBeforeNumber := ⟨by decide, by decide⟩

theorem apart_prepositions : Apart prepositions := ⟨by decide, by decide⟩

theorem apart_askVerbs : Apart askVerbs := ⟨by decide, by decide⟩

theorem apart_ordinals : Apart (ordinals.map (·.1)) := ⟨by decide, by decide⟩

theorem Apart.map_foldCase {words : List Text} (h : Apart words) {t : Text}
    (ht : Spells words t) : t.map foldCase = t.map Char.toLower :=
  map_foldCase_eq_map_toLower (h.folded _ ht)

/-- A word of a table is read as itself, whatever follows it. -/
theorem afterOneOf?_spelled {words : List Text} (h : Apart words) {t : Text}
    (ht : Spells words t) (rest : Text) : afterOneOf? words (t ++ rest) = some (t, rest) := by
  have hfold := h.map_foldCase ht
  have hword : after? foldCase (t.map Char.toLower) (t ++ rest) = some rest :=
    after?_eq_some_iff.mpr ⟨t, rfl, by rw [h.folded _ ht, hfold]⟩
  refine findSome?_of_unique ht ?_ fun w hw => ?_
  · rw [hword, Option.map_some, List.length_map, List.take_left]
  · -- Two words that fit at one place begin one another.
    by_cases hfits : w <+: (t ++ rest).map foldCase
    · refine Or.inl ?_
      have hthis : t.map Char.toLower <+: (t ++ rest).map foldCase := by
        rw [List.map_append, hfold]
        exact List.prefix_append _ _
      rcases List.prefix_or_prefix_of_prefix hfits hthis with hprefix | hprefix
      · exact h.apart w hw _ ht hprefix
      · exact (h.apart _ ht w hw hprefix).symm
    · refine Or.inr ?_
      rw [after?_eq_none_iff.mpr (by rwa [h.folded w hw])]
      rfl

/-- A keyword without a space is looked for in front of a space. -/
theorem after?_space_eq_none {keyword t : Text} (hkeyword : ' ' ∉ keyword.map foldCase)
    (h : (keyword.map foldCase).isPrefixOf (t.map foldCase) = false) (rest : Text) :
    after? foldCase keyword (t ++ ' ' :: rest) = none := by
  have hspace : foldCase ' ' = ' ' := by decide
  rw [after?_eq_none_iff, List.map_append, List.map_cons, hspace, ← List.isPrefixOf_iff_prefix,
    isPrefixOf_append hkeyword, h]
  exact Bool.false_ne_true

/-! ### Words of letters -/

/-- The letters of a word are letters in any case. -/
theorem isAlpha_of_spells {words : List Text} (h : ∀ w ∈ words, w.all Char.isAlpha = true)
    {t : Text} (ht : Spells words t) {c : Char} (hc : c ∈ t) : c.isAlpha = true := by
  rw [← Char.isAlpha_toLower_eq_isAlpha]
  exact List.all_eq_true.mp (h _ ht) _ (List.mem_map_of_mem hc)

/-! ### Nouns -/

section Noun

variable {nouns : List Text} {t : Text}

theorem takeWhile_isWord_append (ht : ∀ c ∈ t, c.isAlpha = true) (rest : Text) :
    (t ++ ' ' :: rest).takeWhile isWord = t ∧
      (t ++ ' ' :: rest).dropWhile isWord = ' ' :: rest := by
  have hword : ∀ c ∈ t, isWord c = true := fun c hc => isWord_of_isAlpha (ht c hc)
  have hspace : ¬isWord ' ' = true := by decide
  constructor
  · rw [List.takeWhile_append_of_pos hword, List.takeWhile_cons_of_neg hspace, List.append_nil]
  · rw [List.dropWhile_append_of_pos hword, List.dropWhile_cons_of_neg hspace]

/-- A noun is read in any case, up to the space behind it. -/
theorem afterNoun?_spelled (h : ∀ w ∈ nouns, w.all Char.isAlpha = true ∧ w.map foldCase = w)
    (ht : Spells nouns t) (rest : Text) :
    afterNoun? nouns (t ++ ' ' :: rest) = some (' ' :: rest) := by
  obtain ⟨htake, hdrop⟩ :=
    takeWhile_isWord_append (fun c hc => isAlpha_of_spells (fun w hw => (h w hw).1) ht hc) rest
  have hfold := map_foldCase_eq_map_toLower (h _ ht).2
  have hany :
      nouns.any (fun noun => t.map foldCase = noun ∨ t.map foldCase = noun ++ ['s']) = true :=
    List.any_eq_true.mpr ⟨_, ht, by simp [hfold]⟩
  rw [afterNoun?, htake, hdrop]
  exact if_pos hany

/-- Another word in its place is no noun. -/
theorem afterNoun?_eq_none (ht : ∀ c ∈ t, c.isAlpha = true)
    (h : nouns.any (fun noun => t.map foldCase = noun ∨ t.map foldCase = noun ++ ['s']) = false)
    (rest : Text) : afterNoun? nouns (t ++ ' ' :: rest) = none := by
  obtain ⟨htake, -⟩ := takeWhile_isWord_append ht rest
  rw [afterNoun?, htake]
  exact if_neg (by simp only [h, Bool.false_eq_true, not_false_eq_true])

end Noun

/-! ### Spaces -/

/-- White space is passed over up to a character that is none. -/
theorem afterBlanks?_space {c : Char} (hc : isBlank c = false) (rest : Text) :
    afterBlanks? (' ' :: c :: rest) = some (c :: rest) := by
  have hspace : isBlank ' ' = true := by decide
  rw [afterBlanks?, if_pos hspace, trimStart, List.dropWhile_cons_of_neg (by simp [hc])]

theorem afterBlanks?_space_append {t : Text} (ht : ∀ c ∈ t, c.isAlpha = true) (hne : t ≠ [])
    (rest : Text) : afterBlanks? (' ' :: (t ++ rest)) = some (t ++ rest) := by
  obtain ⟨c, t, rfl⟩ := List.exists_cons_of_ne_nil hne
  exact afterBlanks?_space (not_isBlank_of_isAlpha (ht c List.mem_cons_self)) (t ++ rest)

/-- A word and a space, in any case, or nothing at all. -/
def Optionally (word t : Text) : Prop := t = [] ∨ ∃ w, Spells [word] w ∧ t = w ++ [' ']

/-- A word is read in any case. -/
theorem after?_spelled {word t : Text} (hword : word.map foldCase = word) (ht : Spells [word] t)
    (rest : Text) : after? foldCase word (t ++ rest) = some rest := by
  have hlower : t.map Char.toLower = word := List.mem_singleton.mp ht
  refine after?_eq_some_iff.mpr ⟨t, rfl, ?_⟩
  rw [hword, ← hlower]
  exact map_foldCase_eq_map_toLower (by rw [hlower, hword])

/-- A word that may be there is passed over, if the text goes on with something else. -/
theorem skipWord_optional {word t : Text} (hword : word.map foldCase = word)
    (ht : Optionally word t) {c : Char} {rest : Text} (hc : isBlank c = false)
    (hrest : after? foldCase word (c :: rest) = none) :
    skipWord word (t ++ c :: rest) = c :: rest := by
  rcases ht with rfl | ⟨w, hw, rfl⟩
  · rw [List.nil_append, skipWord, hrest]
    rfl
  · rw [List.append_assoc, List.singleton_append, skipWord, after?_spelled hword hw,
      Option.bind_some, afterBlanks?_space hc]
    rfl

end Question

end Notebook
