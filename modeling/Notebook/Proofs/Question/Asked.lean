import Notebook.Proofs.Question.Found

/-!
# Every question of a documented shape is positional (specification §4.4)

The phrases are tried one after the other, so the one that is asked for is only reached if those
before it are missed. They are, because the question has one number only, and what stands around it
fits no phrase that is tried earlier.

- `ofQuestion?_numeralNoun` and its four companions — the query of each phrase;
- `ItemQuery.ofQuestion?_of_asks` — every phrase that asks for a position is answered with it.
-/

namespace Notebook

open Text

namespace Question

/-! ### Positions missed -/

section MissesOfOthers

variable {front middle back : Text}

/-- Letters and unnumbered texts around them have no digit. -/
theorem no_digit_between (hfront : Unnumbered front) (hmiddle : ∀ c ∈ middle, c.isAlpha = true)
    (hback : Unnumbered back) : ∀ c ∈ front ++ (middle ++ ' ' :: back), c.isDigit = false := by
  intro c hc
  rcases List.mem_append.mp hc with hc | hc
  · exact hfront.no_digit c hc
  · rcases List.mem_append.mp hc with hc | hc
    · exact not_isDigit_of_isAlpha (hmiddle c hc)
    · exact hback.cons_space.no_digit c hc

/-- No preposition is a noun that would go with an ordinal. -/
theorem afterNoun?_preposition {preposition : Text} (h : Spells prepositions preposition)
    (rest : Text) :
    afterNoun? nounsAfterOrdinal (trimStart (preposition ++ ' ' :: rest)) = none := by
  have hletters := isAlpha_preposition h
  have hnot : ∀ p ∈ prepositions,
      (nounsAfterOrdinal.any fun noun => p = noun ∨ p = noun ++ ['s']) = false := by decide
  have hfold := apart_prepositions.map_foldCase h
  have htrim : trimStart (preposition ++ ' ' :: rest) = preposition ++ ' ' :: rest :=
    Option.some.inj (afterBlanks?_space_append hletters (ne_nil_of_spells (by decide) h) _)
  rw [htrim, afterNoun?_eq_none hletters (by rw [hfold]; exact hnot _ h)]

/-- What follows an ordinal that is asked for has no number in it, and does not begin with a noun
that would go with the ordinal. -/
theorem IsOne.exists_unnumbered {one preposition rest : Text} (hone : IsOne one)
    (hpreposition : Spells prepositions preposition)
    (hrest : Unnumbered (preposition ++ ' ' :: rest)) :
    ∃ back, one ++ ' ' :: (preposition ++ ' ' :: rest) = ' ' :: back ∧ Unnumbered back ∧
      afterNoun? nounsAfterOrdinal (trimStart back) = none := by
  rcases hone with rfl | ⟨w, hw, rfl⟩
  · exact ⟨preposition ++ ' ' :: rest, rfl, hrest, afterNoun?_preposition hpreposition rest⟩
  · refine ⟨w ++ ' ' :: (preposition ++ ' ' :: rest), rfl,
      .append_gap (by decide) (.of_spells (by decide) hw) hrest, ?_⟩
    have hletters : ∀ c ∈ w, c.isAlpha = true := fun c hc => isAlpha_of_spells (by decide) hw hc
    have hfold : w.map foldCase = "one".toList := by
      rw [map_foldCase_eq_map_toLower (by rw [List.mem_singleton.mp hw]; decide),
        List.mem_singleton.mp hw]
    have htrim : trimStart (w ++ ' ' :: (preposition ++ ' ' :: rest)) =
        w ++ ' ' :: (preposition ++ ' ' :: rest) :=
      Option.some.inj (afterBlanks?_space_append hletters (ne_nil_of_spells (by decide) hw) _)
    rw [htrim, afterNoun?_eq_none hletters (by rw [hfold]; decide)]

end MissesOfOthers

/-! ### The query of each phrase -/

section Query

variable {aside : Text} (haside : IsAside aside) {n : Nat}

include haside

theorem ofQuestion?_numeralNoun (hn : 1 ≤ n) (hle : n ≤ maxPosition) {ending noun : Text}
    (hending : Spells ordinalEndings ending) (hnoun : Spells nounsAfterOrdinal noun)
    (rest : Text) : ItemQuery.ofQuestion?
      (aside ++ (Text.ofNat n ++ ending ++ ' ' :: noun ++ ' ' :: rest)) =
        some ⟨n, topicAfter? (' ' :: rest)⟩ := by
  have hphrases : phrases = [] ++ Phrase.numeralNoun ::
      [.nounNumeral, .ordinalNoun, .requestNumeral, .requestOrdinal] := rfl
  exact ofQuestion?_of_finds hphrases nofun (finds_numeralNoun haside hn hle hending hnoun rest)

variable {preposition rest : Text} (hrest : Unnumbered (preposition ++ ' ' :: rest))

include hrest

theorem ofQuestion?_ordinalNoun {word noun : Text} (hword : (word.map Char.toLower, n) ∈ ordinals)
    (hletters : ∀ c ∈ word, c.isAlpha = true) (hnoun : Spells nounsAfterOrdinal noun) :
    ItemQuery.ofQuestion?
      (aside ++ (word ++ ' ' :: noun ++ ' ' :: (preposition ++ ' ' :: rest))) =
        some ⟨n, topicAfter? (' ' :: (preposition ++ ' ' :: rest))⟩ := by
  have hphrases : phrases = [.numeralNoun, .nounNumeral] ++ Phrase.ordinalNoun ::
      [.requestNumeral, .requestOrdinal] := rfl
  refine ofQuestion?_of_finds hphrases ?_
    (finds_ordinalNoun haside hword hnoun (preposition ++ ' ' :: rest))
  have hback : Unnumbered (noun ++ ' ' :: (preposition ++ ' ' :: rest)) :=
    .append_gap (by decide) (.of_spells (by decide) hnoun) hrest
  obtain ⟨hnumeral, hnounNumeral, -⟩ :=
    misses_of_no_digit (no_digit_between haside.unnumbered hletters hback)
  simpa using And.intro hnumeral hnounNumeral

variable (hpreposition : Spells prepositions preposition)

include hpreposition

theorem ofQuestion?_nounNumeral (hn : 1 ≤ n) (hle : n ≤ maxPosition) {noun sign : Text}
    (hnoun : Spells nounsBeforeNumber noun) (hsign : sign ∈ [[], ['#']]) : ItemQuery.ofQuestion?
      (aside ++ (noun ++ ' ' :: (sign ++ Text.ofNat n) ++ ' ' :: (preposition ++ ' ' :: rest))) =
        some ⟨n, topicAfter? (' ' :: (preposition ++ ' ' :: rest))⟩ := by
  have hphrases : phrases = [.numeralNoun] ++ Phrase.nounNumeral ::
      [.ordinalNoun, .requestNumeral, .requestOrdinal] := rfl
  refine ofQuestion?_of_finds hphrases ?_
    (finds_nounNumeral haside hn hle hnoun hsign (preposition ++ ' ' :: rest))
  -- What follows the number is a preposition, and no noun.
  have hfront : Unnumbered (aside ++ (noun ++ [' '])) :=
    haside.unnumbered.append haside.last
      (.append_gap (by decide) (.of_spells (by decide) hnoun) ⟨nofun, by decide⟩)
  have hlast : ∀ c ∈ (aside ++ (noun ++ [' '])).getLast?, isBlank c = true := by
    rw [← List.append_assoc, List.getLast?_concat]
    rintro c hc
    obtain rfl := Option.some.inj hc
    decide
  have hmiddle : ∀ c ∈ sign ++ Text.ofNat n, isBlank c = false := by
    intro c hc
    rcases List.mem_append.mp hc with hc | hc
    · rcases List.mem_pair.mp hsign with rfl | rfl
      · cases hc
      · rw [List.mem_singleton.mp hc]
        decide
    · exact isBlank_of_isDigit (isDigit_of_mem_ofNat hc)
  have hmisses := misses_beforeNoun readsNumber_numeral hfront hlast hmiddle hrest
    (afterNoun?_preposition hpreposition rest)
  simpa [Phrase.numeralNoun] using hmisses

variable {request one : Text} (hrequest : IsRequest request) (hone : IsOne one)

include hrequest hone

theorem ofQuestion?_requestNumeral (hn : 1 ≤ n) (hle : n ≤ maxPosition) {ending : Text}
    (hending : Spells ordinalEndings ending) : ItemQuery.ofQuestion?
      (aside ++ (request ++ (Text.ofNat n ++ ending ++ one) ++
        ' ' :: (preposition ++ ' ' :: rest))) =
        some ⟨n, topicAfter? (' ' :: (preposition ++ ' ' :: rest))⟩ := by
  have hphrases : phrases = [.numeralNoun, .nounNumeral, .ordinalNoun] ++
      Phrase.requestNumeral :: [.requestOrdinal] := rfl
  refine ofQuestion?_of_finds hphrases ?_
    (finds_requestNumeral haside hrequest hone hpreposition hn hle hending rest)
  obtain ⟨back, hsplit, hback, hnoun⟩ := hone.exists_unnumbered hpreposition hrest
  have hfront : Unnumbered (aside ++ request) :=
    haside.unnumbered.append haside.last hrequest.unnumbered
  have hlast : ∀ c ∈ (aside ++ request).getLast?, isBlank c = true :=
    forall_last_append haside.last hrequest.last
  have hletters : ∀ c ∈ ending, c.isAlpha = true :=
    fun c hc => isAlpha_of_spells (by decide) hending hc
  have hmiddle : ∀ c ∈ Text.ofNat n ++ ending, isBlank c = false := by
    intro c hc
    rcases List.mem_append.mp hc with hc | hc
    · exact isBlank_of_isDigit (isDigit_of_mem_ofNat hc)
    · exact not_isBlank_of_isAlpha (hletters c hc)
  have htext : aside ++ (request ++ (Text.ofNat n ++ ending ++ one) ++
      ' ' :: (preposition ++ ' ' :: rest)) =
        aside ++ request ++ (Text.ofNat n ++ ending ++ ' ' :: back) := by
    rw [← hsplit]
    simp
  rw [htext]
  -- The three phrases that are tried before find no noun next to the numeral.
  have hnumeral : Phrase.numeralNoun.Misses _ :=
    misses_beforeNoun readsNumber_numeral hfront hlast hmiddle hback hnoun
  have hnounNumeral := misses_nounNumeral hfront hlast
    (fun c hc => isDigit_of_mem_ofNat (n := n) hc) hletters (ne_nil_of_spells (by decide) hending)
    hback
  have hordinal : Phrase.ordinalNoun.Misses _ :=
    misses_beforeNoun readsNumber_word hfront hlast hmiddle hback hnoun
  simpa using And.intro hnumeral (And.intro hnounNumeral hordinal)

theorem ofQuestion?_requestOrdinal {word : Text} (hword : (word.map Char.toLower, n) ∈ ordinals)
    (hletters : ∀ c ∈ word, c.isAlpha = true) : ItemQuery.ofQuestion?
      (aside ++ (request ++ (word ++ one) ++ ' ' :: (preposition ++ ' ' :: rest))) =
        some ⟨n, topicAfter? (' ' :: (preposition ++ ' ' :: rest))⟩ := by
  have hphrases : phrases = [.numeralNoun, .nounNumeral, .ordinalNoun, .requestNumeral] ++
      Phrase.requestOrdinal :: [] := rfl
  refine ofQuestion?_of_finds hphrases ?_
    (finds_requestOrdinal haside hrequest hone hpreposition hword rest)
  obtain ⟨back, hsplit, hback, hnoun⟩ := hone.exists_unnumbered hpreposition hrest
  have hfront : Unnumbered (aside ++ request) :=
    haside.unnumbered.append haside.last hrequest.unnumbered
  have htext : aside ++ (request ++ (word ++ one) ++ ' ' :: (preposition ++ ' ' :: rest)) =
      aside ++ request ++ (word ++ ' ' :: back) := by
    rw [← hsplit]
    simp
  rw [htext]
  obtain ⟨hnumeral, hnounNumeral, hrequestNumeral⟩ :=
    misses_of_no_digit (no_digit_between hfront hletters hback)
  -- There is a word for a position, but no noun behind it.
  have hordinal : Phrase.ordinalNoun.Misses _ :=
    misses_beforeNoun readsNumber_word hfront (forall_last_append haside.last hrequest.last)
      (fun c hc => not_isBlank_of_isAlpha (hletters c hc)) hback hnoun
  simpa using And.intro hnumeral (And.intro hnounNumeral (And.intro hordinal hrequestNumeral))

end Query

end Question

open Question

/-- **A question of a documented shape is positional**, whatever stands before the phrase and
whatever its topic is, if there is no other number in it: it asks for the position of the phrase,
with the topic as it is written. -/
theorem ItemQuery.ofQuestion?_of_asks {aside phrase preposition topic marks : Text} {n : Nat}
    (haside : IsAside aside) (hphrase : Asks phrase n)
    (hpreposition : Spells prepositions preposition) (htopic : IsTopic topic)
    (hmarks : ∀ c ∈ marks, isEndMark c = true) :
    ofQuestion? (aside ++ (phrase ++ ' ' :: (preposition ++ ' ' :: (topic ++ marks)))) =
      some ⟨n, some topic⟩ := by
  have hrest := unnumbered_topic hpreposition htopic hmarks
  have htail : topicAfter? (' ' :: (preposition ++ ' ' :: (topic ++ marks))) = some topic :=
    topicAfter?_topic hpreposition htopic hmarks
  -- Words such as "3rd" are among the ordinals and are read by the phrases with numerals.
  cases hphrase with
  | numeralNoun hn hle hending hnoun =>
    rw [ofQuestion?_numeralNoun haside hn hle hending hnoun, htail]
  | nounNumeral hn hle hnoun hsign =>
    rw [ofQuestion?_nounNumeral haside hrest hpreposition hn hle hnoun hsign, htail]
  | ordinalNoun hword hnoun =>
    obtain ⟨-, hn, hle⟩ := position_of_ordinal hword
    rcases ordinal_cases hword with hletters | ⟨ending, hending, rfl⟩
    · rw [ofQuestion?_ordinalNoun haside hrest hword hletters hnoun, htail]
    · rw [ofQuestion?_numeralNoun haside hn hle hending hnoun, htail]
  | requestNumeral hn hle hrequest hending hone =>
    rw [ofQuestion?_requestNumeral haside hrest hpreposition hrequest hone hn hle hending, htail]
  | requestOrdinal hword hrequest hone =>
    obtain ⟨-, hn, hle⟩ := position_of_ordinal hword
    rcases ordinal_cases hword with hletters | ⟨ending, hending, rfl⟩
    · rw [ofQuestion?_requestOrdinal haside hrest hpreposition hrequest hone hword hletters, htail]
    · rw [ofQuestion?_requestNumeral haside hrest hpreposition hrequest hone hn hle hending, htail]

/-- A request in two words and a numeral with the word "one", in capitals and small letters. -/
theorem ItemQuery.ofQuestion?_of_asks_bread :
    ofQuestion? "So:\tWHAT IS the 12TH One from My bread?!".toList =
      some ⟨12, some "My bread".toList⟩ := by
  have haside : IsAside "So:\t".toList :=
    ⟨by simp, by simp [isBlank], ⟨by simp [Char.isDigit], by decide⟩⟩
  have hrequest : IsRequest "WHAT IS the ".toList :=
    @IsRequest.mk "WHAT IS".toList [] "the ".toList (by decide) (Or.inl rfl)
      (Or.inr ⟨"the".toList, by decide, rfl⟩)
  have hphrase : Asks "WHAT IS the 12TH One".toList 12 :=
    @Asks.requestNumeral 12 "WHAT IS the ".toList "TH".toList " One".toList (by decide)
      (by decide) hrequest (by decide) (Or.inr ⟨"One".toList, by decide, rfl⟩)
  have htopic : IsTopic "My bread".toList :=
    ⟨by decide, by decide, by decide, by simp [isEndMark], ⟨by simp [Char.isDigit], by decide⟩⟩
  have hmarks : ∀ c ∈ "?!".toList, isEndMark c = true := by simp [isEndMark]
  exact @ItemQuery.ofQuestion?_of_asks _ _ "from".toList _ _ _ haside hphrase (by decide) htopic
    hmarks

end Notebook
