import Notebook.Proofs.Question.Aside

/-!
# The phrases of a question are found

Each of the five phrases is read where it stands in a question, whatever the case of its words, and
its number is valued as the position that it asks for.

- `Phrase.Finds` — a phrase reads a position in a text; `ofQuestion?_of_finds` says that the first
  that does makes the query;
- `beforeNoun_spelled`, `nounFirst_spelled`, `requested_spelled` — the parts of a phrase are read;
- `ordinal_cases` — a word for a position is made of letters, or it is a numeral with an ending;
- `finds_numeralNoun` and its four companions — each phrase is found behind an aside.
-/

namespace Notebook

open Text

namespace Question

/-! ### Finding a position -/

/-- A phrase reads a position in a text, and goes no further than `rest`. -/
def Phrase.Finds (phrase : Phrase) (t : Text) (n : Nat) (rest : Text) : Prop :=
  ∃ number, leftmost phrase.read? none t = some (number, rest) ∧ phrase.value? number = some n

/-- The first phrase that reads a position makes the query. -/
theorem ofQuestion?_of_finds {earlier later : List Phrase} {phrase : Phrase} {t rest : Text}
    {n : Nat} (hphrases : phrases = earlier ++ phrase :: later)
    (hmisses : ∀ e ∈ earlier, e.Misses t) (hfinds : phrase.Finds t n rest) :
    ItemQuery.ofQuestion? t = some ⟨n, topicAfter? rest⟩ := by
  obtain ⟨number, hread, hvalue⟩ := hfinds
  rw [ItemQuery.ofQuestion?, hphrases, List.findSome?_append, List.findSome?_eq_none_iff.mpr,
    Option.none_or, List.findSome?_cons, hread]
  · simp only [Option.bind_some, hvalue, Option.map_some]
  · intro e he
    rw [Option.bind_eq_none_iff]
    rintro ⟨number, rest⟩ hleftmost
    show (e.value? number).map _ = none
    rw [hmisses e he number rest hleftmost, Option.map_none]

/-! ### Reading a phrase -/

/-- An ordinal is read with the noun behind it. -/
theorem beforeNoun_spelled {ordinal : Text → Option (Text × Text)} {t number noun rest : Text}
    (hordinal : ordinal t = some (number, ' ' :: (noun ++ ' ' :: rest)))
    (hnoun : Spells nounsAfterOrdinal noun) :
    beforeNoun ordinal t = some (number, ' ' :: rest) := by
  have hletters : ∀ w ∈ nounsAfterOrdinal, w.all Char.isAlpha = true ∧ w.map foldCase = w := by
    decide
  have hblanks := afterBlanks?_space_append
    (fun c hc => isAlpha_of_spells (fun w hw => (hletters w hw).1) hnoun hc)
    (ne_nil_of_spells (by decide) hnoun) (' ' :: rest)
  rw [beforeNoun, hordinal, Option.bind_some]
  show ((afterBlanks? (' ' :: (noun ++ ' ' :: rest))).bind _).map _ = _
  rw [hblanks, Option.bind_some, afterNoun?_spelled hletters hnoun]
  rfl

theorem afterOrdinalNumeral?_spelled (n : Nat) {ending : Text} (h : Spells ordinalEndings ending)
    (rest : Text) :
    afterOrdinalNumeral? (Text.ofNat n ++ (ending ++ rest)) = some (Text.ofNat n, rest) := by
  obtain ⟨c, more, rfl⟩ := List.exists_cons_of_ne_nil (ne_nil_of_spells (by decide) h)
  have hc : isDecimalDigit c = false :=
    not_isDecimalDigit_of_isAlpha (isAlpha_of_spells (by decide) h List.mem_cons_self)
  rw [afterOrdinalNumeral?, List.cons_append, afterDigits?_ofNat n hc, Option.bind_some]
  show (afterOneOf? ordinalEndings (c :: more ++ rest)).map _ = _
  rw [afterOneOf?_spelled apart_ordinalEndings h]
  rfl

theorem nounFirst_spelled (n : Nat) {noun sign : Text} (hnoun : Spells nounsBeforeNumber noun)
    (hsign : sign ∈ [[], ['#']]) (rest : Text) :
    nounFirst (noun ++ ' ' :: (sign ++ (Text.ofNat n ++ ' ' :: rest))) =
      some (Text.ofNat n, ' ' :: rest) := by
  obtain ⟨d, digits, hdigits⟩ := List.exists_cons_of_ne_nil (ofNat_ne_nil n)
  have hd : d.isDigit = true :=
    isDigit_of_mem_ofNat (n := n) (by rw [hdigits]; exact List.mem_cons_self)
  have hspace : isBlank ' ' = true := by decide
  have hnumber : trimStart (Text.ofNat n ++ ' ' :: rest) = Text.ofNat n ++ ' ' :: rest := by
    rw [hdigits]
    exact List.dropWhile_cons_of_neg (by simp [isBlank_of_isDigit hd])
  -- With or without the number sign, the reader comes to the number.
  have hafter : (if (trimStart (' ' :: (sign ++ (Text.ofNat n ++ ' ' :: rest)))).head? = some '#'
      then trimStart (trimStart (' ' :: (sign ++ (Text.ofNat n ++ ' ' :: rest)))).tail
      else trimStart (' ' :: (sign ++ (Text.ofNat n ++ ' ' :: rest)))) =
        Text.ofNat n ++ ' ' :: rest := by
    have hskip : trimStart (' ' :: (sign ++ (Text.ofNat n ++ ' ' :: rest))) =
        sign ++ (Text.ofNat n ++ ' ' :: rest) := by
      rw [trimStart, List.dropWhile_cons_of_pos hspace]
      rcases List.mem_pair.mp hsign with rfl | rfl
      · exact hnumber
      · exact List.dropWhile_cons_of_neg (by decide)
    rw [hskip]
    rcases List.mem_pair.mp hsign with rfl | rfl
    · rw [List.nil_append]
      refine if_neg ?_
      rw [hdigits]
      rintro hsign
      obtain rfl := Option.some.inj hsign
      revert hd
      decide
    · exact (if_pos rfl).trans hnumber
  rw [nounFirst, afterOneOf?_spelled apart_nounsBeforeNumber hnoun, Option.bind_some]
  show (afterDigits? (if _ then _ else _)).bind _ = _
  rw [hafter, afterDigits?_ofNat n (by decide), Option.bind_some]
  rfl

/-- The word "one" behind an ordinal is passed over, but not the preposition of a topic. -/
theorem skipAskNoun_one {one preposition : Text} (hone : IsOne one)
    (hpreposition : Spells prepositions preposition) (rest : Text) :
    skipAskNoun (one ++ ' ' :: (preposition ++ ' ' :: rest)) =
      ' ' :: (preposition ++ ' ' :: rest) := by
  -- Without the word, what is tried as a noun is the preposition.
  rcases hone with rfl | ⟨w, hw, rfl⟩
  · have hletters := isAlpha_preposition hpreposition
    have hnot : ∀ p ∈ prepositions,
        (askNouns.any fun noun => p = noun ∨ p = noun ++ ['s']) = false := by decide
    have hfold := apart_prepositions.map_foldCase hpreposition
    rw [List.nil_append, skipAskNoun,
      afterBlanks?_space_append hletters (ne_nil_of_spells (by decide) hpreposition),
      Option.bind_some, afterNoun?_eq_none hletters (by rw [hfold]; exact hnot _ hpreposition)]
    rfl
  · have hletters : ∀ w ∈ askNouns, w.all Char.isAlpha = true ∧ w.map foldCase = w := by decide
    have hnoun : Spells askNouns w := by
      rw [Spells, List.mem_singleton.mp hw]
      decide
    rw [List.cons_append, skipAskNoun, afterBlanks?_space_append
        (fun c hc => isAlpha_of_spells (fun w hw => (hletters w hw).1) hnoun hc)
        (ne_nil_of_spells (by decide) hnoun),
      Option.bind_some, afterNoun?_spelled hletters hnoun]
    rfl

/-- What may be there does not start with white space, nor does what follows it. -/
theorem exists_cons_of_optionally {word t : Text} (hword : word.all Char.isAlpha = true)
    (hne : word ≠ []) (ht : Optionally word t) {c : Char} (hc : isBlank c = false) (rest : Text) :
    ∃ d more, t ++ c :: rest = d :: more ∧ isBlank d = false := by
  rcases ht with rfl | ⟨w, hw, rfl⟩
  · exact ⟨c, rest, rfl, hc⟩
  · obtain ⟨d, more, rfl⟩ := List.exists_cons_of_ne_nil
      (ne_nil_of_spells (by simpa using hne) hw)
    exact ⟨d, _, rfl, not_isBlank_of_isAlpha
      (isAlpha_of_spells (by simpa using hword) hw List.mem_cons_self)⟩

/-- The verb of a request is read, in one word or in two. -/
theorem afterVerb_request {verb : Text} (h : Spells requestVerbs verb) (rest : Text) :
    ((afterOneOf? askVerbs (verb ++ ' ' :: rest)).map (·.2) <|>
      ((after? foldCase "what".toList (verb ++ ' ' :: rest)).bind afterBlanks?).bind
        (after? foldCase "is".toList)) = some (' ' :: rest) := by
  rcases List.mem_append.mp h with hverb | hverb
  · rw [afterOneOf?_spelled apart_askVerbs hverb]
    rfl
  · have hlower : verb.map Char.toLower = "what is".toList := List.mem_singleton.mp hverb
    have hnone : afterOneOf? askVerbs (verb ++ ' ' :: rest) = none := by
      have hfold : verb.map foldCase = "what is".toList := by
        rw [← hlower]
        exact map_foldCase_eq_map_toLower (by rw [hlower]; decide)
      have hnot : ∀ w ∈ askVerbs, ' ' ∉ w.map foldCase ∧
          (w.map foldCase).isPrefixOf "what is".toList = false := by decide
      rw [afterOneOf?, List.findSome?_eq_none_iff]
      intro w hw
      rw [after?_space_eq_none (hnot w hw).1 (by rw [hfold]; exact (hnot w hw).2)]
      rfl
    -- The verb is two words with the space between them.
    have hwords : verb.map Char.toLower = "what".toList ++ ' ' :: "is".toList := hlower
    obtain ⟨what, behind, rfl, hwhat, hbehind⟩ := List.map_eq_append_iff.mp hwords
    obtain ⟨s, is, rfl, hs, his⟩ := List.map_eq_cons_iff.mp hbehind
    obtain rfl := eq_of_toLower_eq (by decide) hs
    have hisSpells : Spells ["is".toList] is := List.mem_singleton.mpr his
    have hspace : afterBlanks? (' ' :: (is ++ ' ' :: rest)) = some (is ++ ' ' :: rest) :=
      afterBlanks?_space_append (fun c hc => isAlpha_of_spells (by decide) hisSpells hc)
        (ne_nil_of_spells (by decide) hisSpells) _
    rw [hnone, List.append_assoc, List.cons_append,
      after?_spelled (by decide) (List.mem_singleton.mpr hwhat), Option.bind_some, hspace,
      Option.bind_some, after?_spelled (by decide) hisSpells]
    rfl

/-- A request is read up to the ordinal behind it. -/
theorem afterRequest?_request {request : Text} (h : IsRequest request) {c : Char} {rest : Text}
    (hc : isBlank c = false)
    (hrest : ∀ word ∈ ["me", "the"].map String.toList, after? foldCase word (c :: rest) = none) :
    afterRequest? (request ++ c :: rest) = some (c :: rest) := by
  obtain ⟨hverb, hme, hthe⟩ := h
  rename_i verb me the
  obtain ⟨d, behindThe, hd, hdBlank⟩ :=
    exists_cons_of_optionally (by decide) (by decide) hthe hc rest
  obtain ⟨e, behindMe, he, heBlank⟩ :=
    exists_cons_of_optionally (by decide) (by decide) hme hdBlank behindThe
  -- Behind a verb without "me" comes "the" or the ordinal, and neither begins with it.
  have hnotMe : after? foldCase "me".toList (d :: behindThe) = none := by
    rw [← hd]
    rcases hthe with rfl | ⟨w, hw, rfl⟩
    · exact hrest _ (by simp)
    · have hfold : w.map foldCase = "the".toList := by
        rw [← List.mem_singleton.mp hw]
        exact map_foldCase_eq_map_toLower (by rw [List.mem_singleton.mp hw]; decide)
      rw [List.append_assoc, List.singleton_append]
      exact after?_space_eq_none (by decide) (by rw [hfold]; decide) (c :: rest)
  have hskipMe : skipWord "me".toList (me ++ d :: behindThe) = d :: behindThe :=
    skipWord_optional (by decide) hme hdBlank hnotMe
  have hskipThe : skipWord "the".toList (the ++ c :: rest) = c :: rest :=
    skipWord_optional (by decide) hthe hc (hrest _ (by simp))
  have hsplit : verb ++ ' ' :: (me ++ the) ++ c :: rest =
      verb ++ ' ' :: (me ++ d :: behindThe) := by
    rw [← hd]
    simp
  have hblanks : afterBlanks? (' ' :: (me ++ d :: behindThe)) = some (me ++ d :: behindThe) := by
    rw [he]
    exact afterBlanks?_space heBlank behindMe
  rw [hsplit, afterRequest?, afterVerb_request hverb, Option.bind_some, hblanks, Option.map_some,
    hskipMe, ← hd, hskipThe]

/-! ### Words for positions -/

/-- A word for a position is made of letters, or it is the position in digits with an ending. -/
theorem ordinal_cases {word : Text} {n : Nat} (h : (word.map Char.toLower, n) ∈ ordinals) :
    (∀ c ∈ word, c.isAlpha = true) ∨
      ∃ ending, Spells ordinalEndings ending ∧ word = Text.ofNat n ++ ending := by
  have hcases : ∀ entry ∈ ordinals, entry.1.all Char.isAlpha = true ∨
      ∃ ending ∈ ordinalEndings, entry.1 = Text.ofNat entry.2 ++ ending := by decide
  rcases hcases _ h with hletters | ⟨ending, hending, heq⟩
  · refine Or.inl fun c hc => ?_
    rw [← Char.isAlpha_toLower_eq_isAlpha]
    exact List.all_eq_true.mp hletters _ (List.mem_map_of_mem hc)
  · obtain ⟨digits, ending', rfl, hdigits, rfl⟩ := List.map_eq_append_iff.mp heq
    refine Or.inr ⟨ending', hending, ?_⟩
    have hfixed : ∀ c ∈ digits, c.toLower = c := by
      intro c hc
      have hdigit : c.toLower.isDigit = true :=
        isDigit_of_mem_ofNat (n := n) (hdigits ▸ List.mem_map_of_mem hc)
      exact (eq_of_toLower_eq (not_isAlpha_of_isDigit hdigit) rfl).symm
    rw [← hdigits, List.map_congr_left hfixed, List.map_id']

theorem position_of_ordinal {word : Text} {n : Nat} (h : (word.map Char.toLower, n) ∈ ordinals) :
    ordinalNumber? word = some n ∧ 1 ≤ n ∧ n ≤ maxPosition := by
  have hvalue : ∀ entry ∈ ordinals,
      (ordinals.find? (·.1 = entry.1)).map (·.2) = some entry.2 ∧ 1 ≤ entry.2 ∧
        entry.2 ≤ maxPosition := by decide
  exact hvalue _ h

theorem spells_ordinals {word : Text} {n : Nat} (h : (word.map Char.toLower, n) ∈ ordinals) :
    Spells (ordinals.map (·.1)) word := List.mem_map_of_mem (f := (·.1)) h

/-! ### Requests -/

theorem last_of_optionally {word t : Text} (h : Optionally word t) :
    ∀ c ∈ t.getLast?, isBlank c = true := by
  rcases h with rfl | ⟨w, -, rfl⟩
  · exact nofun
  · rw [List.getLast?_concat]
    rintro c hc
    obtain rfl := Option.some.inj hc
    decide

theorem unnumbered_of_optionally {word t : Text} (hword : word.map foldCase = word ∧
    (word.all fun c => !c.isDigit) = true ∧ (ordinals.all fun (o, _) => !contains o word) = true)
    (h : Optionally word t) : Unnumbered t := by
  rcases h with rfl | ⟨w, hw, rfl⟩
  · exact ⟨nofun, by decide⟩
  · exact .append_gap (by decide) (.of_spells (by simpa using hword) hw) ⟨nofun, by decide⟩

section Request

variable {request : Text} (h : IsRequest request)

include h

theorem IsRequest.last : ∀ c ∈ request.getLast?, isBlank c = true := by
  obtain ⟨-, hme, hthe⟩ := h
  have hwords := forall_last_append (last_of_optionally hme) (last_of_optionally hthe)
  rw [List.append_cons]
  refine forall_last_append ?_ hwords
  rw [List.getLast?_concat]
  rintro c hc
  obtain rfl := Option.some.inj hc
  decide

theorem IsRequest.unnumbered : Unnumbered request := by
  obtain ⟨hverb, hme, hthe⟩ := h
  exact .append_gap (by decide) (.of_spells (by decide) hverb)
    (.append (unnumbered_of_optionally (by decide) hme) (last_of_optionally hme)
      (unnumbered_of_optionally (by decide) hthe))

theorem IsRequest.exists_cons : ∃ c more, request = c :: more ∧ c.isAlpha = true := by
  obtain ⟨hverb, -, -⟩ := h
  rename_i verb me the
  have hstart : ∀ w ∈ requestVerbs, w.head?.any Char.isAlpha = true := by decide
  have hletter := hstart _ hverb
  cases verb with
  | nil => cases hletter
  | cons c verb =>
    have hc : c.toLower.isAlpha = true := hletter
    exact ⟨c, _, rfl, by rwa [← Char.isAlpha_toLower_eq_isAlpha]⟩

/-- No other word of a question is the start of a request. -/
theorem IsRequest.after?_eq_none {word : Text}
    (hword : word ∈ ["is", "me", "the"].map String.toList ++ ordinals.map (·.1)) (rest : Text) :
    after? foldCase word (request ++ rest) = none := by
  obtain ⟨hverb, -, -⟩ := h
  rename_i verb me the
  have hnot : ∀ word ∈ ["is", "me", "the"].map String.toList ++ ordinals.map (·.1),
      ' ' ∉ word.map foldCase ∧
        ∀ verb ∈ requestVerbs, (word.map foldCase).isPrefixOf verb = false := by decide
  have hfolded : ∀ verb ∈ requestVerbs, verb.map foldCase = verb := by decide
  have hfold := map_foldCase_eq_map_toLower (hfolded _ hverb)
  rw [List.append_assoc, List.cons_append]
  exact after?_space_eq_none (hnot word hword).1
    (by rw [hfold]; exact (hnot word hword).2 _ hverb) _

end Request

/-- A word that begins with a letter is not read at a digit. -/
theorem after?_digit {word : Text} (hword : word.head?.any (fun k => (foldCase k).isAlpha) = true)
    {d : Char} (hd : d.isDigit = true) (rest : Text) :
    after? foldCase word (d :: rest) = none := by
  cases word with
  | nil => cases hword
  | cons k word =>
    refine if_neg fun heq => ?_
    have hletter : (foldCase k).isAlpha = true := hword
    have hdigit : d.isAlpha = false := not_isAlpha_of_isDigit hd
    have hself : foldCase d = d := by
      have hascii : d.toNat < 0x80 :=
        toNat_lt_of_isAlphanum (by rw [Char.isAlphanum, hd, Bool.or_true])
      rw [foldCase_of_ascii hascii, toLower_eq_self hdigit]
    rw [← heq, hself, hdigit] at hletter
    cases hletter

/-- Behind an ordinal there is a space, with or without the word "one". -/
theorem IsOne.exists_back {one : Text} (h : IsOne one) (rest : Text) :
    ∃ back, one ++ ' ' :: rest = ' ' :: back := by
  rcases h with rfl | ⟨w, -, rfl⟩
  · exact ⟨rest, rfl⟩
  · exact ⟨w ++ ' ' :: rest, rfl⟩

/-- An ordinal is read behind a request, with the word "one" behind it. -/
theorem requested_spelled {ordinal : Text → Option (Text × Text)}
    {request number text one preposition : Text} (hrequest : IsRequest request) (hone : IsOne one)
    (hpreposition : Spells prepositions preposition)
    (hordinal : ∀ rest, ordinal (text ++ ' ' :: rest) = some (number, ' ' :: rest))
    (hstart : text.head?.any (!isBlank ·) = true)
    (hnot : ∀ word ∈ ["me", "the"].map String.toList, ∀ rest,
      after? foldCase word (text ++ ' ' :: rest) = none) (rest : Text) :
    requested ordinal (request ++ (text ++ one) ++ ' ' :: (preposition ++ ' ' :: rest)) =
      some (number, ' ' :: (preposition ++ ' ' :: rest)) := by
  obtain ⟨back, hback⟩ := hone.exists_back (preposition ++ ' ' :: rest)
  -- What stands behind the ordinal begins with a space, with "one" or without.
  have hskip := skipAskNoun_one hone hpreposition rest
  rw [hback] at hskip
  have hsplit : request ++ (text ++ one) ++ ' ' :: (preposition ++ ' ' :: rest) =
      request ++ (text ++ ' ' :: back) := by
    rw [← hback]
    simp
  cases text with
  | nil => cases hstart
  | cons c more =>
    have hc : isBlank c = false := by simpa using hstart
    have hasked : afterRequest? (request ++ (c :: more ++ ' ' :: back)) =
        some (c :: more ++ ' ' :: back) :=
      afterRequest?_request hrequest hc fun word hword => hnot word hword back
    rw [hsplit, requested, hasked, Option.bind_some, hordinal, Option.bind_some]
    show (if isWord ' ' = true then none else some (number, skipAskNoun (' ' :: back))) = _
    rw [hskip]
    exact if_neg (by decide)

/-! ### Positions found -/

section Finds

variable {aside : Text} (haside : IsAside aside)

theorem beforeNoun_eq_none {ordinal : Text → Option (Text × Text)} {t : Text}
    (h : ordinal t = none) : beforeNoun ordinal t = none := by
  rw [beforeNoun, h]
  rfl

theorem afterOrdinalNumeral?_eq_none {t : Text} (h : afterDigits? t = none) :
    afterOrdinalNumeral? t = none := by
  rw [afterOrdinalNumeral?, h]
  rfl

include haside

theorem finds_numeralNoun {n : Nat} (hn : 1 ≤ n) (hle : n ≤ maxPosition) {ending noun : Text}
    (hending : Spells ordinalEndings ending) (hnoun : Spells nounsAfterOrdinal noun)
    (rest : Text) : Phrase.numeralNoun.Finds
      (aside ++ (Text.ofNat n ++ ending ++ ' ' :: noun ++ ' ' :: rest)) n (' ' :: rest) := by
  refine ⟨Text.ofNat n, leftmost_behind haside (by simp) (fun left hleft hne => ?_) ?_,
    positionOfDigits?_ofNat hn hle⟩
  · exact beforeNoun_eq_none (afterOrdinalNumeral?_eq_none (afterDigits?_aside haside hleft hne))
  · refine beforeNoun_spelled ?_ hnoun
    rw [List.append_assoc, List.append_assoc, List.cons_append]
    exact afterOrdinalNumeral?_spelled n hending _

theorem finds_nounNumeral {n : Nat} (hn : 1 ≤ n) (hle : n ≤ maxPosition) {noun sign : Text}
    (hnoun : Spells nounsBeforeNumber noun) (hsign : sign ∈ [[], ['#']]) (rest : Text) :
    Phrase.nounNumeral.Finds
      (aside ++ (noun ++ ' ' :: (sign ++ Text.ofNat n) ++ ' ' :: rest)) n (' ' :: rest) := by
  obtain ⟨c, more, hstart⟩ := List.exists_cons_of_ne_nil (ne_nil_of_spells (by decide) hnoun)
  have hc : c.isAlpha = true :=
    isAlpha_of_spells (by decide) hnoun (by rw [hstart]; exact List.mem_cons_self)
  refine ⟨Text.ofNat n, leftmost_behind haside (by simp) (fun left hleft hne => ?_) ?_,
    positionOfDigits?_ofNat hn hle⟩
  · rw [hstart]
    exact nounFirst_aside haside hc hleft hne
  · have hread := nounFirst_spelled n hnoun hsign rest
    have hsplit : noun ++ ' ' :: (sign ++ Text.ofNat n) ++ ' ' :: rest =
        noun ++ ' ' :: (sign ++ (Text.ofNat n ++ ' ' :: rest)) := by simp
    rw [hsplit]
    exact hread

theorem finds_ordinalNoun {n : Nat} {word noun : Text}
    (hword : (word.map Char.toLower, n) ∈ ordinals) (hnoun : Spells nounsAfterOrdinal noun)
    (rest : Text) : Phrase.ordinalNoun.Finds
      (aside ++ (word ++ ' ' :: noun ++ ' ' :: rest)) n (' ' :: rest) := by
  refine ⟨word, leftmost_behind haside (by simp) (fun left hleft hne => ?_) ?_,
    (position_of_ordinal hword).1⟩
  · exact beforeNoun_eq_none (afterOrdinalWord?_aside haside hleft hne)
  · refine beforeNoun_spelled ?_ hnoun
    rw [List.append_assoc, List.cons_append]
    exact afterOneOf?_spelled apart_ordinals (spells_ordinals hword) _

variable {request one preposition : Text} (hrequest : IsRequest request) (hone : IsOne one)
  (hpreposition : Spells prepositions preposition)

include hrequest hone hpreposition

theorem requested_behind {ordinal : Text → Option (Text × Text)} {number text : Text}
    (hordinal : ∀ rest, ordinal (text ++ ' ' :: rest) = some (number, ' ' :: rest))
    (hstart : text.head?.any (!isBlank ·) = true)
    (hnot : ∀ word ∈ ["me", "the"].map String.toList, ∀ rest,
      after? foldCase word (text ++ ' ' :: rest) = none)
    (haside' : ∀ {back t : Text}, Ahead aside (request ++ back) t → ordinal t = none)
    (rest : Text) : leftmost (requested ordinal) none
      (aside ++ (request ++ (text ++ one) ++ ' ' :: (preposition ++ ' ' :: rest))) =
        some (number, ' ' :: (preposition ++ ' ' :: rest)) := by
  obtain ⟨c, more, hrequestStart, hc⟩ := hrequest.exists_cons
  refine leftmost_behind haside (by simp) (fun left hleft hne => ?_)
    (requested_spelled hrequest hone hpreposition hordinal hstart hnot rest)
  rw [List.append_assoc request]
  -- Wherever the request is looked for in the aside, its words end before the request begins.
  have hback : ∀ word ∈ ["is", "me", "the"].map String.toList, ∀ back,
      after? foldCase word (request ++ back) = none :=
    fun word hword back => hrequest.after?_eq_none (List.mem_append_left _ hword) back
  rw [hrequestStart] at hback haside' ⊢
  exact requested_aside haside hc hleft hne (fun word hword => hback word hword _) fun t => haside'

theorem finds_requestNumeral {n : Nat} (hn : 1 ≤ n) (hle : n ≤ maxPosition) {ending : Text}
    (hending : Spells ordinalEndings ending) (rest : Text) : Phrase.requestNumeral.Finds
      (aside ++ (request ++ (Text.ofNat n ++ ending ++ one) ++ ' ' :: (preposition ++ ' ' :: rest)))
      n (' ' :: (preposition ++ ' ' :: rest)) := by
  obtain ⟨d, digits, hdigits⟩ := List.exists_cons_of_ne_nil (ofNat_ne_nil n)
  have hd : d.isDigit = true :=
    isDigit_of_mem_ofNat (n := n) (by rw [hdigits]; exact List.mem_cons_self)
  refine ⟨Text.ofNat n, requested_behind haside hrequest hone hpreposition ?_ ?_ ?_ ?_ rest,
    positionOfDigits?_ofNat hn hle⟩
  · intro rest
    rw [List.append_assoc]
    exact afterOrdinalNumeral?_spelled n hending (' ' :: rest)
  · rw [hdigits]
    simp [isBlank_of_isDigit hd]
  · intro word hword rest
    have hletters : ∀ word ∈ ["me", "the"].map String.toList,
        word.head?.any (fun k => (foldCase k).isAlpha) = true := by decide
    rw [hdigits]
    exact after?_digit (hletters word hword) hd _
  · -- No numeral starts in the aside or at the request.
    intro back t hahead
    obtain ⟨c, more, hstart, hc⟩ := hrequest.exists_cons
    rw [hstart] at hahead
    exact afterOrdinalNumeral?_eq_none (hahead.no_digits haside hc)

theorem finds_requestOrdinal {n : Nat} {word : Text}
    (hword : (word.map Char.toLower, n) ∈ ordinals) (rest : Text) : Phrase.requestOrdinal.Finds
      (aside ++ (request ++ (word ++ one) ++ ' ' :: (preposition ++ ' ' :: rest)))
      n (' ' :: (preposition ++ ' ' :: rest)) := by
  refine ⟨word, requested_behind haside hrequest hone hpreposition ?_ ?_ ?_ ?_ rest,
    (position_of_ordinal hword).1⟩
  · exact fun rest => afterOneOf?_spelled apart_ordinals (spells_ordinals hword) (' ' :: rest)
  · have hstart : ∀ w ∈ ordinals.map (·.1), w.head?.any Char.isAlphanum = true := by decide
    have hlower := hstart _ (spells_ordinals hword)
    cases word with
    | nil => cases hlower
    | cons c word =>
      have hc : c.toLower.isAlphanum = true := hlower
      rw [isAlphanum_toLower] at hc
      simp [not_isBlank_of_isAlphanum hc]
  · intro other hother rest
    have hnot : ∀ other ∈ ["me", "the"].map String.toList, ' ' ∉ other.map foldCase ∧
        ∀ w ∈ ordinals.map (·.1), (other.map foldCase).isPrefixOf w = false := by decide
    have hfold := apart_ordinals.map_foldCase (spells_ordinals hword)
    exact after?_space_eq_none (hnot other hother).1
      (by rw [hfold]; exact (hnot other hother).2 _ (spells_ordinals hword)) rest
  · -- A word for a position would be part of the aside if it started there; none is a request.
    rintro back t ⟨left, hleft, rfl⟩
    by_cases hne : left = []
    · subst hne
      rw [List.nil_append, Option.eq_none_iff_forall_ne_some]
      rintro ⟨read, rest⟩ hread
      obtain ⟨w, hw, hafter⟩ := after?_of_afterOneOf? hread
      rw [hrequest.after?_eq_none (List.mem_append_right _ hw)] at hafter
      cases hafter
    · exact afterOrdinalWord?_aside haside hleft hne

end Finds

end Question

end Notebook
