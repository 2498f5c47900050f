import Notebook.Proofs.Question.Misses

/-!
# The letter case of a question

The readers of questions compare letters up to folding, and whatever else they ask of a character
holds of a letter in either case or in neither. So they commute with writing a text in lower case:
what is read in the lower-cased question is what is read in the question itself, in lower case.

- `Text.small` — a text with its ASCII letters in lower case; `isBlank_toLower` and its companions
  say that a property of characters does not see the difference;
- `takeWhile_small`, `trim_small` and so on — the operations on texts commute with it;
- `Question.afterRequest?_small` and its companions — and the readers of the parts of a question;
- `ItemQuery.ofQuestion?_small` — the query of a lower-cased question is the query of the question
  with its topic in lower case.
-/

namespace Notebook

/-! ### Properties of characters -/

/-- What is the same for all letters does not see their case. -/
theorem eq_toLower_of_letters {β : Type} {p : Char → β} {b : β}
    (h : ∀ c : Char, c.isAlpha = true → p c = b) (c : Char) : p c.toLower = p c := by
  by_cases hc : c.isAlpha = true
  · rw [h c hc, h c.toLower ((Char.isAlpha_toLower_eq_isAlpha c).trans hc)]
  · rw [toLower_eq_self (by simpa using hc)]

@[simp] theorem isBlank_toLower (c : Char) : isBlank c.toLower = isBlank c :=
  eq_toLower_of_letters (fun _ => not_isBlank_of_isAlpha) c

@[simp] theorem isWord_toLower (c : Char) : isWord c.toLower = isWord c :=
  eq_toLower_of_letters (fun _ => isWord_of_isAlpha) c

@[simp] theorem isDecimalDigit_toLower (c : Char) : isDecimalDigit c.toLower = isDecimalDigit c :=
  eq_toLower_of_letters (fun _ => not_isDecimalDigit_of_isAlpha) c

@[simp] theorem isDigit_toLower (c : Char) : c.toLower.isDigit = c.isDigit :=
  eq_toLower_of_letters (fun _ => not_isDigit_of_isAlpha) c

/-- A character that is no letter is recognised in a lower-cased text. -/
theorem toLower_eq_iff {c d : Char} (hd : d.isAlpha = false) : c.toLower = d ↔ c = d := by
  refine ⟨eq_of_toLower_eq hd, ?_⟩
  rintro rfl
  exact toLower_eq_self hd

@[simp] theorem foldCase_toLower (c : Char) : foldCase c.toLower = foldCase c := by
  by_cases hc : c.isAlpha = true
  · have hlower : c.toLower.isAlpha = true := (Char.isAlpha_toLower_eq_isAlpha c).trans hc
    rw [foldCase_of_ascii (toNat_lt_of_isAlpha hc), foldCase_of_ascii (toNat_lt_of_isAlpha hlower),
      Char.toLower_toLower_eq_toLower]
  · rw [toLower_eq_self (by simpa using hc)]

@[simp] theorem isEndMark_toLower (c : Char) :
    Question.isEndMark c.toLower = Question.isEndMark c := by
  have hquestion : c.toLower = '?' ↔ c = '?' := toLower_eq_iff (by decide)
  have hstop : c.toLower = '.' ↔ c = '.' := toLower_eq_iff (by decide)
  have hcall : c.toLower = '!' ↔ c = '!' := toLower_eq_iff (by decide)
  rw [Bool.eq_iff_iff, Unnumbered.isEndMark_iff, Unnumbered.isEndMark_iff, hquestion, hstop, hcall]

/-! ### Texts in lower case -/

namespace Text

/-- A text with its ASCII letters in lower case. -/
def small (t : Text) : Text := t.map Char.toLower

@[simp] theorem small_cons (c : Char) (t : Text) : small (c :: t) = c.toLower :: small t := rfl

@[simp] theorem small_small (t : Text) : small (small t) = small t := by
  rw [small, small, List.map_map]
  exact List.map_congr_left fun c _ => Char.toLower_toLower_eq_toLower c

@[simp] theorem small_eq_nil {t : Text} : small t = [] ↔ t = [] := List.map_eq_nil_iff

@[simp] theorem map_foldCase_small (t : Text) : (small t).map foldCase = t.map foldCase := by
  rw [small, List.map_map]
  exact List.map_congr_left fun c _ => foldCase_toLower c

section Edges

variable {p : Char → Bool} (h : ∀ c : Char, p c.toLower = p c) (t : Text)
include h

theorem takeWhile_small : (small t).takeWhile p = small (t.takeWhile p) := by
  rw [small, List.takeWhile_map, small]
  exact congrArg (List.map _ <| List.takeWhile · t) (funext h)

theorem dropWhile_small : (small t).dropWhile p = small (t.dropWhile p) := by
  rw [small, List.dropWhile_map, small]
  exact congrArg (List.map _ <| List.dropWhile · t) (funext h)

theorem dropEndWhile_small : dropEndWhile p (small t) = small (dropEndWhile p t) := by
  have hback := congrArg List.reverse (dropWhile_small h t.reverse)
  rw [dropEndWhile_eq_rdropWhile, dropEndWhile_eq_rdropWhile, List.rdropWhile, List.rdropWhile]
  simpa only [small, List.map_reverse] using hback

end Edges

theorem trimStart_small (t : Text) : trimStart (small t) = small (trimStart t) :=
  dropWhile_small isBlank_toLower t

theorem trim_small (t : Text) : trim (small t) = small (trim t) := by
  rw [trim, trimStart_small, trimEnd, dropEndWhile_small isBlank_toLower, trim, trimEnd]

theorem startsWord_small (t : Text) : startsWord (small t) = startsWord t := by
  cases t with
  | nil => rfl
  | cons c rest => exact isWord_toLower c

end Text

/-! ### The readers of a question -/

namespace Question

open Text

theorem after?_small (keyword t : Text) :
    after? foldCase keyword (small t) = (after? foldCase keyword t).map small := by
  induction keyword generalizing t with
  | nil => rfl
  | cons k keyword ih =>
    cases t with
    | nil => rfl
    | cons c rest =>
      rw [small_cons, after?, after?, foldCase_toLower]
      split
      · exact ih rest
      · rfl

theorem afterBlanks?_small (t : Text) : afterBlanks? (small t) = (afterBlanks? t).map small := by
  cases t with
  | nil => rfl
  | cons c rest =>
    rw [small_cons, afterBlanks?, afterBlanks?, isBlank_toLower, trimStart_small]
    split <;> rfl

/-- Reading on behind a reader that commutes with a change commutes with it as well. -/
theorem bind_map_of_commutes {α β : Type} {f : α → α} {g : β → β} {k : α → Option β}
    (hk : ∀ a, k (f a) = (k a).map g) (o : Option α) : (o.map f).bind k = (o.bind k).map g := by
  cases o with
  | none => rfl
  | some a => exact hk a

/-- Reading on behind a word commutes with lower case if it does so from every word on. -/
theorem bind_map_small {β : Type} {g : β → β} {k : Text × Text → Option β}
    (hk : ∀ word rest, k (small word, small rest) = (k (word, rest)).map g)
    (o : Option (Text × Text)) : (o.map (Prod.map small small)).bind k = (o.bind k).map g :=
  bind_map_of_commutes (Prod.rec hk) o

theorem skipWord_small (word t : Text) : skipWord word (small t) = small (skipWord word t) := by
  rw [skipWord, after?_small, bind_map_of_commutes afterBlanks?_small, Option.getD_map, skipWord]

theorem afterNoun?_small (nouns : List Text) (t : Text) :
    afterNoun? nouns (small t) = (afterNoun? nouns t).map small := by
  rw [afterNoun?, afterNoun?, takeWhile_small isWord_toLower, dropWhile_small isWord_toLower,
    map_foldCase_small]
  split <;> rfl

theorem skipAskNoun_small (t : Text) : skipAskNoun (small t) = small (skipAskNoun t) := by
  rw [skipAskNoun, afterBlanks?_small, bind_map_of_commutes (afterNoun?_small askNouns),
    Option.getD_map, skipAskNoun]

/-- A reader that finds in a lower-cased text what it finds in the text itself, in lower case. -/
def IgnoresCase (read? : Text → Option (Text × Text)) : Prop :=
  ∀ t, read? (small t) = (read? t).map (Prod.map small small)

theorem ignoresCase_afterOneOf? (words : List Text) : IgnoresCase (afterOneOf? words) := by
  intro t
  unfold afterOneOf?
  induction words with
  | nil => rfl
  | cons w words ih =>
    rw [List.findSome?_cons, List.findSome?_cons, ih, after?_small]
    cases after? foldCase w t with
    | none => rfl
    | some rest => simp only [small, List.map_take, Option.map_some, Prod.map_apply]

theorem ignoresCase_afterDigits? : IgnoresCase afterDigits? := by
  intro t
  rw [afterDigits?, afterDigits?, takeWhile_small isDecimalDigit_toLower,
    dropWhile_small isDecimalDigit_toLower]
  cases t.takeWhile isDecimalDigit <;> rfl

theorem ignoresCase_afterOrdinalNumeral? : IgnoresCase afterOrdinalNumeral? := by
  intro t
  rw [afterOrdinalNumeral?, ignoresCase_afterDigits?, afterOrdinalNumeral?]
  refine bind_map_small (fun digits rest => ?_) _
  dsimp only
  rw [ignoresCase_afterOneOf?, Option.map_map, Option.map_map]
  rfl

theorem ignoresCase_afterOrdinalWord? : IgnoresCase afterOrdinalWord? :=
  ignoresCase_afterOneOf? _

theorem afterRequest?_small (t : Text) :
    afterRequest? (small t) = (afterRequest? t).map small := by
  have hword : (afterOneOf? askVerbs (small t)).map (·.2) =
      ((afterOneOf? askVerbs t).map (·.2)).map small := by
    rw [ignoresCase_afterOneOf?, Option.map_map, Option.map_map]
    rfl
  have htwo : ((after? foldCase "what".toList (small t)).bind afterBlanks?).bind
      (after? foldCase "is".toList) =
      (((after? foldCase "what".toList t).bind afterBlanks?).bind
        (after? foldCase "is".toList)).map small := by
    rw [after?_small, bind_map_of_commutes afterBlanks?_small,
      bind_map_of_commutes (after?_small _)]
  -- The two ways to ask are tried alike in both letter cases.
  have heither : ∀ o o' : Option Text, (o.map small <|> o'.map small) = (o <|> o').map small := by
    intro o o'
    cases o <;> rfl
  simp only [afterRequest?]
  rw [hword, htwo, heither, bind_map_of_commutes afterBlanks?_small, Option.map_map,
    Option.map_map]
  refine congrArg (Option.map · _) (funext fun rest => ?_)
  rw [Function.comp_apply, skipWord_small, skipWord_small, Function.comp_apply]

/-! ### Phrases -/

/-- The number that a phrase reads ends before the same rest, and has the same value. -/
structure Phrase.IgnoresCase (phrase : Phrase) : Prop where
  read : Question.IgnoresCase phrase.read?
  value : ∀ number, phrase.value? (small number) = phrase.value? number

theorem IgnoresCase.beforeNoun {ordinal : Text → Option (Text × Text)} (h : IgnoresCase ordinal) :
    IgnoresCase (beforeNoun ordinal) := by
  intro t
  rw [Question.beforeNoun, h, Question.beforeNoun]
  refine bind_map_small (fun number rest => ?_) _
  dsimp only
  rw [afterBlanks?_small, bind_map_of_commutes (afterNoun?_small _), Option.map_map,
    Option.map_map]
  rfl

theorem IgnoresCase.requested {ordinal : Text → Option (Text × Text)} (h : IgnoresCase ordinal) :
    IgnoresCase (requested ordinal) := by
  intro t
  rw [Question.requested, afterRequest?_small, bind_map_of_commutes h, Question.requested]
  refine bind_map_small (fun number rest => ?_) _
  dsimp only
  rw [startsWord_small, skipAskNoun_small]
  split <;> rfl

theorem ignoresCase_nounFirst : IgnoresCase nounFirst := by
  intro t
  rw [nounFirst, ignoresCase_afterOneOf?, nounFirst]
  refine bind_map_small (fun noun rest => ?_) _
  have hsign : ∀ u : Text,
      (if (small u).head? = some '#' then trimStart (small u).tail else small u) =
        small (if u.head? = some '#' then trimStart u.tail else u) := by
    intro u
    cases u with
    | nil => rfl
    | cons c u =>
      have hc : c.toLower = '#' ↔ c = '#' := toLower_eq_iff (by decide)
      simp only [small_cons, List.head?_cons, Option.some_inj, List.tail_cons, hc, trimStart_small]
      split <;> rfl
  simp only [trimStart_small, hsign]
  rw [ignoresCase_afterDigits?]
  refine bind_map_small (fun digits rest => ?_) _
  rw [startsWord_small]
  split <;> rfl

/-- Digits have the same value in lower case: with a letter among them they have none. -/
theorem positionOfDigits?_small (digits : Text) :
    positionOfDigits? (small digits) = positionOfDigits? digits := by
  by_cases hdigits : digits.all Char.isDigit = true
  · have hsame : small digits = digits := by
      conv_rhs => rw [← List.map_id digits]
      refine List.map_congr_left fun c hc => ?_
      exact toLower_eq_self (not_isAlpha_of_isDigit (List.all_eq_true.mp hdigits c hc))
    rw [hsame]
  · have hsmall : ¬(small digits).all Char.isDigit = true := by
      rwa [small, List.all_map, show Char.isDigit ∘ Char.toLower = Char.isDigit from
        funext isDigit_toLower]
    rw [positionOfDigits?, if_neg fun h => hsmall h.2, positionOfDigits?,
      if_neg fun h => hdigits h.2]

theorem ordinalNumber?_small (word : Text) : ordinalNumber? (small word) = ordinalNumber? word := by
  have htwice : (small word).map Char.toLower = word.map Char.toLower := small_small word
  rw [ordinalNumber?, htwice, ordinalNumber?]

theorem phrases_ignoresCase : ∀ phrase ∈ phrases, phrase.IgnoresCase := by
  simp only [phrases, List.forall_mem_cons]
  exact ⟨⟨ignoresCase_afterOrdinalNumeral?.beforeNoun, positionOfDigits?_small⟩,
    ⟨ignoresCase_nounFirst, positionOfDigits?_small⟩,
    ⟨ignoresCase_afterOrdinalWord?.beforeNoun, ordinalNumber?_small⟩,
    ⟨ignoresCase_afterOrdinalNumeral?.requested, positionOfDigits?_small⟩,
    ⟨ignoresCase_afterOrdinalWord?.requested, ordinalNumber?_small⟩, List.forall_mem_nil _⟩

/-- The place where a phrase fits first does not depend on case. -/
theorem IgnoresCase.leftmost {read? : Text → Option (Text × Text)} (h : IgnoresCase read?)
    (before : Option Char) (t : Text) :
    leftmost read? (before.map Char.toLower) (small t) =
      (leftmost read? before t).map (Prod.map small small) := by
  induction t generalizing before with
  | nil => rfl
  | cons c rest ih =>
    have hbefore : (before.map Char.toLower).any isWord = before.any isWord := by
      cases before with
      | none => rfl
      | some b => exact isWord_toLower b
    have hread : read? (c.toLower :: small rest) = (read? (c :: rest)).map _ := h (c :: rest)
    have hrest := ih (some c)
    rw [small_cons, Question.leftmost, Question.leftmost, hbefore, hread]
    rw [Option.map_some] at hrest
    cases before.any isWord with
    | true => exact hrest
    | false =>
      cases read? (c :: rest) with
      | none => exact hrest
      | some read => rfl

/-! ### Topics -/

theorem bareTopic?_small (raw : Text) : bareTopic? (small raw) = (bareTopic? raw).map small := by
  simp only [bareTopic?, trim_small, dropEndWhile_small isEndMark_toLower, List.isEmpty_iff,
    small_eq_nil]
  split <;> rfl

theorem topicAfter?_small (t : Text) : topicAfter? (small t) = (topicAfter? t).map small := by
  have hfeed : ∀ c : Char, decide (c.toLower ≠ '\n') = decide (c ≠ '\n') := fun c =>
    decide_eq_decide.mpr (not_congr (toLower_eq_iff (by decide)))
  rw [topicAfter?, afterBlanks?_small, bind_map_of_commutes (ignoresCase_afterOneOf? prepositions),
    topicAfter?]
  refine bind_map_small (fun preposition rest => ?_) _
  dsimp only
  rw [afterBlanks?_small]
  refine bind_map_of_commutes (fun topic => ?_) _
  rw [takeWhile_small hfeed, bareTopic?_small]

end Question

open Question

/-- A query with its topic in lower case. -/
def ItemQuery.small (query : ItemQuery) : ItemQuery :=
  { query with topic := query.topic.map Text.small }

/-- **A lower-cased question makes the query of the question**, with the topic in lower case. -/
theorem ItemQuery.ofQuestion?_small (question : Text) :
    ofQuestion? question.small = (ofQuestion? question).map small := by
  unfold ofQuestion?
  have hall := phrases_ignoresCase
  -- The table of phrases is long to unfold, so the induction is over any phrases of the kind.
  revert hall
  generalize phrases = all
  intro hall
  induction all with
  | nil => rfl
  | cons phrase more ih =>
    obtain ⟨⟨hread, hvalue⟩, hmore⟩ := List.forall_mem_cons.mp hall
    have hleftmost := hread.leftmost none question
    rw [Option.map_none] at hleftmost
    rw [List.findSome?_cons, List.findSome?_cons, hleftmost, ih hmore,
      bind_map_small (g := ItemQuery.small)]
    · cases (leftmost phrase.read? none question).bind _ <;> rfl
    · intro number rest
      dsimp only
      rw [hvalue, topicAfter?_small, Option.map_map]
      rfl

end Notebook
