import Notebook.Proofs.Question.Found
import Notebook.Proofs.Question.Topic

/-!
# A query says what its question states

Whatever phrase a question is read by, the position comes from a number that stands in the question
on its own: the digits are not part of more digits, and a word for a position is a whole word. The
topic is a part of the question as well.

- `States` — a text states a position, in digits or by a word;
- `Question.Phrase.Tells`, `phrases_tell` — what a phrase reads with a value is stated;
- `exists_of_ofQuestion?` — where a query takes its position and its topic from;
- `ItemQuery.ofQuestion?_sound` — the position and the topic of a query are those of its question;
- `ItemQuery.ofQuestion?_topic` — which topics end in an end mark.
-/

namespace Notebook

open Text

/-! ### Positions in a text -/

/-- A text states a position: by the value of ASCII digits, which are part of no longer run of digits
of any script, or by a word, in any case of its ASCII letters, between word boundaries. -/
inductive States (t : Text) : Nat → Prop
  | digits {digits : Text} : SetOff isDecimalDigit digits t → digits ≠ [] →
      (∀ c ∈ digits, c.isDigit = true) → States t (Nat.ofDigitChars 10 digits 0)
  | word {word : Text} {n : Nat} : SetOff isWord word t → (word.map Char.toLower, n) ∈ ordinals →
      States t n

/-- Digits that are read as a position state it. -/
theorem states_of_digits {digits t : Text} {n : Nat} (h : SetOff isDecimalDigit digits t)
    (hvalue : positionOfDigits? digits = some n) : States t n ∧ 1 ≤ n ∧ n ≤ maxPosition := by
  obtain ⟨hne, hdigits, rfl, hrange⟩ := positionOfDigits?_eq_some_iff.mp hvalue
  exact ⟨.digits h hne hdigits, hrange⟩

/-- So does a word. -/
theorem states_of_word {word t : Text} {n : Nat} (h : SetOff isWord word t)
    (hvalue : ordinalNumber? word = some n) : States t n ∧ 1 ≤ n ∧ n ≤ maxPosition := by
  obtain ⟨⟨w, m⟩, hfind, rfl⟩ := Option.map_eq_some_iff.mp hvalue
  obtain rfl : w = word.map Char.toLower := by simpa using List.find?_some hfind
  have hword := List.mem_of_find?_eq_some hfind
  exact ⟨.word h hword, (Question.position_of_ordinal hword).2⟩

/-! ### What the phrases tell -/

namespace Question

/-- Where a phrase reads a number with a value, and no word goes on in front of it, the whole text
states that position. What follows the phrase is an end of the text. -/
def Phrase.Tells (phrase : Phrase) : Prop :=
  ∀ front t number rest n, (∀ c ∈ front.getLast?, isWord c = false) →
    phrase.read? t = some (number, rest) → phrase.value? number = some n →
    (States (front ++ t) n ∧ 1 ≤ n ∧ n ≤ maxPosition) ∧ rest <:+ t

/-- A phrase with a numeral tells a position if the numeral is set off from other digits. -/
theorem Phrase.tells_of_digits {phrase : Phrase} (hvalue : phrase.value? = positionOfDigits?)
    (hread : ∀ t digits rest, phrase.read? t = some (digits, rest) →
      SetOff isDecimalDigit digits t ∧ rest <:+ t) : phrase.Tells := by
  intro front t digits rest n hfront hphrase hn
  obtain ⟨hdigits, hrest⟩ := hread t digits rest hphrase
  rw [hvalue] at hn
  exact ⟨states_of_digits (hdigits.behind fun c hc =>
    not_isDecimalDigit_of_not_isWord (hfront c hc)) hn, hrest⟩

/-- A phrase with an ordinal word tells a position if the word is set off from other words. -/
theorem Phrase.tells_of_word {phrase : Phrase} (hvalue : phrase.value? = ordinalNumber?)
    (hread : ∀ t word rest, phrase.read? t = some (word, rest) →
      SetOff isWord word t ∧ rest <:+ t) : phrase.Tells := by
  intro front t word rest n hfront hphrase hn
  obtain ⟨hword, hrest⟩ := hread t word rest hphrase
  rw [hvalue] at hn
  exact ⟨states_of_word (hword.behind hfront) hn, hrest⟩

/-- **Every phrase tells what the text states.** -/
theorem phrases_tell : ∀ phrase ∈ phrases, phrase.Tells := by
  have hdigit : ∀ c, isWord c = false → isDecimalDigit c = false :=
    fun _ => not_isDecimalDigit_of_not_isWord
  have hnumeralNoun : Phrase.numeralNoun.Tells :=
    Phrase.tells_of_digits rfl fun _ _ _ => setOff_beforeNoun ordinalAt_numeral
  have hnounNumeral : Phrase.nounNumeral.Tells :=
    Phrase.tells_of_digits rfl fun _ _ _ => setOff_nounFirst
  have hordinalNoun : Phrase.ordinalNoun.Tells :=
    Phrase.tells_of_word rfl fun _ _ _ => setOff_beforeNoun ordinalAt_word
  have hrequestNumeral : Phrase.requestNumeral.Tells :=
    Phrase.tells_of_digits rfl fun _ _ _ => setOff_requested hdigit ordinalAt_numeral
  have hrequestOrdinal : Phrase.requestOrdinal.Tells :=
    Phrase.tells_of_word rfl fun _ _ _ => setOff_requested (fun _ => id) ordinalAt_word
  simp only [phrases, List.forall_mem_cons, List.not_mem_nil, false_imp_iff, implies_true, and_true]
  exact ⟨hnumeralNoun, hnounNumeral, hordinalNoun, hrequestNumeral, hrequestOrdinal⟩

end Question

/-! ### What a query takes from its question -/

open Question

/-- A query has a position that the question states, and the topic of an end of the question. -/
theorem exists_of_ofQuestion? {question : Text} {query : ItemQuery}
    (h : ItemQuery.ofQuestion? question = some query) :
    (States question query.position ∧ 1 ≤ query.position ∧ query.position ≤ maxPosition) ∧
      ∃ rest, rest <:+ question ∧ query.topic = topicAfter? rest := by
  obtain ⟨phrase, hphrase, hread⟩ := List.exists_of_findSome?_eq_some h
  obtain ⟨⟨number, rest⟩, hleftmost, hquery⟩ := Option.bind_eq_some_iff.mp hread
  obtain ⟨n, hn, rfl⟩ := Option.map_eq_some_iff.mp hquery
  obtain ⟨front, t, rfl, hfront, hphraseRead⟩ := exists_of_leftmost hleftmost
  have hlast : ∀ c ∈ front.getLast?, isWord c = false := by
    intro c hc
    rw [lastOf_none, Option.mem_def.mp hc] at hfront
    exact hfront
  obtain ⟨hstates, hrest⟩ := phrases_tell phrase hphrase front t number rest n hlast hphraseRead hn
  exact ⟨hstates, rest, hrest.trans (List.suffix_append front t), rfl⟩

/-- A topic of a query is the end of a line of the question. -/
theorem exists_topicAt_of_ofQuestion? {question topic : Text} {query : ItemQuery}
    (h : ItemQuery.ofQuestion? question = some query) (htopic : query.topic = some topic) :
    ∃ dropped, TopicAt question topic dropped ∧
      (EndsInMark topic ↔ SpacedMarks (topic ++ dropped)) := by
  obtain ⟨-, rest, hrest, hafter⟩ := exists_of_ofQuestion? h
  obtain ⟨dropped, hat, hmarks⟩ := exists_topicAt (hafter.symm.trans htopic)
  exact ⟨dropped, hat.of_suffix hrest, hmarks⟩

/-- **A query says what its question states.** Its position is in range, and the question states it
in ASCII digits that are part of no more digits or by a word between word boundaries. A topic is a
part of the question within a line, it is not empty, and it has no white space at its edges. So no
query is made of a question if all positions that it states are zero or too large. -/
theorem ItemQuery.ofQuestion?_sound (question : Text) :
    (∀ query, ItemQuery.ofQuestion? question = some query →
      (States question query.position ∧ 1 ≤ query.position ∧ query.position ≤ maxPosition) ∧
      ∀ topic ∈ query.topic,
        topic ≠ [] ∧ topic <:+: question ∧ '\n' ∉ topic ∧ Bare topic) ∧
    ((∀ n, States question n → n = 0 ∨ maxPosition < n) →
      ItemQuery.ofQuestion? question = none) := by
  have hstates : ∀ query, ItemQuery.ofQuestion? question = some query →
      States question query.position ∧ 1 ≤ query.position ∧ query.position ≤ maxPosition :=
    fun query h => (exists_of_ofQuestion? h).1
  refine ⟨fun query h => ⟨hstates query h, fun topic htopic => ?_⟩, fun hrange => ?_⟩
  · obtain ⟨dropped, hat, -⟩ := exists_topicAt_of_ofQuestion? h htopic
    exact ⟨hat.not_empty, hat.isInfix, fun hmem => hat.no_feed (List.mem_append_left _ hmem),
      hat.bare⟩
  · by_contra hsome
    obtain ⟨query, hquery⟩ := Option.ne_none_iff_exists'.mp hsome
    obtain ⟨hstated, hpos, hle⟩ := hstates query hquery
    rcases hrange query.position hstated with hzero | hlarge
    · omega
    · omega

/-- A question that states a position in digits, and one that states nothing but zero. -/
theorem ItemQuery.ofQuestion?_sound_step :
    (States "Step 3 of bread?".toList 3 ∧ 1 ≤ 3 ∧ 3 ≤ maxPosition) ∧
    "bread".toList <:+: "Step 3 of bread?".toList ∧
    ItemQuery.ofQuestion? "Step 0".toList = none := by
  have hthree := (ItemQuery.ofQuestion?_sound "Step 3 of bread?".toList).1
    ⟨3, some "bread".toList⟩ (by decide)
  refine ⟨hthree.1, (hthree.2 _ rfl).2.1, (ItemQuery.ofQuestion?_sound _).2 fun n hstates => ?_⟩
  cases hstates with
  | @digits digits hdigits _ hall =>
    have hzero : ∀ c ∈ "Step 0".toList, c.isDigit = true → c = '0' := by simp
    have hzeros : digits = List.replicate digits.length '0' := List.eq_replicate_iff.mpr
      ⟨rfl, fun c hc => hzero c (hdigits.isInfix.subset hc) (hall c hc)⟩
    rw [hzeros]
    exact Or.inl (by simp)
  | word hword hmem =>
    have hnone : ∀ entry ∈ ordinals,
        contains entry.1 ("Step 0".toList.map Char.toLower) = false := by decide
    have hnot := hnone _ hmem
    rw [contains_iff.mpr (hword.isInfix.map Char.toLower)] at hnot
    cases hnot

/-- **A topic ends in an end mark just if white space stands between the end marks behind it.** A
topic is the end of a line of the question, up to white space and end marks that are dropped. If the
line does not end in an end mark, white space and further end marks, the topic does not end in an end
mark, it is not made of end marks and white space only, and as a topic it would be the same again;
otherwise it does end in an end mark, which is dropped if it is read again. -/
theorem ItemQuery.ofQuestion?_topic {question topic : Text} {query : ItemQuery}
    (h : ItemQuery.ofQuestion? question = some query) (htopic : query.topic = some topic) :
    ∃ dropped, TopicAt question topic dropped ∧
      (EndsInMark topic ↔ SpacedMarks (topic ++ dropped)) ∧
      (bareTopic? topic = some topic ↔ ¬SpacedMarks (topic ++ dropped)) ∧
      ((∀ c ∈ topic, isBlank c = true ∨ isEndMark c = true) → SpacedMarks (topic ++ dropped)) := by
  obtain ⟨dropped, hat, hmarks⟩ := exists_topicAt_of_ofQuestion? h htopic
  refine ⟨dropped, hat, hmarks, ?_, fun hall => hmarks.mp (hat.endsInMark hall)⟩
  rw [bareTopic?_self_iff hat.not_empty hat.bare, hmarks]

/-- A blank between two end marks leaves the first of them at the end of the topic. -/
theorem ItemQuery.ofQuestion?_topic_bread :
    ∃ dropped, TopicAt "3rd step of bread ? ?".toList "bread ?".toList dropped ∧
      SpacedMarks ("bread ?".toList ++ dropped) := by
  have hquery : ItemQuery.ofQuestion? "3rd step of bread ? ?".toList =
      some ⟨3, some "bread ?".toList⟩ := by decide
  obtain ⟨dropped, hat, hmarks, -⟩ := ItemQuery.ofQuestion?_topic hquery rfl
  exact ⟨dropped, hat, hmarks.mp ⟨'?', rfl, rfl⟩⟩

/-- The last end mark is dropped, and the white space in front of it, but not the end mark in front
of that; and so a topic of end marks is left of two of them. -/
theorem ItemQuery.end_mark_left :
    ItemQuery.ofQuestion? "3rd step of bread ? ?".toList = some ⟨3, some "bread ?".toList⟩ ∧
    bareTopic? "bread ?".toList = some "bread".toList ∧
    ItemQuery.ofQuestion? "3rd step of ? !".toList = some ⟨3, some "?".toList⟩ ∧
    bareTopic? "?".toList = none := by decide

end Notebook
