import Notebook.Proofs.Question.Misses

/-!
# Questions of the documented shapes (specification §4.4)

A question is made of a phrase that asks for a position, with a topic behind it: a preposition, the
topic and end marks. Something else may stand in front of the phrase.

- `IsAside`, `IsTopic` — what may stand in front of the phrase, and what the topic may be;
- `IsRequest`, `Asks` — the phrases, in any case, with the position that they ask for;
- `topicAfter?_topic`, `unnumbered_topic` — the topic is read behind any of them, and adds no number
  to the question.
-/

namespace Notebook

open Text

namespace Question

/-! ### What surrounds a phrase -/

/-- What may stand before a phrase: ASCII text that ends in white space, if there is any, and has no
number in it. -/
structure IsAside (t : Text) : Prop where
  ascii : ∀ c ∈ t, c.toNat < 0x80
  last : ∀ c ∈ t.getLast?, isBlank c = true
  unnumbered : Unnumbered t

/-- What a topic may be: the trimmed rest of a line without end marks behind it, with no number in
it. -/
structure IsTopic (t : Text) : Prop where
  not_empty : t ≠ []
  trimmed : trim t = t
  no_feed : '\n' ∉ t
  no_mark : ∀ c ∈ t.getLast?, isEndMark c = false
  unnumbered : Unnumbered t

/-! ### Phrases -/

/-- The verbs that ask for something, one of them in two words. -/
def requestVerbs : List Text := askVerbs ++ ["what is".toList]

/-- A request such as "Show me the", with the space behind it. -/
inductive IsRequest : Text → Prop
  | mk {verb me the : Text} : Spells requestVerbs verb → Optionally "me".toList me →
      Optionally "the".toList the → IsRequest (verb ++ ' ' :: (me ++ the))

/-- The word "one" behind an ordinal, with the space before it, or nothing at all. -/
def IsOne (t : Text) : Prop := t = [] ∨ ∃ w, Spells ["one".toList] w ∧ t = ' ' :: w

/-- The phrases that ask for a position. Words are in any case, with single spaces between them. -/
inductive Asks : Text → Nat → Prop
  | numeralNoun {n : Nat} {ending noun : Text} : 1 ≤ n → n ≤ maxPosition →
      Spells ordinalEndings ending → Spells nounsAfterOrdinal noun →
      Asks (Text.ofNat n ++ ending ++ ' ' :: noun) n
  | nounNumeral {n : Nat} {noun sign : Text} : 1 ≤ n → n ≤ maxPosition →
      Spells nounsBeforeNumber noun → sign ∈ [[], ['#']] →
      Asks (noun ++ ' ' :: (sign ++ Text.ofNat n)) n
  | ordinalNoun {n : Nat} {word noun : Text} : (word.map Char.toLower, n) ∈ ordinals →
      Spells nounsAfterOrdinal noun → Asks (word ++ ' ' :: noun) n
  | requestNumeral {n : Nat} {request ending one : Text} : 1 ≤ n → n ≤ maxPosition →
      IsRequest request → Spells ordinalEndings ending → IsOne one →
      Asks (request ++ (Text.ofNat n ++ ending ++ one)) n
  | requestOrdinal {n : Nat} {request word one : Text} : (word.map Char.toLower, n) ∈ ordinals →
      IsRequest request → IsOne one → Asks (request ++ (word ++ one)) n

/-! ### Topics -/

section Topic

variable {preposition topic marks : Text}

theorem isAlpha_preposition (h : Spells prepositions preposition) :
    ∀ c ∈ preposition, c.isAlpha = true :=
  fun _ hc => isAlpha_of_spells (by decide) h hc

theorem ne_nil_of_spells {words : List Text} (h : ∀ w ∈ words, w ≠ []) {t : Text}
    (ht : Spells words t) : t ≠ [] := by
  rintro rfl
  exact h _ ht rfl

variable (hpreposition : Spells prepositions preposition) (htopic : IsTopic topic)
  (hmarks : ∀ c ∈ marks, isEndMark c = true)

include htopic

theorem IsTopic.bare : Bare topic := trim_eq_self_iff.mp htopic.trimmed

include hmarks

theorem bareTopic?_marks : bareTopic? (topic ++ marks) = some topic := by
  have hbare : Bare (topic ++ marks) := by
    refine ⟨?_, ?_⟩
    · rw [List.head?_append_of_ne_nil _ htopic.not_empty]
      exact htopic.bare.head
    · rcases List.eq_nil_or_concat marks with rfl | ⟨front, m, rfl⟩
      · rw [List.append_nil]
        exact htopic.bare.last
      · intro c hc
        rw [List.concat_eq_append, ← List.append_assoc, List.getLast?_concat] at hc
        obtain rfl := Option.some.inj hc
        rcases Unnumbered.isEndMark_iff.mp (hmarks m (by simp)) with rfl | rfl | rfl <;> decide
  have hdrop : dropEndWhile isEndMark (topic ++ marks) = topic := by
    rw [dropEndWhile_append hmarks, dropEndWhile_eq_self htopic.no_mark]
  rw [bareTopic?, trim_eq_self_iff.mpr hbare, hdrop, htopic.trimmed]
  exact if_neg (by simpa using htopic.not_empty)

theorem takeWhile_topic : (topic ++ marks).takeWhile (· ≠ '\n') = topic ++ marks := by
  rw [List.takeWhile_eq_self_iff]
  intro c hc
  rcases List.mem_append.mp hc with hc | hc
  · have hne : c ≠ '\n' := fun heq => htopic.no_feed (heq ▸ hc)
    simpa using hne
  · rcases Unnumbered.isEndMark_iff.mp (hmarks c hc) with rfl | rfl | rfl <;> decide

include hpreposition

/-- The topic is read behind a phrase, without the end marks. -/
theorem topicAfter?_topic :
    topicAfter? (' ' :: (preposition ++ ' ' :: (topic ++ marks))) = some topic := by
  have hletters := isAlpha_preposition hpreposition
  have hne := ne_nil_of_spells (by decide) hpreposition
  obtain ⟨c, rest, hstart⟩ := List.exists_cons_of_ne_nil htopic.not_empty
  have hc : isBlank c = false := htopic.bare.head c (by rw [hstart]; rfl)
  have hspace : afterBlanks? (' ' :: (topic ++ marks)) = some (topic ++ marks) := by
    rw [hstart]
    exact afterBlanks?_space hc (rest ++ marks)
  rw [topicAfter?, afterBlanks?_space_append hletters hne, Option.bind_some,
    afterOneOf?_spelled apart_prepositions hpreposition, Option.bind_some]
  show (afterBlanks? (' ' :: (topic ++ marks))).bind _ = _
  rw [hspace, Option.bind_some, takeWhile_topic htopic hmarks, bareTopic?_marks htopic hmarks]

theorem unnumbered_topic : Unnumbered (preposition ++ ' ' :: (topic ++ marks)) :=
  .append_gap (by decide) (.of_spells (by decide) hpreposition)
    (htopic.unnumbered.append_marks hmarks)

end Topic

end Question

end Notebook
