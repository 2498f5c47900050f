import Notebook.Proofs.Question.LetterCase
import Notebook.Retrieval.Resolve

/-!
# The letter case of a question and its answer

What is looked for in the notes is lower-cased first, so a topic in lower case has the same words as
the topic. With `ItemQuery.ofQuestion?_small` it follows that questions that differ in letter case
alone get the same answer; only the topic is reported as the question writes it.

- `Text.lowercase_small` — lower-casing a text that has been lower-cased in ASCII already;
- `soughtWords_small` — the words of a topic do not depend on its case;
- `ItemQuery.resolve_small` — nor does anything that is found for a query;
- `resolveQuestion_sameButCase` — nor anything that is found for a question.
-/

namespace Notebook

/-! ### Lower case of the other scripts -/

@[simp] theorem isAlphanumeric_toLower (c : Char) :
    isAlphanumeric c.toLower = isAlphanumeric c := by
  refine eq_toLower_of_letters (b := true) (fun c hc => ?_) c
  rw [isAlphanumeric, if_pos (toNat_lt_of_isAlpha hc), isAlphanum_of_isAlpha hc]

@[simp] theorem isCased_toLower (c : Char) : isCased c.toLower = isCased c := by
  refine eq_toLower_of_letters (b := true) (fun c hc => ?_) c
  rw [isCased, if_pos (toNat_lt_of_isAlpha hc), hc]

@[simp] theorem isCaseIgnorable_toLower (c : Char) :
    isCaseIgnorable c.toLower = isCaseIgnorable c := by
  refine eq_toLower_of_letters (b := false) (fun c hc => ?_) c
  have hne : ∀ d : Char, d.isAlpha = false → (c == d) = false := by
    intro d hd
    rw [beq_eq_false_iff_ne]
    rintro rfl
    rw [hc] at hd
    cases hd
  rw [isCaseIgnorable, if_pos (toNat_lt_of_isAlpha hc), hne _ (by decide),
    hne _ (by decide), hne _ (by decide), hne _ (by decide), hne _ (by decide)]
  rfl

theorem lowercaseChar_toLower (c : Char) : lowercaseChar c.toLower = lowercaseChar c := by
  by_cases hc : c.isAlpha = true
  · have hlower : c.toLower.isAlpha = true := (Char.isAlpha_toLower_eq_isAlpha c).trans hc
    rw [lowercaseChar, if_pos (toNat_lt_of_isAlpha hlower), lowercaseChar,
      if_pos (toNat_lt_of_isAlpha hc), Char.toLower_toLower_eq_toLower]
  · rw [toLower_eq_self (by simpa using hc)]

namespace Text

theorem leadsCased_small (t : Text) : leadsCased (small t) = leadsCased t := by
  induction t with
  | nil => rfl
  | cons c rest ih =>
    rw [small_cons, leadsCased, leadsCased, isCaseIgnorable_toLower, isCased_toLower, ih]

/-- Whether a capital sigma ends its word does not depend on the case of the ASCII letters around
it, since both of their cases have case. -/
theorem lowercaseFrom_small (cased : Bool) (t : Text) :
    lowercaseFrom cased (small t) = lowercaseFrom cased t := by
  induction t generalizing cased with
  | nil => rfl
  | cons c rest ih =>
    have hsigma : c.toLower = 'Σ' ↔ c = 'Σ' := toLower_eq_iff (by decide)
    have hdotted : c.toLower = 'İ' ↔ c = 'İ' := toLower_eq_iff (by decide)
    rw [small_cons, lowercaseFrom, lowercaseFrom]
    simp only [hsigma, hdotted, isCaseIgnorable_toLower, isCased_toLower, leadsCased_small,
      lowercaseChar_toLower, ih]

theorem lowercase_small (t : Text) : lowercase (small t) = lowercase t :=
  lowercaseFrom_small false t

theorem splitWhere_small {p : Char → Bool} (h : ∀ c : Char, p c.toLower = p c) (t : Text) :
    splitWhere p (small t) = (splitWhere p t).map small := by
  induction t with
  | nil => rfl
  | cons c rest ih =>
    rw [small_cons, splitWhere, splitWhere, h, ih]
    split
    · rfl
    · cases splitWhere p rest <;> rfl

theorem words_small (t : Text) : words (small t) = (words t).map small := by
  have hempty : (fun piece : Text => !piece.isEmpty) ∘ small = fun piece => !piece.isEmpty := by
    funext piece
    cases piece <;> rfl
  rw [words, splitWhere_small isBlank_toLower, List.filter_map, hempty, words]

end Text

open Text

/-! ### Topics -/

/-- A word is looked for in lower case, however it is written. -/
theorem soughtWord_small (word : Text) : soughtWord (small word) = soughtWord word := by
  have hedge : ∀ c : Char, (!isAlphanumeric c.toLower) = !isAlphanumeric c := fun c =>
    congrArg _ (isAlphanumeric_toLower c)
  rw [soughtWord, trimWhere, dropWhile_small hedge, dropEndWhile_small hedge, lowercase_small,
    soughtWord, trimWhere]

theorem soughtWords_small (topic : Text) (minLength : Nat) :
    soughtWords (small topic) minLength = soughtWords topic minLength := by
  rw [soughtWords, words_small, List.map_map, funext (f := soughtWord ∘ small) soughtWord_small,
    soughtWords]

namespace ItemQuery

theorem words_small (query : ItemQuery) (s : Scoring) : query.small.words s = query.words s := by
  obtain ⟨position, topic⟩ := query
  cases topic with
  | none => rfl
  | some topic => exact soughtWords_small topic s.minWordLength

/-- A note gives the same answer for a topic in lower case, with the same score. -/
theorem ofNote?_small (query : ItemQuery) (s : Scoring) :
    Candidate.ofNote? s query.small = Candidate.ofNote? s query := by
  have hposition : query.small.position = query.position := rfl
  funext note
  simp only [Candidate.ofNote?, words_small, hposition]

end ItemQuery

/-! ### Results -/

/-- A result with its topic in lower case. -/
def QueryResult.small (r : QueryResult) : QueryResult := { r with topic := r.topic.map Text.small }

theorem ItemQuery.resolve_small (query : ItemQuery) (notes : List Note) (s : Scoring) :
    query.small.resolve notes s = (query.resolve notes s).small := by
  rw [resolve, ofNote?_small, resolve]
  cases Candidate.best? (notes.filterMap (Candidate.ofNote? s query)) <;> rfl

theorem resolveQuestion_small (question : Text) (notes : List Note) (s : Scoring) :
    resolveQuestion question.small notes s = (resolveQuestion question notes s).small := by
  rw [resolveQuestion, ItemQuery.ofQuestion?_small, resolveQuestion]
  cases ItemQuery.ofQuestion? question with
  | none => rfl
  | some query => exact query.resolve_small notes s

/-- Two texts differ in the case of ASCII letters alone. -/
def SameButCase (t u : Text) : Prop := t.small = u.small

instance (t u : Text) : Decidable (SameButCase t u) :=
  inferInstanceAs (Decidable (t.small = u.small))

/-- **Letter case never changes what is found for a question**, in whatever notes and with whatever
weights. The topic is reported as it is written, so two topics may differ in case as well. -/
theorem resolveQuestion_sameButCase {q q' : Text} (h : SameButCase q q') (notes : List Note)
    (s : Scoring) :
    (resolveQuestion q notes s).isPositional = (resolveQuestion q' notes s).isPositional ∧
    (resolveQuestion q notes s).position = (resolveQuestion q' notes s).position ∧
    (resolveQuestion q notes s).item = (resolveQuestion q' notes s).item ∧
    (resolveQuestion q notes s).noteTitle = (resolveQuestion q' notes s).noteTitle ∧
    (resolveQuestion q notes s).context = (resolveQuestion q' notes s).context ∧
    Option.Rel SameButCase (resolveQuestion q notes s).topic
      (resolveQuestion q' notes s).topic := by
  -- A question in lower case is read alike, except that its topic is in lower case as well.
  have hsmall : (resolveQuestion q notes s).small = (resolveQuestion q' notes s).small := by
    rw [← resolveQuestion_small, h, resolveQuestion_small]
  generalize resolveQuestion q notes s = r at hsmall ⊢
  generalize resolveQuestion q' notes s = r' at hsmall ⊢
  obtain ⟨asked, position, topic, item, title, context⟩ := r
  obtain ⟨asked', position', topic', item', title', context'⟩ := r'
  simp only [QueryResult.small, QueryResult.mk.injEq] at hsmall
  obtain ⟨rfl, rfl, htopic, rfl, rfl, rfl⟩ := hsmall
  refine ⟨rfl, rfl, rfl, rfl, rfl, ?_⟩
  cases topic <;> cases topic'
  · exact .none
  · cases htopic
  · cases htopic
  · exact .some (Option.some.inj htopic)

/-- A shouted question is answered like a quiet one. -/
theorem resolveQuestion_sameButCase_shouted :
    SameButCase "the 2nd STEP of BREAD?".toList "The 2ND step of bread?".toList ∧
    (resolveQuestion "the 2nd STEP of BREAD?".toList
        [⟨"Bread".toList, "1. Mix\n2. Knead".toList⟩] {}).item = some "Knead".toList ∧
    (resolveQuestion "the 2nd STEP of BREAD?".toList
        [⟨"Bread".toList, "1. Mix\n2. Knead".toList⟩] {}).topic = some "BREAD".toList ∧
    (resolveQuestion "The 2ND step of bread?".toList
        [⟨"Bread".toList, "1. Mix\n2. Knead".toList⟩] {}).topic = some "bread".toList := by
  have hsame : SameButCase "the 2nd STEP of BREAD?".toList "The 2ND step of bread?".toList := by
    decide
  obtain ⟨-, -, hitem, -⟩ := resolveQuestion_sameButCase hsame
    [⟨"Bread".toList, "1. Mix\n2. Knead".toList⟩] {}
  exact ⟨hsame, hitem.trans (by decide), by decide, by decide⟩

end Notebook
