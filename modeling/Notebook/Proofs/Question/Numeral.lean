import Mathlib.Data.List.Basic
import Notebook.Proofs.NoteList.ItemStart
import Notebook.Question.Detection

/-!
# Questions with a numeral in front of a noun

"3rd method" is the first of the phrases that are tried. It fits at the start of a question that
begins with the number, whatever the number is, and so the question asks for that position.

- `Question.afterDigits?_ofNat`, `Question.afterOneOf?_ending`, `Question.afterNoun?_self` — the
  parts of the phrase;
- `ItemQuery.ofQuestion?_numeral` — the query of a question that is the phrase alone.
-/

namespace Notebook

open Text

namespace Question

/-! ### The parts of the phrase -/

theorem afterDigits?_ofNat (n : Nat) {c : Char} (hc : isDecimalDigit c = false) (rest : Text) :
    afterDigits? (Text.ofNat n ++ c :: rest) = some (Text.ofNat n, c :: rest) := by
  obtain ⟨d, digits, hdigits⟩ := List.exists_cons_of_ne_nil (ofNat_ne_nil n)
  rw [afterDigits?, takeWhile_isDecimalDigit_ofNat n hc, dropWhile_isDecimalDigit_ofNat n hc,
    hdigits]

/-- No two endings fit at one place. -/
theorem afterOneOf?_ending {ending : Text} (h : ending ∈ ordinalEndings) (rest : Text) :
    afterOneOf? ordinalEndings (ending ++ rest) = some (ending, rest) := by
  simp only [ordinalEndings, List.map_cons, List.map_nil, List.mem_cons, List.not_mem_nil,
    or_false] at h
  rcases h with rfl | rfl | rfl | rfl <;> rfl

theorem afterOrdinalNumeral?_ofNat (n : Nat) {ending : Text} (h : ending ∈ ordinalEndings)
    (rest : Text) :
    afterOrdinalNumeral? (Text.ofNat n ++ (ending ++ rest)) = some (Text.ofNat n, rest) := by
  have hdigit : ∀ ending ∈ ordinalEndings, ∃ c more, ending = c :: more ∧
      isDecimalDigit c = false := by
    simp only [ordinalEndings, List.map_cons, List.map_nil, List.forall_mem_cons]
    exact ⟨⟨_, _, rfl, by decide⟩, ⟨_, _, rfl, by decide⟩, ⟨_, _, rfl, by decide⟩,
      ⟨_, _, rfl, by decide⟩, nofun⟩
  obtain ⟨c, more, hending, hc⟩ := hdigit ending h
  have hafter : afterDigits? (Text.ofNat n ++ (ending ++ rest)) =
      some (Text.ofNat n, ending ++ rest) := by
    rw [hending]
    exact afterDigits?_ofNat n hc (more ++ rest)
  simp only [afterOrdinalNumeral?, hafter, Option.bind_some, afterOneOf?_ending h, Option.map_some]

/-- A noun is read to its end. -/
theorem afterNoun?_self {noun : Text} (h : noun ∈ nounsAfterOrdinal) :
    afterNoun? nounsAfterOrdinal noun = some [] := by
  have hnouns : ∀ noun ∈ nounsAfterOrdinal, noun.all isWord = true ∧ noun.map foldCase = noun := by
    decide
  obtain ⟨hword, hfold⟩ := hnouns noun h
  have hwhole : ∀ c ∈ noun, isWord c = true := List.all_eq_true.mp hword
  have hany : nounsAfterOrdinal.any (fun other => noun = other ∨ noun = other ++ ['s']) = true :=
    List.any_eq_true.mpr ⟨noun, h, by simp⟩
  rw [afterNoun?, List.takeWhile_eq_self_iff.mpr hwhole, List.dropWhile_eq_nil_iff.mpr hwhole,
    hfold]
  exact if_pos hany

/-! ### The phrase alone -/

theorem beforeNoun_ofNat (n : Nat) {ending noun : Text} (hending : ending ∈ ordinalEndings)
    (hnoun : noun ∈ nounsAfterOrdinal) :
    beforeNoun afterOrdinalNumeral? (Text.ofNat n ++ (ending ++ ' ' :: noun)) =
      some (Text.ofNat n, []) := by
  have hbare : ∀ noun ∈ nounsAfterOrdinal, trimStart noun = noun := by decide
  have hblanks : afterBlanks? (' ' :: noun) = some noun := by
    show some (trimStart noun) = _
    rw [hbare noun hnoun]
  simp only [beforeNoun, afterOrdinalNumeral?_ofNat n hending, Option.bind_some, hblanks,
    afterNoun?_self hnoun, Option.map_some]

/-- What is read at the start of a text is the leftmost reading. -/
theorem leftmost_of_start {α : Type} {read? : Text → Option α} {t : Text} {a : α} (hne : t ≠ [])
    (h : read? t = some a) : leftmost read? none t = some a := by
  obtain ⟨c, rest, rfl⟩ := List.exists_cons_of_ne_nil hne
  rw [leftmost, Option.any_none, if_neg Bool.false_ne_true, h]

end Question

open Question

/-- **A number with an ending and a noun behind it asks for that position**, if it is one. -/
theorem ItemQuery.ofQuestion?_numeral {n : Nat} (h : 1 ≤ n) (hle : n ≤ maxPosition)
    {ending noun : Text} (hending : ending ∈ ordinalEndings) (hnoun : noun ∈ nounsAfterOrdinal) :
    ItemQuery.ofQuestion? (Text.ofNat n ++ (ending ++ ' ' :: noun)) = some ⟨n, none⟩ := by
  have hne : Text.ofNat n ++ (ending ++ ' ' :: noun) ≠ [] := by simp
  have hread : leftmost Phrase.numeralNoun.read? none (Text.ofNat n ++ (ending ++ ' ' :: noun)) =
      some (Text.ofNat n, []) := leftmost_of_start hne (beforeNoun_ofNat n hending hnoun)
  have hvalue : Phrase.numeralNoun.value? (Text.ofNat n) = some n := positionOfDigits?_ofNat h hle
  have htopic : topicAfter? [] = none := rfl
  simp only [ofQuestion?, phrases, List.findSome?_cons, hread, Option.bind_some, hvalue,
    Option.map_some, htopic]

end Notebook
