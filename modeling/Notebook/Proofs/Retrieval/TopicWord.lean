import Notebook.Proofs.Text.Keyword
import Notebook.Proofs.Text.Sigma
import Notebook.Retrieval.Resolve

/-!
# Words of a topic that a note has

The words of a topic and the text of a note are put in lower case apart from each other, and a word
counts if its small form is somewhere in that of the note. A word that the note has as it is written
counts unless a capital sigma of it closes a word by itself and not in the note, or the other way
round:

- `Note.stands_iff` — when the small form of a written text stands where the text is written;
- `written_word_counts` — when a word of a topic counts that a note has;
- `matchedWords_eq_length` — all words count if a note has each of them with its sigmas kept.
-/

namespace Notebook

open Text

/-- A word of a topic without what is no letter or number at its edges. -/
def bareWord (word : Text) : Text := trimWhere (!isAlphanumeric ·) word

section Written

variable {note : Note} {before t after : Text}
  (hwritten : note.title ++ ' ' :: note.content = before ++ (t ++ after))

include hwritten

/-- The small form of a note where a text is written in it. -/
theorem Note.haystack_eq : note.haystack =
    lowercaseBetween [] (t ++ after) before ++
      (lowercaseBetween before after t ++ lowercaseBetween (before ++ t) [] after) := by
  rw [haystack, hwritten, lowercase_append]

/-- The small form of a text stands where the text is written exactly if the sigmas of the text
close the same words there. -/
theorem Note.stands_iff :
    (∃ front back, note.haystack = front ++ (lowercase t ++ back) ∧
      front.length = (lowercase before).length) ↔ KeepsSigmas before after t := by
  rw [Note.haystack_eq hwritten, ← lowercaseBetween_eq_lowercase_iff]
  constructor
  · rintro ⟨front, back, hsplit, hfront⟩
    -- Lengths do not depend on what stands around, so the two splits are at the same places.
    have hplace : (lowercaseBetween [] (t ++ after) before).length = front.length := by
      rw [hfront, length_lowercase]
    have hlength : (lowercaseBetween before after t).length = (lowercase t).length := by
      rw [length_lowercase]
    exact (List.append_inj (List.append_inj hsplit hplace).2 hlength).1
  · intro hsame
    exact ⟨_, _, by rw [hsame], (length_lowercase _ _ before).symm⟩

theorem Note.contains_haystack (hsigmas : KeepsSigmas before after t) :
    contains (lowercase t) note.haystack = true := by
  obtain ⟨front, back, hsplit, -⟩ := (Note.stands_iff hwritten).mpr hsigmas
  exact contains_iff.mpr ⟨front, back, by rw [hsplit, List.append_assoc]⟩

end Written

/-- What is looked for is what the words of a topic are in lower case, if that is long enough. -/
theorem mem_soughtWords_iff {topic sought : Text} {minLength : Nat} :
    sought ∈ soughtWords topic minLength ↔
      (∃ word ∈ Text.words topic, soughtWord word = sought) ∧ minLength ≤ sought.length := by
  rw [soughtWords, List.mem_filter, List.mem_map, decide_eq_true_iff]

/-- **A word of a topic that a note has**, as it is written, is found where it stands exactly if its
capital sigmas close a word there as they do in the word by itself. Then it counts, if it is long
enough. That is so of a word without capital sigmas, and of any word where no letter with case is
next to it, seen past what casing ignores. -/
theorem written_word_counts {topic word : Text} (hword : word ∈ Text.words topic) (minLength : Nat)
    {note : Note} {before after : Text}
    (hwritten : note.title ++ ' ' :: note.content = before ++ (bareWord word ++ after)) :
    ((∃ front back, note.haystack = front ++ (soughtWord word ++ back) ∧
        front.length = (lowercase before).length) ↔ KeepsSigmas before after (bareWord word)) ∧
    (KeepsSigmas before after (bareWord word) →
      contains (soughtWord word) note.haystack = true ∧
      (minLength ≤ (soughtWord word).length →
        soughtWord word ∈ (soughtWords topic minLength).filter (contains · note.haystack))) ∧
    ('Σ' ∉ bareWord word → KeepsSigmas before after (bareWord word)) ∧
    (leadsCased before.reverse = false → leadsCased after = false →
      KeepsSigmas before after (bareWord word)) := by
  refine ⟨Note.stands_iff hwritten, fun hsigmas => ?_, fun hnone => ?_, fun hbefore hafter => ?_⟩
  · have hfound : contains (soughtWord word) note.haystack = true :=
      Note.contains_haystack hwritten hsigmas
    refine ⟨hfound, fun hlong => List.mem_filter.mpr ⟨?_, hfound⟩⟩
    exact mem_soughtWords_iff.mpr ⟨⟨word, hword, rfl⟩, hlong⟩
  · exact keepsSigmas_of_not_mem hnone before after
  · exact keepsSigmas_of_apart hbefore hafter (bareWord word)

/-- A word with a mark behind it counts in a note that has it without one. -/
theorem written_word_counts_bread :
    let note : Note := ⟨"Sour Bread".toList, "1. mix".toList⟩
    "Bread?".toList ∈ Text.words "rye Bread?".toList ∧
    note.title ++ ' ' :: note.content =
      "Sour ".toList ++ (bareWord "Bread?".toList ++ " 1. mix".toList) ∧
    soughtWord "Bread?".toList ∈ (soughtWords "rye Bread?".toList 3).filter
      (contains · note.haystack) := by
  intro note
  have hword : "Bread?".toList ∈ Text.words "rye Bread?".toList := by decide
  have hwritten : note.title ++ ' ' :: note.content =
      "Sour ".toList ++ (bareWord "Bread?".toList ++ " 1. mix".toList) := by decide
  obtain ⟨-, hcounts, hplain, -⟩ := written_word_counts hword 3 hwritten
  have hnone : 'Σ' ∉ bareWord "Bread?".toList := by decide
  exact ⟨hword, hwritten, (hcounts (hplain hnone)).2 (by decide)⟩

/-- A word in capitals that ends in a sigma is not found at the beginning of a longer one. -/
theorem closing_sigma_missed :
    "ΟΔΟΣ".toList ∈ Text.words "ΟΔΟΣ".toList ∧
    "ΟΔΟΣΑ".toList ++ ' ' :: "1. turn\n2. stop".toList =
      [] ++ (bareWord "ΟΔΟΣ".toList ++ "Α 1. turn\n2. stop".toList) ∧
    soughtWords "ΟΔΟΣ".toList 3 = ["οδος".toList] ∧
    matchedWords (Note.haystack ⟨"ΟΔΟΣΑ".toList, "1. turn\n2. stop".toList⟩)
      (soughtWords "ΟΔΟΣ".toList 3) = 0 := by
  decide +kernel

/-- All the words of a topic count in a note that has them with their sigmas kept. -/
theorem matchedWords_eq_length {topic : Text} {minLength : Nat} {note : Note}
    (h : ∀ word ∈ Text.words topic, minLength ≤ (soughtWord word).length → ∃ before after,
      note.title ++ ' ' :: note.content = before ++ (bareWord word ++ after) ∧
      KeepsSigmas before after (bareWord word)) :
    matchedWords note.haystack (soughtWords topic minLength) =
      (soughtWords topic minLength).length := by
  refine List.countP_eq_length.mpr fun sought hsought => ?_
  obtain ⟨⟨word, hword, rfl⟩, hlong⟩ := mem_soughtWords_iff.mp hsought
  obtain ⟨before, after, hwritten, hsigmas⟩ := h word hword hlong
  exact Note.contains_haystack hwritten hsigmas

end Notebook
