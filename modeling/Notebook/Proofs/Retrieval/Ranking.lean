import Mathlib
import Notebook.Proofs.Number.Accuracy
import Notebook.Proofs.Retrieval.Resolve

/-!
# Ranking with the default weights (specification §4.5)

With the default weights a note scores one, two for each topic word that occurs in it, and a tenth
for each of its list items. In tenths that is a whole number, but a tenth is no double:

- `ItemQuery.exactScore` — the score above one, in tenths;
- `ItemQuery.rounded_score` — the score in doubles is what that comes to, rounded five times;
- `ItemQuery.score_lt_of_exactScore_lt` — so a note of a lower exact score scores lower, unless the
  scores are out of all proportion;
- `ItemQuery.resolve_default` — a note of the highest exact score answers, and the earliest of them
  unless a later one comes out higher by rounding;
- `ItemQuery.later_tied_note_answers` — which does happen.
-/

namespace Notebook

namespace ItemQuery

/-- What a note scores above one with the default weights, in tenths. -/
def exactScore (query : ItemQuery) (note : Note) : Nat :=
  20 * matchedWords note.haystack (query.words {}) + itemCount (NoteList.ofText note.content)

/-! ### Scores in doubles -/

section Scores

variable {query : ItemQuery} {note other : Note}

/-- A score in doubles has gone through five roundings. -/
theorem rounded_score (h : query.exactScore note < 2 ^ 49) :
    Rounded 5 (query.score {} note) (1 + query.exactScore note / 10) := by
  obtain ⟨m, hm⟩ : ∃ m, m = matchedWords note.haystack (query.words {}) := ⟨_, rfl⟩
  obtain ⟨n, hn⟩ : ∃ n, n = itemCount (NoteList.ofText note.content) := ⟨_, rfl⟩
  rw [exactScore, ← hm, ← hn] at h ⊢
  have hbound : (20 * m + n : ℚ) ≤ 2 ^ 49 := by exact_mod_cast h.le
  have hm0 : (0 : ℚ) ≤ m := by positivity
  have hn0 : (0 : ℚ) ≤ n := by positivity
  have hwords : Rounded 3 (2.0 * Float.ofNat m) (2 * m) :=
    rounded_two.mul (rounded_ofNat (by omega)) (by decide)
      (mul_nat_eq_zero_or_le (by norm_num) m) (by linarith)
  have hitems : Rounded 4 (0.1 * Float.ofNat n) (1 / 10 * n) :=
    rounded_tenth.mul (rounded_ofNat (by omega)) (by decide)
      (mul_nat_eq_zero_or_le (by norm_num) n) (by linarith)
  have hbase : Rounded 4 (1.0 + 2.0 * Float.ofNat m) (1 + 2 * m) :=
    (rounded_one.mono (by decide)).add hwords (by decide) (by linarith)
  have hsum := hbase.add hitems (by decide) (by linarith)
  -- The exact score counts in tenths, and each operation in doubles has added a rounding.
  have hvalue : (1 + 2 * m + 1 / 10 * n : ℚ) = 1 + ((20 * m + n : Nat) : ℚ) / 10 := by
    push_cast
    ring
  rw [hvalue] at hsum
  rw [score, Scoring.score, ← hm, ← hn]
  exact hsum

/-- Rounding does not make up for a tenth. -/
theorem score_lt_of_exactScore_lt (hlt : query.exactScore note < query.exactScore other)
    (hbound : query.exactScore other < 2 ^ 49) : query.score {} note < query.score {} other := by
  have hnote := rounded_score (hlt.trans hbound)
  refine hnote.lt (rounded_score hbound) ?_
  have hstep : (query.exactScore note : ℚ) + 1 ≤ query.exactScore other := by exact_mod_cast hlt
  have hmax : (query.exactScore other : ℚ) < 2 ^ 49 := by exact_mod_cast hbound
  norm_num [roundoff]
  linarith

theorem isNaN_score_eq_false (h : query.exactScore note < 2 ^ 49) :
    (query.score {} note).isNaN = false :=
  (rounded_score h).isNaN_eq_false

end Scores

/-! ### The earliest note of the highest exact score -/

/-- A note is the earliest candidate of the highest exact score; `before` are the notes before
it. -/
structure EarliestExact (query : ItemQuery) (notes before : List Note) (note : Note) : Prop where
  candidate : query.IsCandidate note
  highest : ∀ other ∈ notes, query.IsCandidate other →
    query.exactScore other ≤ query.exactScore note
  earliest : ∀ other ∈ before, query.IsCandidate other →
    query.exactScore other < query.exactScore note

/-- Notes with a candidate among them have an earliest one of the highest exact score. -/
theorem exists_earliestExact {query : ItemQuery} {notes : List Note}
    (h : ∃ note ∈ notes, query.IsCandidate note) :
    ∃ before note after, notes = before ++ note :: after ∧
      query.EarliestExact notes before note := by
  induction notes with
  | nil =>
    obtain ⟨note, hnote, -⟩ := h
    cases hnote
  | cons first rest ih =>
    by_cases hrest : ∃ note ∈ rest, query.IsCandidate note
    · obtain ⟨before, note, after, rfl, hearliest⟩ := ih hrest
      by_cases hfirst : query.IsCandidate first ∧ query.exactScore note ≤ query.exactScore first
      · refine ⟨[], first, _, rfl, hfirst.1, ?_, nofun⟩
        intro other hother hcandidate
        rcases List.mem_cons.mp hother with rfl | hother
        · exact le_rfl
        · exact (hearliest.highest other hother hcandidate).trans hfirst.2
      · -- The first note is no candidate, or the best of the others exceeds it.
        have hlower : query.IsCandidate first →
            query.exactScore first < query.exactScore note :=
          fun hcandidate => not_le.mp fun hle => hfirst ⟨hcandidate, hle⟩
        refine ⟨first :: before, note, after, rfl, hearliest.candidate, ?_, ?_⟩
        · intro other hother hcandidate
          rcases List.mem_cons.mp hother with rfl | hother
          · exact (hlower hcandidate).le
          · exact hearliest.highest other hother hcandidate
        · intro other hother hcandidate
          rcases List.mem_cons.mp hother with rfl | hother
          · exact hlower hcandidate
          · exact hearliest.earliest other hother hcandidate
    · have hnone : ∀ other ∈ rest, ¬query.IsCandidate other :=
        fun other hother hcandidate => hrest ⟨other, hother, hcandidate⟩
      obtain ⟨note, hnote, hcandidate⟩ := h
      obtain rfl : note = first :=
        (List.mem_cons.mp hnote).resolve_right fun hnote => hnone note hnote hcandidate
      refine ⟨[], note, rest, rfl, hcandidate, ?_, nofun⟩
      intro other hother hcandidate
      rcases List.mem_cons.mp hother with rfl | hother
      · exact le_rfl
      · exact absurd hcandidate (hnone other hother)

/-! ### The note that answers -/

/-- A note is chosen to answer a query: what it could answer is the best of what the notes could,
and the result is taken from it. -/
structure Chooses (query : ItemQuery) (notes : List Note) (s : Scoring) (note : Note) : Prop where
  best : Candidate.best? (notes.filterMap (Candidate.ofNote? s query)) =
    Candidate.ofNote? s query note
  taken : query.TakenFrom note (query.resolve notes s)

section Answer

variable {query : ItemQuery} {notes before after : List Note} {note : Note}

theorem Chooses.of_best {s : Scoring} {c : Candidate} (hc : Candidate.ofNote? s query note = some c)
    (hbest : Candidate.best? (notes.filterMap (Candidate.ofNote? s query)) = some c) :
    query.Chooses notes s note where
  best := hbest.trans hc.symm
  taken := by
    rw [resolve_of_best hbest]
    exact Candidate.takenFrom hc

theorem exists_best? {s : Scoring} (hsome : ∃ note ∈ notes, query.IsCandidate note) :
    ∃ c, Candidate.best? (notes.filterMap (Candidate.ofNote? s query)) = some c := by
  obtain ⟨note, hnote, hcandidate⟩ := hsome
  rw [← Option.ne_none_iff_exists']
  intro hnone
  exact filterMap_eq_nil.mp (Candidate.best?_eq_none_iff.mp hnone) note hnote hcandidate

/-- The earliest note of the highest exact score leads among what the notes could answer if no later
one of the same exact score comes out higher. -/
theorem leads_of_earliestExact {c : Candidate}
    (hbound : ∀ other ∈ before ++ note :: after, query.IsCandidate other →
      query.exactScore other < 2 ^ 49)
    (h : query.EarliestExact (before ++ note :: after) before note)
    (hc : Candidate.ofNote? {} query note = some c)
    (htied : ∀ other ∈ after, query.IsCandidate other →
      query.exactScore other = query.exactScore note →
      ¬query.score {} note < query.score {} other) :
    Candidate.Leads (before.filterMap (Candidate.ofNote? {} query)) c
      (after.filterMap (Candidate.ofNote? {} query)) where
  beats := by
    intro d hd
    obtain ⟨other, hother, hd⟩ := List.mem_filterMap.mp hd
    have hcandidate := Candidate.isCandidate_of_ofNote? hd
    rw [Candidate.score_of_ofNote? hd, Candidate.score_of_ofNote? hc]
    exact score_lt_of_exactScore_lt (h.earliest other hother hcandidate)
      (hbound note (by simp) h.candidate)
  stands := by
    intro d hd
    obtain ⟨other, hother, hd⟩ := List.mem_filterMap.mp hd
    have hcandidate := Candidate.isCandidate_of_ofNote? hd
    have hmem : other ∈ before ++ note :: after := by simp [hother]
    rw [Candidate.score_of_ofNote? hd, Candidate.score_of_ofNote? hc]
    -- A lower exact score is lower in doubles too; only equal ones may come out either way.
    rcases (h.highest other hmem hcandidate).lt_or_eq with hlt | heq
    · have hnote := hbound note (by simp) h.candidate
      exact float_lt_asymm (isNaN_score_eq_false (hlt.trans hnote)) (isNaN_score_eq_false hnote)
        (score_lt_of_exactScore_lt hlt hnote)
    · exact htied other hother hcandidate heq

section Bounded

variable (hbound : ∀ other ∈ notes, query.IsCandidate other → query.exactScore other < 2 ^ 49)

include hbound

/-- No candidate comes out higher than the one that is chosen. -/
theorem Chooses.not_lt {other : Note} (h : query.Chooses notes {} note) (hother : other ∈ notes)
    (hnote : query.IsCandidate note) (hcandidate : query.IsCandidate other) :
    ¬query.score {} note < query.score {} other := by
  obtain ⟨c, hc⟩ := Candidate.ofNote?_of_isCandidate (s := {}) hnote
  obtain ⟨d, hd⟩ := Candidate.ofNote?_of_isCandidate (s := {}) hcandidate
  rw [← Candidate.score_of_ofNote? hc, ← Candidate.score_of_ofNote? hd]
  refine Candidate.not_lt_of_best? (h.best.trans hc) (List.mem_filterMap.mpr ⟨other, hother, hd⟩) ?_
  intro e he
  obtain ⟨source, hsource, he⟩ := List.mem_filterMap.mp he
  rw [Candidate.score_of_ofNote? he]
  exact isNaN_score_eq_false (hbound source hsource (Candidate.isCandidate_of_ofNote? he))

/-- A candidate of the highest exact score is chosen. -/
theorem exists_chooses (hnote : note ∈ notes) (h : query.EarliestExact notes before note) :
    ∃ winner ∈ notes, query.IsCandidate winner ∧
      query.exactScore winner = query.exactScore note ∧ query.Chooses notes {} winner := by
  obtain ⟨c, hbest⟩ := exists_best? (s := {}) ⟨note, hnote, h.candidate⟩
  obtain ⟨winner, hwinner, hc⟩ := List.mem_filterMap.mp (Candidate.mem_of_best? hbest)
  have hcandidate := Candidate.isCandidate_of_ofNote? hc
  have hchosen := Chooses.of_best hc hbest
  refine ⟨winner, hwinner, hcandidate, ?_, hchosen⟩
  -- With a lower exact score it would score lower.
  refine (h.highest winner hwinner hcandidate).eq_of_not_lt fun hlt => ?_
  exact hchosen.not_lt hbound hnote hcandidate h.candidate
    (score_lt_of_exactScore_lt hlt (hbound note hnote h.candidate))

end Bounded

/-- **With the default weights a note of the highest exact score answers**, and the earliest of them
unless a later one comes out higher by rounding. -/
theorem resolve_default (query : ItemQuery) (notes : List Note)
    (hsome : ∃ note ∈ notes, query.IsCandidate note)
    (hbound : ∀ note ∈ notes, query.IsCandidate note → query.exactScore note < 2 ^ 49) :
    ∃ before note after, notes = before ++ note :: after ∧
      query.EarliestExact notes before note ∧
      (∃ winner ∈ notes, query.IsCandidate winner ∧
        query.exactScore winner = query.exactScore note ∧ query.Chooses notes {} winner) ∧
      (query.Chooses notes {} note ↔
        ∀ other ∈ after, query.IsCandidate other →
          query.exactScore other = query.exactScore note →
          ¬query.score {} note < query.score {} other) := by
  obtain ⟨before, note, after, rfl, hearliest⟩ := exists_earliestExact hsome
  have hnote : note ∈ before ++ note :: after := by simp
  refine ⟨before, note, after, rfl, hearliest, exists_chooses hbound hnote hearliest, ?_⟩
  constructor
  · intro hchosen other hother hcandidate _
    exact hchosen.not_lt hbound (by simp [hother]) hearliest.candidate hcandidate
  · -- Nothing in front comes near, and nothing behind comes out higher, so the note leads.
    intro htied
    obtain ⟨c, hc⟩ := Candidate.ofNote?_of_isCandidate (s := {}) hearliest.candidate
    refine Chooses.of_best hc ?_
    rw [List.filterMap_append, List.filterMap_cons_some hc]
    exact Candidate.best?_of_leads (leads_of_earliestExact hbound hearliest hc htied)

end Answer

/-- Of two notes with as many items the one on bread answers, though it is the later one. -/
theorem resolve_default_bread :
    let query : ItemQuery := ⟨1, some "bread".toList⟩
    let tea : Note := ⟨"Tea".toList, "1. leaves\n2. water".toList⟩
    let bread : Note := ⟨"Bread".toList, "1. flour\n2. salt".toList⟩
    (∃ note ∈ [tea, bread], query.IsCandidate note) ∧
      (∀ note ∈ [tea, bread], query.IsCandidate note → query.exactScore note < 2 ^ 49) ∧
      query.Chooses [tea, bread] {} bread := by
  intro query tea bread
  have hcandidate : query.IsCandidate bread := by
    unfold IsCandidate
    decide +kernel
  have hscores : query.exactScore tea = 2 ∧ query.exactScore bread = 22 := by decide +kernel
  have hsome : ∃ note ∈ [tea, bread], query.IsCandidate note := ⟨bread, by simp, hcandidate⟩
  have hbound : ∀ note ∈ [tea, bread], query.IsCandidate note →
      query.exactScore note < 2 ^ 49 := by
    intro note hnote _
    rcases List.mem_pair.mp hnote with rfl | rfl
    · omega
    · omega
  obtain ⟨_, note, _, -, hearliest, ⟨winner, hwinner, -, hsame, hchosen⟩, -⟩ :=
    resolve_default query [tea, bread] hsome hbound
  -- The winner has the highest exact score, and that of the note on tea is lower.
  have hhighest := hearliest.highest bread (by simp) hcandidate
  rcases List.mem_pair.mp hwinner with rfl | rfl
  · omega
  · exact ⟨hsome, hbound, hchosen⟩

/-- One word and three items come to as much as twenty-three items, but to less in doubles, so the
later note answers. -/
theorem later_tied_note_answers :
    let query : ItemQuery := ⟨1, some "bread".toList⟩
    let bread : Note := ⟨"Bread".toList, "1. mix\n2. knead\n3. bake".toList⟩
    let stars : Note := ⟨"Stars".toList, (List.replicate 23 "- star\n".toList).flatten⟩
    query.exactScore bread = 23 ∧ query.exactScore stars = 23 ∧
      query.score {} bread < query.score {} stars ∧
      (query.resolve [bread, stars] {}).noteTitle = some stars.title := by
  decide +kernel

end ItemQuery

end Notebook
