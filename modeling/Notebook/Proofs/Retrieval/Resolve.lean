import Mathlib.Data.List.Induction
import Notebook.Proofs.Number.Order
import Notebook.Retrieval.Resolve

/-!
# The note that answers (specification §4.5)

Candidates are gone through once, and the best so far gives way only to a higher score. This module
says what is left at the end:

- `Candidate.best?_split` — the best candidate scores higher than all before it and is exceeded by
  none after it, if all scores are numbers; `Candidate.best?_of_leads` is the converse;
- `ItemQuery.Answered` — what it means that a result answers a query from notes;
- `ItemQuery.resolve_answered` — looking a query up yields such a result;
- `ItemQuery.resolve_of_only` — the only candidate answers without being compared with anything.

A score that is no number neither exceeds another nor is exceeded, so with one among the candidates
the winner is still a candidate, but it need not have the highest score.
-/

namespace Notebook

/-! ### The first item at a position -/

/-- The items of a note's lists, in the order they stand in. -/
def Note.items (note : Note) : List ListItem := (NoteList.ofText note.content).flatMap (·.items)

/-- Looking through lists one after another is looking through their items. -/
theorem itemAt?_eq_find? (lists : List NoteList) (position : Nat) :
    itemAt? lists position = (lists.flatMap (·.items)).find? (·.position = position) := by
  induction lists with
  | nil => rfl
  | cons list rest ih =>
    rw [List.flatMap_cons, List.find?_append, ← ih]
    unfold itemAt? NoteList.at?
    rw [List.findSome?_cons]
    cases list.items.find? (·.position = position) <;> rfl

/-- The item a note answers a query with: its first at the position asked for. -/
structure ItemQuery.FirstAt (query : ItemQuery) (note : Note) (item : ListItem) : Prop where
  position : item.position = query.position
  first : ∃ before after, note.items = before ++ item :: after ∧
    ∀ other ∈ before, other.position ≠ query.position

theorem ItemQuery.firstAt_of_itemAt? {query : ItemQuery} {note : Note} {item : ListItem}
    (h : itemAt? (NoteList.ofText note.content) query.position = some item) :
    query.FirstAt note item := by
  rw [itemAt?_eq_find?, List.find?_eq_some_iff_append] at h
  obtain ⟨hposition, before, after, hitems, hbefore⟩ := h
  refine ⟨of_decide_eq_true hposition, before, after, hitems, ?_⟩
  intro other hother
  simpa using hbefore other hother

/-! ### The best of several candidates -/

namespace Candidate

/-- A candidate that scores higher than those before it and is not exceeded by those after it. -/
structure Leads (before : List Candidate) (c : Candidate) (after : List Candidate) : Prop where
  beats : ∀ d ∈ before, d.score < c.score
  stands : ∀ d ∈ after, ¬c.score < d.score

theorem best?_concat (cs : List Candidate) (d : Candidate) :
    best? (cs ++ [d]) = better (best? cs) d := by
  unfold best?
  rw [List.foldl_append, List.foldl_cons, List.foldl_nil]

/-- There is a best candidate as soon as there is a candidate. -/
theorem best?_eq_none_iff {cs : List Candidate} : best? cs = none ↔ cs = [] := by
  induction cs using List.reverseRecOn with
  | nil => exact ⟨fun _ => rfl, fun _ => rfl⟩
  | append_singleton cs d =>
    have hne : better (best? cs) d ≠ none := by
      unfold better
      split
      · exact Option.some_ne_none d
      · split <;> exact Option.some_ne_none _
    rw [best?_concat]
    constructor
    · intro h
      exact absurd h hne
    · intro h
      exact absurd h (by simp)

/-- No candidate scores higher than one that leads. -/
theorem Leads.not_lt {before after : List Candidate} {c d : Candidate} (h : Leads before c after)
    (hd : d ∈ before ++ c :: after) (hnumc : c.score.isNaN = false)
    (hnumd : d.score.isNaN = false) : ¬c.score < d.score := by
  rcases List.mem_append.mp hd with hb | ha
  · exact float_lt_asymm hnumd hnumc (h.beats d hb)
  · rcases List.mem_cons.mp ha with rfl | ha
    · intro hlt
      exact float_lt_asymm hnumd hnumd hlt hlt
    · exact h.stands d ha

/-- A candidate that leads stays ahead of one more that does not score higher. -/
theorem Leads.concat {before after : List Candidate} {c d : Candidate} (h : Leads before c after)
    (hd : ¬c.score < d.score) : Leads before c (after ++ [d]) where
  beats := h.beats
  stands := by
    intro e he
    rcases List.mem_append.mp he with he | he
    · exact h.stands e he
    · rw [List.mem_singleton.mp he]
      exact hd

/-- A candidate that scores higher than the leading one takes its place. -/
theorem Leads.overtaken {before after : List Candidate} {c d : Candidate}
    (h : Leads before c after)
    (hnum : ∀ e ∈ before ++ c :: after, e.score.isNaN = false) (hnumd : d.score.isNaN = false)
    (hd : c.score < d.score) : Leads (before ++ c :: after) d [] where
  beats := by
    intro e he
    have hnumc := hnum c (List.mem_append_right _ List.mem_cons_self)
    have hnume := hnum e he
    rcases List.mem_append.mp he with hb | ha
    · exact float_lt_trans hnume hnumc hnumd (h.beats e hb) hd
    · rcases List.mem_cons.mp ha with rfl | ha
      · exact hd
      · exact float_lt_of_not_lt_of_lt hnume hnumc hnumd (h.stands e ha) hd
  stands := by
    intro e he
    cases he

/-- The best candidate is one of them, and leads if all scores are numbers. -/
theorem best?_split {cs : List Candidate} {c : Candidate} (h : best? cs = some c) :
    ∃ before after, cs = before ++ c :: after ∧
      ((∀ d ∈ cs, d.score.isNaN = false) → Leads before c after) := by
  induction cs using List.reverseRecOn generalizing c with
  | nil => cases h
  | append_singleton cs d ih =>
    rw [best?_concat] at h
    cases hbest : best? cs with
    | none =>
      rw [hbest] at h
      obtain rfl := Option.some.inj h
      obtain rfl := best?_eq_none_iff.mp hbest
      refine ⟨[], [], rfl, fun _ => ⟨?_, ?_⟩⟩ <;> intro e he <;> cases he
    | some b =>
      -- The last candidate overtakes the one that leads, or that one stays ahead.
      obtain ⟨before, after, rfl, hleads⟩ := ih hbest
      rw [hbest] at h
      unfold better at h
      simp only at h
      split at h
      · rename_i hd
        obtain rfl := Option.some.inj h
        refine ⟨before ++ b :: after, [], rfl, ?_⟩
        intro hnum
        have hnum' : ∀ e ∈ before ++ b :: after, e.score.isNaN = false :=
          fun e he => hnum e (List.mem_append_left _ he)
        exact (hleads hnum').overtaken hnum' (hnum d List.mem_concat_self) hd
      · rename_i hd
        obtain rfl := Option.some.inj h
        refine ⟨before, after ++ [d], by rw [List.append_assoc, List.cons_append], ?_⟩
        intro hnum
        exact (hleads fun e he => hnum e (List.mem_append_left _ he)).concat hd

theorem mem_of_best? {cs : List Candidate} {c : Candidate} (h : best? cs = some c) : c ∈ cs := by
  obtain ⟨before, after, rfl, -⟩ := best?_split h
  exact List.mem_append_right _ List.mem_cons_self

/-- No candidate scores higher than the best one. -/
theorem not_lt_of_best? {cs : List Candidate} {c d : Candidate} (h : best? cs = some c)
    (hd : d ∈ cs) (hnum : ∀ e ∈ cs, e.score.isNaN = false) : ¬c.score < d.score := by
  obtain ⟨before, after, rfl, hleads⟩ := best?_split h
  exact (hleads hnum).not_lt hd (hnum c (mem_of_best? h)) (hnum d hd)

/-- A candidate that leads is the best one. -/
theorem best?_of_leads {before after : List Candidate} {c : Candidate} (h : Leads before c after) :
    best? (before ++ c :: after) = some c := by
  induction after using List.reverseRecOn with
  | nil =>
    rw [best?_concat]
    cases hbest : best? before with
    | none => rfl
    | some b => exact if_pos (h.beats b (mem_of_best? hbest))
  | append_singleton after d ih =>
    have hrest : Leads before c after :=
      ⟨h.beats, fun e he => h.stands e (List.mem_append_left _ he)⟩
    rw [← List.cons_append, ← List.append_assoc, best?_concat, ih hrest]
    exact if_neg (h.stands d (by simp))

end Candidate

/-! ### Looking a query up -/

/-- A note is a candidate for a query if one of its lists has an item at the position asked for. -/
def ItemQuery.IsCandidate (query : ItemQuery) (note : Note) : Prop :=
  (itemAt? (NoteList.ofText note.content) query.position).isSome

/-- What a note scores for a query. -/
def ItemQuery.score (query : ItemQuery) (s : Scoring) (note : Note) : Float :=
  s.score note.haystack (query.words s) (itemCount (NoteList.ofText note.content))

/-- A result takes its three answers from one note. -/
structure ItemQuery.TakenFrom (query : ItemQuery) (note : Note) (r : QueryResult) : Prop where
  title : r.noteTitle = some note.title
  item : ∃ item, query.FirstAt note item ∧ r.item = some item.content
  context : r.context = some (listContext (NoteList.ofText note.content))

/-- A note is the earliest candidate of the highest score; `before` are the notes before it. -/
structure ItemQuery.EarliestBest (query : ItemQuery) (s : Scoring) (notes before : List Note)
    (note : Note) : Prop where
  highest : ∀ other ∈ notes, query.IsCandidate other → ¬query.score s note < query.score s other
  earliest : ∀ other ∈ before, query.IsCandidate other → query.score s other < query.score s note

/-- What it means that a result answers a query from notes. -/
structure ItemQuery.Answered (query : ItemQuery) (notes : List Note) (s : Scoring)
    (r : QueryResult) : Prop where
  positional : r.isPositional = true
  position : r.position = some query.position
  topic : r.topic = query.topic
  no_item : r.item = none ↔ ∀ note ∈ notes, ¬query.IsCandidate note
  no_title : r.noteTitle = none ↔ ∀ note ∈ notes, ¬query.IsCandidate note
  no_context : r.context = none ↔ ∀ note ∈ notes, ¬query.IsCandidate note
  winner : (∃ note ∈ notes, query.IsCandidate note) →
    ∃ before note after, notes = before ++ note :: after ∧ query.IsCandidate note ∧
      query.TakenFrom note r ∧
      ((∀ other ∈ notes, query.IsCandidate other → (query.score s other).isNaN = false) →
        query.EarliestBest s notes before note)

theorem Candidate.isCandidate_of_ofNote? {s : Scoring} {query : ItemQuery} {note : Note}
    {c : Candidate} (h : Candidate.ofNote? s query note = some c) : query.IsCandidate note := by
  obtain ⟨item, hitem, -⟩ := Option.map_eq_some_iff.mp h
  exact Option.isSome_iff_exists.mpr ⟨item, hitem⟩

theorem Candidate.score_of_ofNote? {s : Scoring} {query : ItemQuery} {note : Note}
    {c : Candidate} (h : Candidate.ofNote? s query note = some c) :
    c.score = query.score s note := by
  obtain ⟨item, -, rfl⟩ := Option.map_eq_some_iff.mp h
  rfl

theorem Candidate.ofNote?_of_isCandidate {s : Scoring} {query : ItemQuery} {note : Note}
    (h : query.IsCandidate note) : ∃ c, Candidate.ofNote? s query note = some c := by
  obtain ⟨item, hitem⟩ := Option.isSome_iff_exists.mp h
  exact ⟨_, Option.map_eq_some_iff.mpr ⟨item, hitem, rfl⟩⟩

/-- A result made of what a note could answer takes its answers from that note. -/
theorem Candidate.takenFrom {s : Scoring} {query : ItemQuery} {note : Note} {c : Candidate}
    (h : Candidate.ofNote? s query note = some c) :
    query.TakenFrom note (.ofCandidate query c) := by
  obtain ⟨item, hitem, rfl⟩ := Option.map_eq_some_iff.mp h
  exact ⟨rfl, ⟨item, ItemQuery.firstAt_of_itemAt? hitem, rfl⟩, rfl⟩

/-- Notes without a candidate leave no answer to choose from. -/
theorem ItemQuery.filterMap_eq_nil {s : Scoring} {query : ItemQuery} {notes : List Note} :
    notes.filterMap (Candidate.ofNote? s query) = [] ↔ ∀ note ∈ notes, ¬query.IsCandidate note := by
  rw [List.filterMap_eq_nil_iff]
  constructor
  · intro h note hnote hcand
    obtain ⟨c, hc⟩ := Candidate.ofNote?_of_isCandidate (s := s) hcand
    rw [h note hnote] at hc
    cases hc
  · intro h note hnote
    rw [Option.eq_none_iff_forall_not_mem]
    intro c hc
    exact h note hnote (Candidate.isCandidate_of_ofNote? hc)

/-- What is kept of a list comes from its elements, in their order. -/
theorem exists_of_filterMap_split {α β : Type} {f : α → Option β} {xs : List α}
    {front back : List β} {b : β} (h : xs.filterMap f = front ++ b :: back) :
    ∃ before a after, xs = before ++ a :: after ∧ before.filterMap f = front ∧ f a = some b := by
  obtain ⟨xs₁, xs₂, rfl, hfront, hback⟩ := List.filterMap_eq_append_iff.mp h
  obtain ⟨skipped, a, after, rfl, hskipped, ha, -⟩ := List.filterMap_eq_cons_iff.mp hback
  refine ⟨xs₁ ++ skipped, a, after, by rw [List.append_assoc], ?_, ha⟩
  rw [List.filterMap_append, hfront, List.filterMap_eq_nil_iff.mpr hskipped, List.append_nil]

/-- If a candidate leads among what notes could answer, the note it comes from is the earliest
best. -/
theorem ItemQuery.earliestBest_of_leads {s : Scoring} {query : ItemQuery}
    {notes before : List Note} {note : Note} {front back : List Candidate} {c : Candidate}
    (hnotes : notes.filterMap (Candidate.ofNote? s query) = front ++ c :: back)
    (hbefore : before.filterMap (Candidate.ofNote? s query) = front)
    (hnote : Candidate.ofNote? s query note = some c)
    (hnum : ∀ d ∈ front ++ c :: back, d.score.isNaN = false)
    (h : Candidate.Leads front c back) : query.EarliestBest s notes before note where
  -- Scores are numbers, so what does not lead is not higher.
  highest := by
    intro other hother hcand
    obtain ⟨d, hd⟩ := Candidate.ofNote?_of_isCandidate (s := s) hcand
    have hmem : d ∈ front ++ c :: back := by
      rw [← hnotes]
      exact List.mem_filterMap.mpr ⟨other, hother, hd⟩
    rw [← Candidate.score_of_ofNote? hd, ← Candidate.score_of_ofNote? hnote]
    exact h.not_lt hmem (hnum c (List.mem_append_right _ List.mem_cons_self)) (hnum d hmem)
  earliest := by
    intro other hother hcand
    obtain ⟨d, hd⟩ := Candidate.ofNote?_of_isCandidate (s := s) hcand
    have hmem : d ∈ front := by
      rw [← hbefore]
      exact List.mem_filterMap.mpr ⟨other, hother, hd⟩
    rw [← Candidate.score_of_ofNote? hd, ← Candidate.score_of_ofNote? hnote]
    exact h.beats d hmem

/-- A result without a winner answers a query that has no candidate. -/
theorem ItemQuery.unanswered_answered {query : ItemQuery} {notes : List Note} {s : Scoring}
    (h : ∀ note ∈ notes, ¬query.IsCandidate note) :
    query.Answered notes s (.unanswered query) where
  positional := rfl
  position := rfl
  topic := rfl
  no_item := iff_of_true rfl h
  no_title := iff_of_true rfl h
  no_context := iff_of_true rfl h
  winner := by
    rintro ⟨note, hnote, hcand⟩
    exact absurd hcand (h note hnote)

/-- A result made of the best candidate answers the query. -/
theorem ItemQuery.ofCandidate_answered {query : ItemQuery} {notes : List Note} {s : Scoring}
    {c : Candidate}
    (h : Candidate.best? (notes.filterMap (Candidate.ofNote? s query)) = some c) :
    query.Answered notes s (.ofCandidate query c) := by
  obtain ⟨front, back, hsplit, hleads⟩ := Candidate.best?_split h
  obtain ⟨before, note, after, hnotes, hbefore, hnote⟩ := exists_of_filterMap_split hsplit
  have hcand := Candidate.isCandidate_of_ofNote? hnote
  have hmem : note ∈ notes := by
    rw [hnotes]
    exact List.mem_append_right _ List.mem_cons_self
  have hsome : ¬∀ note ∈ notes, ¬query.IsCandidate note := fun hnone => hnone note hmem hcand
  -- With a candidate none of the three answers is missing.
  refine ⟨rfl, rfl, rfl, ?_, ?_, ?_, ?_⟩
  · exact iff_of_false (Option.some_ne_none _) hsome
  · exact iff_of_false (Option.some_ne_none _) hsome
  · exact iff_of_false (Option.some_ne_none _) hsome
  · intro _
    refine ⟨before, note, after, hnotes, hcand, Candidate.takenFrom hnote, ?_⟩
    intro hnum
    have hnum' : ∀ d ∈ notes.filterMap (Candidate.ofNote? s query), d.score.isNaN = false := by
      intro d hd
      obtain ⟨other, hother, hd⟩ := List.mem_filterMap.mp hd
      rw [Candidate.score_of_ofNote? hd]
      exact hnum other hother (Candidate.isCandidate_of_ofNote? hd)
    have hlead := hleads hnum'
    rw [hsplit] at hnum'
    exact earliestBest_of_leads hsplit hbefore hnote hnum' hlead

/-- **Looking a query up answers it**: nothing is found exactly if no note is a candidate, and
otherwise all that is found is taken from one candidate, which is the earliest of the highest score
if all scores of candidates are numbers. -/
theorem ItemQuery.resolve_answered (query : ItemQuery) (notes : List Note) (s : Scoring) :
    query.Answered notes s (query.resolve notes s) := by
  unfold resolve
  split
  · rename_i hnone
    rw [Candidate.best?_eq_none_iff, filterMap_eq_nil] at hnone
    exact unanswered_answered hnone
  · rename_i c hbest
    exact ofCandidate_answered hbest

/-- The best candidate answers a query. -/
theorem ItemQuery.resolve_of_best {query : ItemQuery} {notes : List Note} {s : Scoring}
    {c : Candidate}
    (h : Candidate.best? (notes.filterMap (Candidate.ofNote? s query)) = some c) :
    query.resolve notes s = .ofCandidate query c := by
  rw [resolve, h]

/-- The only candidate answers a query, whatever it scores. -/
theorem ItemQuery.resolve_of_only {query : ItemQuery} {notes : List Note} {s : Scoring}
    {note : Note} {c : Candidate} (hmem : note ∈ notes)
    (hc : Candidate.ofNote? s query note = some c)
    (honly : ∀ other ∈ notes, query.IsCandidate other → other = note) :
    query.resolve notes s = .ofCandidate query c := by
  have hall : ∀ d ∈ notes.filterMap (Candidate.ofNote? s query), d = c := by
    intro d hd
    obtain ⟨other, hother, hd⟩ := List.mem_filterMap.mp hd
    obtain rfl := honly other hother (Candidate.isCandidate_of_ofNote? hd)
    exact Option.some.inj (hd.symm.trans hc)
  have hsome : c ∈ notes.filterMap (Candidate.ofNote? s query) :=
    List.mem_filterMap.mpr ⟨note, hmem, hc⟩
  unfold resolve
  split
  · rename_i hnone
    rw [Candidate.best?_eq_none_iff.mp hnone] at hsome
    cases hsome
  · rename_i d hbest
    obtain ⟨before, after, hsplit, -⟩ := Candidate.best?_split hbest
    rw [hall d (by simp [hsplit])]

end Notebook
