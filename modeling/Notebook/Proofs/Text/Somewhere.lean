import Mathlib.Algebra.GroupWithZero.Nat
import Mathlib.Tactic.ByContra
import Notebook.Proofs.Text.Gap
import Notebook.Text.Scan

/-!
# Properties of places in a text

A place in a text is given by the character before it, if there is one, and the text from there on.

- `Text.Somewhere` — some place in a text has a property; `Text.Occurs` — some place is an
  occurrence for a reader;
- `Text.GapLocal` — a property that cannot see past a gap;
- `Text.scanFrom_of_not_occurs`, `found_ne_nil_of_occurs` — a scan finds something exactly if there
  is an occurrence;
- `Text.occurrences` — how many places in a text are occurrences; `occurrences_eq_of_runs_eq` says
  that for a reader that cannot see past a gap this only depends on the runs of the text.
-/

namespace Notebook

namespace Text

/-- The character before what follows `t`, where `before` is the character before `t`. -/
def lastOf : (before : Option Char) → (t : Text) → Option Char
  | before, [] => before
  | _, c :: rest => lastOf (some c) rest

theorem lastOf_concat (before : Option Char) (t : Text) (c : Char) :
    lastOf before (t ++ [c]) = some c := by
  induction t generalizing before with
  | nil => rfl
  | cons d rest ih => exact ih (some d)

theorem lastOf_none (t : Text) : lastOf none t = t.getLast? := by
  rcases List.eq_nil_or_concat t with rfl | ⟨front, c, rfl⟩
  · rfl
  · rw [List.concat_eq_append, lastOf_concat, List.getLast?_concat]

/-! ### Somewhere in a text -/

/-- Some place in a text has a property; `before` is the character before the text. -/
def Somewhere (p : Option Char → Text → Prop) : (before : Option Char) → Text → Prop
  | _, [] => False
  | before, c :: rest => p before (c :: rest) ∨ Somewhere p (some c) rest

instance Somewhere.instDecidable {p : Option Char → Text → Prop} [∀ b t, Decidable (p b t)] :
    (before : Option Char) → (t : Text) → Decidable (Somewhere p before t)
  | _, [] => isFalse id
  | before, c :: rest =>
    have := Somewhere.instDecidable (p := p) (some c) rest
    inferInstanceAs (Decidable (p before (c :: rest) ∨ Somewhere p (some c) rest))

variable {p : Option Char → Text → Prop} {before : Option Char}

/-- A place in a text divides it in two. -/
theorem somewhere_iff_exists {t : Text} :
    Somewhere p before t ↔ ∃ u v, t = u ++ v ∧ v ≠ [] ∧ p (lastOf before u) v := by
  induction t generalizing before with
  | nil =>
    refine ⟨nofun, ?_⟩
    rintro ⟨u, v, hsplit, hne, -⟩
    exact absurd (List.append_eq_nil_iff.mp hsplit.symm).2 hne
  | cons c rest ih =>
    constructor
    · rintro (here | later)
      · exact ⟨[], c :: rest, rfl, List.cons_ne_nil c rest, here⟩
      · obtain ⟨u, v, rfl, hne, hv⟩ := ih.mp later
        exact ⟨c :: u, v, rfl, hne, hv⟩
    · rintro ⟨u, v, hsplit, hne, hv⟩
      -- The place is this one or one behind it.
      cases u with
      | nil =>
        rw [List.nil_append] at hsplit
        exact Or.inl (hsplit ▸ hv)
      | cons d u =>
        obtain ⟨rfl, rfl⟩ := List.cons.inj hsplit
        exact Or.inr (ih.mpr ⟨u, v, rfl, hne, hv⟩)

/-- If no place in the first part of a text has a property, it is a matter of the second part. -/
theorem somewhere_append_iff {u v : Text}
    (h : ∀ u₁ u₂, u = u₁ ++ u₂ → u₂ ≠ [] → ¬p (lastOf before u₁) (u₂ ++ v)) :
    Somewhere p before (u ++ v) ↔ Somewhere p (lastOf before u) v := by
  induction u generalizing before with
  | nil => exact Iff.rfl
  | cons c u ih =>
    have hhere : ¬p before (c :: (u ++ v)) := h [] (c :: u) rfl (List.cons_ne_nil c u)
    have hlater : Somewhere p (some c) (u ++ v) ↔ Somewhere p (lastOf (some c) u) v :=
      ih fun u₁ u₂ hu hne => h (c :: u₁) u₂ (congrArg (c :: ·) hu) hne
    exact (or_iff_right hhere).trans hlater

/-- The character before a text only matters to the place at its start. -/
theorem Somewhere.change_before {b b' : Option Char} {t : Text} (hstart : p b t → p b' t)
    (h : Somewhere p b t) : Somewhere p b' t := by
  cases t with
  | nil => cases h
  | cons c rest =>
    rcases h with here | later
    · exact Or.inl (hstart here)
    · exact Or.inr later

/-! ### Properties that stop at a gap -/

/-- A property that no gap has, and that sees neither past a gap nor which gap is before it. -/
structure GapLocal (p : Option Char → Text → Prop) : Prop where
  at_gap : ∀ {b g v}, isGap g = true → ¬p b (g :: v)
  before_gap : ∀ {b u g v}, isGap g = true → u ≠ [] → (p b (u ++ g :: v) ↔ p b u)
  after_gap : ∀ {g t}, isGap g = true → (p (some g) t ↔ p none t)

/-! ### Occurrences -/

/-- Some place in a text is an occurrence for a reader. -/
def Occurs {α : Type} (read : Reader α) (before : Option Char) (t : Text) : Prop :=
  Somewhere (fun b u => (read b u).isSome) before t

instance {α : Type} (read : Reader α) (before : Option Char) (t : Text) :
    Decidable (Occurs read before t) :=
  inferInstanceAs (Decidable (Somewhere _ before t))

variable {α : Type} {read : Reader α}

theorem occurs_cons {c : Char} {t : Text} : Occurs read before (c :: t) ↔
    (read before (c :: t)).isSome ∨ Occurs read (some c) t := Iff.rfl

/-- There is no occurrence in a text of characters at which nothing is read. -/
theorem not_occurs_of_forall {t : Text} (h : ∀ c ∈ t, ∀ b rest, read b (c :: rest) = none) :
    ¬Occurs read before t := by
  induction t generalizing before with
  | nil => exact id
  | cons c rest ih =>
    rw [occurs_cons, h c List.mem_cons_self]
    rintro (here | later)
    · cases here
    · exact ih (fun d hd => h d (List.mem_cons_of_mem _ hd)) later

/-- There is no occurrence in a text in whose suffixes nothing is read. -/
theorem not_occurs_of_suffixes {t : Text}
    (h : ∀ {before s}, s <:+ t → read before s = none) : ¬Occurs read before t := by
  intro hocc
  obtain ⟨u, v, rfl, -, hread⟩ := somewhere_iff_exists.mp hocc
  rw [h (List.suffix_append u v)] at hread
  cases hread

/-- Without an occurrence every character stays. -/
theorem scanFrom_of_not_occurs {t : Text} (h : ¬Occurs read before t) :
    scanFrom read 0 0 before t = t.map .char := by
  induction t generalizing before with
  | nil => rfl
  | cons c rest ih =>
    have hnone : read before (c :: rest) = none := by
      by_contra hsome
      exact h (Or.inl (Option.isSome_iff_ne_none.mpr hsome))
    rw [scanFrom, hnone, List.map_cons, ← ih fun later => h (Or.inr later)]

/-- With an occurrence something is found. -/
theorem found_ne_nil_of_occurs {t : Text} (h : Occurs read before t) :
    found (scanFrom read 0 0 before t) ≠ [] := by
  induction t generalizing before with
  | nil => cases h
  | cons c rest ih =>
    rw [scanFrom]
    cases hread : read before (c :: rest) with
    | some f => exact List.cons_ne_nil _ _
    | none =>
      rcases h with here | later
      · rw [hread] at here
        cases here
      · exact ih later

/-- Characters that stay are the text, and nothing is found among them. -/
theorem substitute_map_char {replacement t : Text} :
    substitute replacement (t.map (Piece.char (α := α))) = t := by
  induction t with
  | nil => rfl
  | cons c rest ih => exact congrArg (c :: ·) ih

theorem found_map_char {t : Text} : found (t.map (Piece.char (α := α))) = [] := by
  induction t with
  | nil => rfl
  | cons c rest ih => exact ih

/-! ### How many occurrences -/

/-- How many places in a text are occurrences for a reader. -/
def occurrences (read : Reader α) : (before : Option Char) → Text → Nat
  | _, [] => 0
  | before, c :: rest =>
    (if (read before (c :: rest)).isSome then 1 else 0) + occurrences read (some c) rest

theorem occurrences_eq_zero_iff {t : Text} :
    occurrences read before t = 0 ↔ ¬Occurs read before t := by
  induction t generalizing before with
  | nil => simp [occurrences, Occurs, Somewhere]
  | cons c rest ih =>
    have hlater : occurrences read (some c) rest = 0 ↔ ¬Occurs read (some c) rest := ih
    show _ + _ = 0 ↔ ¬(_ ∨ Occurs read (some c) rest)
    rw [Nat.add_eq_zero_iff, hlater, not_or]
    simp

/-- A text has at least the occurrences of its second part. -/
theorem occurrences_append_left (u v : Text) :
    occurrences read (lastOf before u) v ≤ occurrences read before (u ++ v) := by
  induction u generalizing before with
  | nil => exact Nat.le_refl _
  | cons c u ih => exact Nat.le_add_left_of_le ih

/-- The character before a text only matters to whether its start is an occurrence. -/
theorem occurrences_change_before {b b' : Option Char} {t : Text}
    (hstart : (read b t).isSome → (read b' t).isSome) :
    occurrences read b t ≤ occurrences read b' t := by
  cases t with
  | nil => exact Nat.le_refl _
  | cons c rest =>
    show _ + _ ≤ _ + _
    by_cases h : (read b (c :: rest)).isSome
    · simp [h, hstart h]
    · simp [h]

/-- If every character of a text is an occurrence only where one of another text is, and what
follows has no more occurrences either, then the text has no more than the other. -/
theorem occurrences_cons_le {c : Char} {t t' : Text}
    (hhere : (read before (c :: t)).isSome → (read before (c :: t')).isSome)
    (hlater : occurrences read (some c) t ≤ occurrences read (some c) t') :
    occurrences read before (c :: t) ≤ occurrences read before (c :: t') := by
  show _ + _ ≤ _ + _
  by_cases h : (read before (c :: t)).isSome
  · simpa [h, hhere h] using hlater
  · simpa [h] using Nat.le_add_left_of_le hlater

section Runs

variable (hlocal : GapLocal fun before t => (read before t).isSome)

include hlocal

theorem GapLocal.occurrences_cons_gap {g : Char} (hg : isGap g = true) (t : Text) :
    occurrences read before (g :: t) = occurrences read none t := by
  have hsame : occurrences read (some g) t = occurrences read none t :=
    Nat.le_antisymm (occurrences_change_before (hlocal.after_gap hg).mp)
      (occurrences_change_before (hlocal.after_gap hg).mpr)
  have hgap : ¬(read before (g :: t)).isSome := hlocal.at_gap hg
  simp [occurrences, hgap, hsame]

/-- The occurrences of a text are those before a gap in it and those behind. -/
theorem GapLocal.occurrences_append_gap {g : Char} (hg : isGap g = true) (u v : Text) :
    occurrences read before (u ++ g :: v) =
      occurrences read before u + occurrences read none v := by
  induction u generalizing before with
  | nil => simpa [occurrences] using hlocal.occurrences_cons_gap hg v
  | cons c u ih =>
    have hhere : (read before (c :: u ++ g :: v)).isSome ↔ (read before (c :: u)).isSome :=
      hlocal.before_gap hg (List.cons_ne_nil c u)
    rw [List.cons_append] at hhere
    simp only [List.cons_append, occurrences, hhere, ih, Nat.add_assoc]

/-- The occurrences of a text are those of its runs. -/
theorem GapLocal.occurrences_eq_sum (t : Text) :
    occurrences read none t = ((runs t).map (occurrences read none)).sum := by
  have hsolid : ∀ u : Text, (∀ c ∈ u, isGap c = false) →
      occurrences read none u = ((pieces isGap u).map (occurrences read none)).sum := by
    intro u hu
    rw [pieces_of_solid hu]
    cases u with
    | nil => rfl
    | cons c rest => simp
  rw [runs_eq_pieces]
  induction t using pieces_induction isGap with
  | solid t ht => exact hsolid t ht
  | split u g v hu hg ih =>
    rw [hlocal.occurrences_append_gap hg, pieces_append hg, hsolid u hu, ih, List.map_append,
      List.sum_append]

/-- Texts with the same runs have as many occurrences. -/
theorem GapLocal.occurrences_eq_of_runs_eq {t t' : Text} (h : runs t = runs t') :
    occurrences read none t = occurrences read none t' := by
  rw [hlocal.occurrences_eq_sum, hlocal.occurrences_eq_sum, h]

end Runs

end Text

end Notebook
