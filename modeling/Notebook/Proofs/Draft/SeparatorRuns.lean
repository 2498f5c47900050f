import Notebook.Proofs.Draft.TidyLines

/-!
# Runs of separators in a text

Two separators with nothing but white space between them are a run. Whether a text has one can be
told from its words alone, so what only moves white space about neither makes nor breaks a run:

- `readSeparatorRun_isSome_iff` — a run is a separator with another one ahead;
- `MeetsRun`, `occurs_iff_pieces` — a text has a run exactly if a word has four bars in a row, or a
  word ends in a separator and the next one begins with one;
- `occurs_tidyLines` — tidying lines leaves a run exactly if there is one;
- `settled_iff`, `settled_tidyLines` — the same for the separators at the ends.
-/

namespace Notebook

open Text

/-! ### One run -/

theorem readSeparatorRun_isSome_iff {before : Option Char} {t : Text} :
    (readSeparatorRun before t).isSome ↔ ∃ rest, t = '|' :: '|' :: rest ∧ SeparatorAhead rest := by
  unfold readSeparatorRun
  split
  · rename_i rest
    have hzero : furtherSeparators 0 rest = 0 ↔ ¬SeparatorAhead rest :=
      furtherSeparators_eq_zero_iff
    split
    · rename_i hnone
      refine iff_of_false Bool.false_ne_true ?_
      rintro ⟨rest', hrest, hahead⟩
      simp only [List.cons.injEq, true_and] at hrest
      subst hrest
      exact hzero.mp hnone hahead
    · rename_i hsome
      exact iff_of_true rfl ⟨rest, rfl, by_contra fun hnone => hsome (hzero.mpr hnone)⟩
  · rename_i hbars
    refine iff_of_false Bool.false_ne_true ?_
    rintro ⟨rest, rfl, -⟩
    exact hbars rest rfl

theorem occurs_before (b b' : Option Char) (t : Text) :
    Occurs readSeparatorRun b t ↔ Occurs readSeparatorRun b' t := by
  have hsame : ∀ b b' : Option Char,
      (readSeparatorRun b t).isSome → (readSeparatorRun b' t).isSome := fun b b' h => by
    rwa [readSeparatorRun_before b' b]
  exact ⟨Somewhere.change_before (hsame b b'), Somewhere.change_before (hsame b' b)⟩

theorem SeparatorAhead.append {t : Text} (h : SeparatorAhead t) (v : Text) :
    SeparatorAhead (t ++ v) := by
  induction t with
  | nil => exact absurd h (by decide)
  | cons c t ih =>
    by_cases hc : isBlank c = true
    · rw [List.cons_append, separatorAhead_cons_blank hc]
      exact ih ((separatorAhead_cons_blank hc t).mp h)
    · rw [Bool.not_eq_true] at hc
      obtain ⟨rfl, hhead⟩ := (separatorAhead_cons hc t).mp h
      obtain ⟨more, rfl⟩ := List.head?_eq_some_iff.mp hhead
      exact (separatorAhead_cons hc _).mpr ⟨rfl, rfl⟩

/-- A run in a part of a text is a run in the text. -/
theorem occurs_of_part {t u : Text} (h : t <:+: u) (ht : Occurs readSeparatorRun none t) :
    Occurs readSeparatorRun none u := by
  have hright : ∀ (b : Option Char) (t v : Text), Occurs readSeparatorRun b t →
      Occurs readSeparatorRun b (t ++ v) := by
    intro b t v
    induction t generalizing b with
    | nil => exact nofun
    | cons c rest ih =>
      rintro (here | later)
      · obtain ⟨more, heq, hahead⟩ := readSeparatorRun_isSome_iff.mp here
        refine Or.inl (readSeparatorRun_isSome_iff.mpr ⟨more ++ v, ?_, hahead.append v⟩)
        exact congrArg (· ++ v) heq
      · exact Or.inr (ih (some c) later)
  have hleft : ∀ (b : Option Char) (u t : Text), Occurs readSeparatorRun none t →
      Occurs readSeparatorRun b (u ++ t) := by
    intro b u t ht
    induction u generalizing b with
    | nil => exact (occurs_before none b t).mp ht
    | cons c u ih => exact Or.inr (ih (some c))
  obtain ⟨front, back, rfl⟩ := h
  exact hright none (front ++ t) back (hleft none front t ht)

/-! ### Runs and words -/

/-- The words of a text with a run: one with four bars in a row, or one that ends in a separator and
is followed by one that begins with a separator. -/
def MeetsRun : List Text → Prop
  | [] => False
  | w :: ws => ['|', '|', '|', '|'] <:+: w ∨ (separator <:+ w ∧ ∃ v ∈ ws.head?, separator <+: v) ∨
      MeetsRun ws

section Word

variable {u v : Text} (hu : ∀ c ∈ u, isBlank c = false) (hv : ∀ c ∈ v.head?, isBlank c = true)

include hu hv

/-- A separator is ahead in a word, or behind the word if there is none. -/
theorem separatorAhead_append :
    SeparatorAhead (u ++ v) ↔ separator <+: u ∨ (u = [] ∧ SeparatorAhead v) := by
  cases u with
  | nil => simp [separator]
  | cons c u =>
    have hhead : (u ++ v).head? = some '|' ↔ u.head? = some '|' := by
      cases u with
      | nil =>
        refine iff_of_false (fun hbar => ?_) (fun hbar => ?_)
        · exact absurd (hv '|' hbar) (by decide)
        · cases hbar
      | cons d u => exact Iff.rfl
    rw [List.cons_append, separatorAhead_cons (hu c List.mem_cons_self), hhead, separator,
      List.cons_prefix_cons]
    cases u with
    | nil => simp
    | cons d u => simp [List.cons_prefix_cons, eq_comm]

/-- The runs of a text that begins with a word: in the word, behind its end, or in the rest. -/
theorem occurs_append (before : Option Char) :
    Occurs readSeparatorRun before (u ++ v) ↔ ['|', '|', '|', '|'] <:+: u ∨
      (separator <:+ u ∧ SeparatorAhead v) ∨ Occurs readSeparatorRun none v := by
  induction u generalizing before with
  | nil =>
    rw [List.nil_append, occurs_before before none]
    simp [separator]
  | cons c u ih =>
    have hrest : ∀ d ∈ u, isBlank d = false := fun d hd => hu d (List.mem_cons_of_mem _ hd)
    -- What is new is a run at the start: four bars, or a separator that is all of the word.
    have hhere : (readSeparatorRun before (c :: (u ++ v))).isSome ↔
        ['|', '|', '|', '|'] <+: c :: u ∨ (separator = c :: u ∧ SeparatorAhead v) := by
      rw [readSeparatorRun_isSome_iff]
      cases u with
      | nil =>
        refine iff_of_false ?_ (by simp [separator])
        rintro ⟨rest, heq, -⟩
        obtain ⟨-, hbar⟩ := List.cons.inj heq
        exact absurd (hv '|' (List.head?_eq_some_iff.mpr ⟨rest, hbar⟩)) (by decide)
      | cons d u =>
        have hahead := separatorAhead_append (fun e he => hrest e (List.mem_cons_of_mem _ he)) hv
        constructor
        · rintro ⟨rest, heq, hrest⟩
          simp only [List.cons_append, List.cons.injEq] at heq
          obtain ⟨rfl, rfl, rfl⟩ := heq
          rcases hahead.mp hrest with hword | ⟨rfl, hbehind⟩
          · exact Or.inl (List.prefix_append_right_inj ['|', '|'] |>.mpr hword)
          · exact Or.inr ⟨rfl, hbehind⟩
        · rintro (hfour | ⟨hword, hbehind⟩)
          · obtain ⟨more, heq⟩ := hfour
            simp only [List.cons_append, List.nil_append, List.cons.injEq] at heq
            obtain ⟨rfl, rfl, rfl⟩ := heq
            exact ⟨_, rfl, hahead.mpr (Or.inl ⟨more, rfl⟩)⟩
          · obtain ⟨rfl, rfl, rfl⟩ : c = '|' ∧ d = '|' ∧ u = [] := by
              simpa [separator, eq_comm] using hword
            exact ⟨v, rfl, hbehind⟩
    rw [List.cons_append, occurs_cons, hhere, ih hrest, List.infix_cons_iff, List.suffix_cons_iff]
    tauto

end Word

/-- Whether a separator is ahead can be told from the first word. -/
theorem separatorAhead_iff_pieces (t : Text) :
    SeparatorAhead t ↔ ∃ w ∈ (pieces isBlank t).head?, separator <+: w := by
  induction t using pieces_induction isBlank with
  | solid t ht =>
    have hsolid := separatorAhead_append ht (v := []) nofun
    rw [List.append_nil] at hsolid
    rw [hsolid, pieces_of_solid ht]
    cases t with
    | nil => decide
    | cons c t => simp
  | split u g v hu hg ih =>
    rw [separatorAhead_append hu (by simpa using hg), separatorAhead_cons_blank hg, ih,
      pieces_append hg, pieces_of_solid hu]
    cases u with
    | nil => simp [separator]
    | cons c u => simp

/-- **Whether a text has a run can be told from its words.** -/
theorem occurs_iff_pieces (t : Text) :
    Occurs readSeparatorRun none t ↔ MeetsRun (pieces isBlank t) := by
  induction t using pieces_induction isBlank with
  | solid t ht =>
    have hsolid := occurs_append ht (v := []) nofun none
    rw [List.append_nil] at hsolid
    have hnothing : ¬Occurs readSeparatorRun none [] := id
    have hnoneAhead : ¬SeparatorAhead [] := by decide
    rw [hsolid, pieces_of_solid ht]
    cases t with
    | nil => simp [MeetsRun, separator, hnothing]
    | cons c t => simp [MeetsRun, hnothing, hnoneAhead]
  -- No run starts at the blank, so one is in front of it or behind it.
  | split u g v hu hg ih =>
    have hnothing : ¬(readSeparatorRun none (g :: v)).isSome := by
      rw [readSeparatorRun_of_ne (ne_bar_of_isBlank hg)]
      exact Bool.false_ne_true
    rw [occurs_append hu (by simpa using hg), occurs_cons, or_iff_right hnothing,
      occurs_before (some g) none, ih, separatorAhead_cons_blank hg, separatorAhead_iff_pieces,
      pieces_append hg, pieces_of_solid hu]
    cases u with
    | nil => simp [separator]
    | cons c u => simp [MeetsRun]

/-- Texts with the same words have a run or none, both. -/
theorem occurs_iff_of_pieces_eq {t u : Text} (h : pieces isBlank t = pieces isBlank u) :
    Occurs readSeparatorRun none t ↔ Occurs readSeparatorRun none u := by
  rw [occurs_iff_pieces, h, occurs_iff_pieces]

theorem separatorAhead_iff_of_pieces_eq {t u : Text} (h : pieces isBlank t = pieces isBlank u) :
    SeparatorAhead t ↔ SeparatorAhead u := by
  rw [separatorAhead_iff_pieces, h, separatorAhead_iff_pieces]

/-! ### Separators at the ends -/

theorem settled_iff {t : Text} :
    Settled t ↔ (∀ c ∈ t.head?, isBlank c = false) ∧ ¬SeparatorAhead t := by
  have hsame : (∀ c ∈ t.head?, isBlank c = false) → (SeparatorAhead t ↔ separator <+: t) := by
    intro hhead
    rw [SeparatorAhead, trimStart_eq_self hhead]
  constructor
  · rintro ⟨hhead, hno⟩
    exact ⟨hhead, fun hahead => hno ((hsame hhead).mp hahead)⟩
  · rintro ⟨hhead, hno⟩
    exact ⟨hhead, fun hsep => hno ((hsame hhead).mpr hsep)⟩

theorem settled_dropSeparators (t : Text) : Settled (dropSeparators t) := by
  induction t using dropSeparators.induct with
  | case1 =>
    refine ⟨fun c hc => ?_, by decide⟩
    cases hc
  | case2 rest ih => exact ih
  | case3 c rest hbars hblank ih =>
    rw [dropSeparators_cons hbars, if_pos hblank]
    exact ih
  | case4 c rest hbars hblank =>
    rw [dropSeparators_cons hbars, if_neg hblank]
    refine ⟨fun d hd => ?_, ?_⟩
    · obtain rfl := Option.some.inj hd
      simpa using hblank
    · rintro ⟨more, heq⟩
      obtain ⟨rfl, rfl⟩ := List.cons.inj heq
      exact hbars more rfl rfl

/-- What is left between the separators at the ends is settled read either way. -/
theorem settled_trimSeparators (t : Text) :
    Settled (trimSeparators t) ∧ Settled (trimSeparators t).reverse := by
  have hsuffix : trimSeparators t <:+ (dropSeparators t.reverse).reverse := by
    obtain ⟨gaps, hsplit, -⟩ := dropSeparators_spec (dropSeparators t.reverse).reverse
    exact ⟨gaps, hsplit.symm⟩
  refine ⟨settled_dropSeparators _, Settled.reverse_of_suffix ?_ hsuffix⟩
  rw [List.reverse_reverse]
  exact settled_dropSeparators t.reverse

/-- Read either way, a settled text has nothing to trim. -/
theorem trimSeparators_eq_self {t : Text} (h : Settled t) (hrev : Settled t.reverse) :
    trimSeparators t = t := by
  rw [trimSeparators, dropSeparators_eq_self hrev, List.reverse_reverse, dropSeparators_eq_self h]

theorem bare_of_settled {t : Text} (h : Settled t) (hrev : Settled t.reverse) : Bare t where
  head := h.no_blank
  last := by
    have hlast := hrev.no_blank
    rwa [List.head?_reverse] at hlast

/-! ### Tidying lines -/

/-- Tidying lines neither makes nor breaks a run. -/
theorem occurs_tidyLines (t : Text) :
    Occurs readSeparatorRun none (tidyLines t) ↔ Occurs readSeparatorRun none t :=
  occurs_iff_of_pieces_eq (pieces_tidyLines (fun _ => id) t)

/-- Tidying the lines of a text that is settled read either way leaves one. -/
theorem settled_tidyLines {t : Text} (h : Settled t) (hrev : Settled t.reverse) :
    Settled (tidyLines t) ∧ Settled (tidyLines t).reverse := by
  have hpieces : pieces isBlank (tidyLines t) = pieces isBlank t :=
    pieces_tidyLines (fun _ => id) t
  have hpieces' : pieces isBlank (tidyLines t).reverse = pieces isBlank t.reverse := by
    rw [pieces_reverse, hpieces, ← pieces_reverse]
  have hbare : Bare (tidyLines t) := bare_trim _
  have hlast : ∀ c ∈ (tidyLines t).reverse.head?, isBlank c = false := by
    rw [List.head?_reverse]
    exact hbare.last
  refine ⟨settled_iff.mpr ⟨hbare.head, ?_⟩, settled_iff.mpr ⟨hlast, ?_⟩⟩
  · rw [separatorAhead_iff_of_pieces_eq hpieces]
    exact (settled_iff.mp h).2
  · rw [separatorAhead_iff_of_pieces_eq hpieces']
    exact (settled_iff.mp hrev).2

end Notebook
