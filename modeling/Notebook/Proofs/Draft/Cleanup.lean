import Notebook.Draft.Cleanup
import Notebook.Proofs.Text.Keyword
import Notebook.Proofs.Text.Lines
import Notebook.Proofs.Text.Spelling

/-!
# Cleaning up leaves the runs of a body alone

`tidyBody` works on gaps only: on white space, and on the bars of separators. This module says so,
and what follows for a body that is tidy already:

- `pieces_tidyLines` — tidying lines changes nothing between white space;
- `runs_tidyBody` — tidying changes none of the runs of a body;
- `length_tidyBody_le` — and makes no body longer, so that each of its steps leaves a tidy body
  alone;
- `tidyBody_spaced` — a tidy body comes back from between a space and a separator with white space
  behind it.
-/

namespace Notebook

open Text

/-! ### Runs of separators -/

theorem furtherSeparators_bars (gap : Nat) (rest : Text) :
    furtherSeparators gap ('|' :: '|' :: rest) = gap + 2 + furtherSeparators 0 rest := rfl

theorem furtherSeparators_cons {c : Char} {rest : Text}
    (h : ∀ more, c = '|' → rest = '|' :: more → False) (gap : Nat) :
    furtherSeparators gap (c :: rest) =
      if isBlank c then furtherSeparators (gap + 1) rest else 0 := by
  -- One unfolding and a split: the generated equation would go through every other character.
  conv => lhs; unfold furtherSeparators
  split
  · rename_i heq
    cases heq
  · rename_i heq
    obtain ⟨hc, hrest⟩ := List.cons.inj heq
    exact absurd hrest (h _ hc)
  · rename_i heq
    obtain ⟨rfl, rfl⟩ := List.cons.inj heq
    rfl

/-- The bars of a separator are gaps. -/
theorem forall_gap_bars {t : Text} (h : ∀ c ∈ t, isGap c = true) :
    ∀ c ∈ '|' :: '|' :: t, isGap c = true :=
  List.forall_mem_cons.mpr ⟨by decide, List.forall_mem_cons.mpr ⟨by decide, h⟩⟩

/-- Behind nothing but white space a text goes on with a separator. -/
def SeparatorAhead (t : Text) : Prop := separator <+: trimStart t

instance (t : Text) : Decidable (SeparatorAhead t) :=
  inferInstanceAs (Decidable (separator <+: trimStart t))

theorem separatorAhead_cons_blank {c : Char} (hc : isBlank c = true) (t : Text) :
    SeparatorAhead (c :: t) ↔ SeparatorAhead t := by
  rw [SeparatorAhead, trimStart, List.dropWhile_cons_of_pos hc, SeparatorAhead, trimStart]

theorem separatorAhead_cons {c : Char} (hc : isBlank c = false) (t : Text) :
    SeparatorAhead (c :: t) ↔ c = '|' ∧ t.head? = some '|' := by
  rw [SeparatorAhead, trimStart, List.dropWhile_cons_of_neg (by simp [hc]), separator,
    List.cons_prefix_cons]
  cases t with
  | nil => simp
  | cons d t =>
    rw [List.cons_prefix_cons, List.head?_cons, Option.some_inj]
    exact ⟨fun h => ⟨h.1.symm, h.2.1.symm⟩, fun h => ⟨h.1.symm, h.2.symm, List.nil_prefix⟩⟩

/-- What belongs to further separators: gaps with a bar at the end, and behind them no separator is
ahead. -/
structure IsFurther (more rest : Text) : Prop where
  gaps : ∀ c ∈ more, isGap c = true
  last : ∀ before, lastOf before more = some '|'
  stop : ¬SeparatorAhead rest

/-- There are further separators exactly if one is ahead. -/
theorem furtherSeparators_eq_zero_iff {gap : Nat} {t : Text} :
    furtherSeparators gap t = 0 ↔ ¬SeparatorAhead t := by
  induction gap, t using furtherSeparators.induct with
  | case1 gap => exact iff_of_true rfl (by decide)
  | case2 gap rest ih =>
    refine iff_of_false ?_ fun hnone => hnone ⟨rest, rfl⟩
    rw [furtherSeparators_bars]
    omega
  | case3 gap c rest hbars hblank ih =>
    rw [furtherSeparators_cons hbars, if_pos hblank, separatorAhead_cons_blank hblank, ih]
  | case4 gap c rest hbars hblank =>
    rw [furtherSeparators_cons hbars, if_neg hblank, separatorAhead_cons (by simpa using hblank)]
    refine iff_of_true rfl ?_
    rintro ⟨rfl, hhead⟩
    obtain ⟨more, rfl⟩ := List.head?_eq_some_iff.mp hhead
    exact hbars more rfl rfl

/-- As many characters belong to further separators as there are. -/
theorem furtherSeparators_spec (gap : Nat) (t : Text) : furtherSeparators gap t = 0 ∨
    ∃ more rest, t = more ++ rest ∧ furtherSeparators gap t = gap + more.length ∧
      IsFurther more rest := by
  -- White space counts only once a separator stands behind it, so the gap goes with the induction.
  induction gap, t using furtherSeparators.induct with
  | case1 gap => exact Or.inl rfl
  | case2 gap rest ih =>
    refine Or.inr ?_
    rcases ih with hzero | ⟨more, later, rfl, hlength, hmore⟩
    · have hstop := furtherSeparators_eq_zero_iff.mp hzero
      refine ⟨['|', '|'], rest, rfl, ?_, List.all_eq_true.mp (by decide), fun _ => rfl, hstop⟩
      rw [furtherSeparators_bars, hzero]
      rfl
    · refine ⟨'|' :: '|' :: more, later, rfl, ?_, forall_gap_bars hmore.gaps,
        fun _ => hmore.last _, hmore.stop⟩
      rw [furtherSeparators_bars, hlength, List.length_cons, List.length_cons]
      omega
  | case3 gap c rest hbars hblank ih =>
    rw [furtherSeparators_cons hbars, if_pos hblank]
    rcases ih with hzero | ⟨more, later, rfl, hlength, hmore⟩
    · exact Or.inl hzero
    · refine Or.inr ⟨c :: more, later, rfl, ?_, ?_, fun _ => hmore.last _, hmore.stop⟩
      · rw [hlength, List.length_cons]
        omega
      · exact List.forall_mem_cons.mpr ⟨isGap_of_isBlank hblank, hmore.gaps⟩
  | case4 gap c rest hbars hblank =>
    rw [furtherSeparators_cons hbars, if_neg hblank]
    exact Or.inl rfl

/-- A run of separators starts with two bars and goes on as far as it can. -/
theorem readSeparatorRun_eq_some {before : Option Char} {t : Text} {f : Found Unit}
    (h : readSeparatorRun before t = some f) : ∃ more rest,
      t = '|' :: '|' :: (more ++ rest) ∧ f = ⟨(), 1 + more.length, 0⟩ ∧ IsFurther more rest := by
  unfold readSeparatorRun at h
  split at h
  · rename_i rest
    split at h
    · cases h
    · rename_i n hn
      rcases furtherSeparators_spec 0 rest with hzero | ⟨more, later, rfl, hlength, hmore⟩
      · exact absurd hzero hn
      · refine ⟨more, later, rfl, ?_, hmore⟩
        rw [← Option.some.inj h, hlength, Nat.zero_add]
  · cases h

theorem readSeparatorRun_of_not_bars {before : Option Char} {c : Char} {rest : Text}
    (h : ∀ more, c = '|' → rest = '|' :: more → False) :
    readSeparatorRun before (c :: rest) = none := by
  unfold readSeparatorRun
  split
  · rename_i more hbars
    obtain ⟨hc, hrest⟩ := List.cons.inj hbars
    exact absurd hrest (h more hc)
  · rfl

theorem readSeparatorRun_of_ne {before : Option Char} {c : Char} {rest : Text} (hc : c ≠ '|') :
    readSeparatorRun before (c :: rest) = none :=
  readSeparatorRun_of_not_bars fun _ hbar => absurd hbar hc

/-- What is before a run does not matter. -/
theorem readSeparatorRun_before (b b' : Option Char) (t : Text) :
    readSeparatorRun b t = readSeparatorRun b' t := by
  unfold readSeparatorRun
  split <;> rfl

theorem ne_bar_of_isBlank {c : Char} (h : isBlank c = true) : c ≠ '|' := by
  rintro rfl
  exact absurd h (by decide)

theorem head?_ne_bar {blanks : Text} (h : ∀ c ∈ blanks, isBlank c = true) :
    blanks.head? ≠ some '|' :=
  fun hhead => ne_bar_of_isBlank (h '|' (List.mem_of_mem_head? hhead)) rfl

theorem readSeparatorRun_fits : Fits readSeparatorRun := by
  intro before c rest f h
  obtain ⟨more, later, ht, rfl, -⟩ := readSeparatorRun_eq_some h
  obtain ⟨-, rfl⟩ := List.cons.inj ht
  simp only [List.length_cons, List.length_append]
  omega

/-- What an occurrence of a run of separators takes away behind its first bar. -/
theorem exists_of_readSeparatorRun {before : Option Char} {c : Char} {removed rest : Text}
    {f : Found Unit} (h : readSeparatorRun before (c :: (removed ++ rest)) = some f)
    (hlength : removed.length = f.removedAfterFirst) :
    ∃ more, c = '|' ∧ removed = '|' :: more ∧ f.kept = 0 ∧ IsFurther more rest := by
  obtain ⟨more, later, ht, rfl, hmore⟩ := readSeparatorRun_eq_some h
  obtain ⟨rfl, htail⟩ := List.cons.inj ht
  have hlength' : removed.length = ('|' :: more).length := by
    simp only [hlength, List.length_cons]
    omega
  have hsplit : removed ++ rest = ('|' :: more) ++ later := htail
  obtain ⟨rfl, rfl⟩ := List.append_inj hsplit hlength'
  exact ⟨more, rfl, rfl, rfl, hmore⟩

/-- Making one separator of several changes no run. -/
theorem samePieces_collapse (kept : Nat) (before : Option Char) (t : Text) : kept = 0 →
    SamePieces isGap (replaceFrom separator readSeparatorRun kept before t) t := by
  induction kept, before, t using scan_induction readSeparatorRun_fits with
  | nil kept before =>
    intro _
    rw [replaceFrom_nil]
    exact .refl []
  | keep kept before c rest ih =>
    intro hzero
    cases hzero
  | char before c rest hnone ih =>
    intro _
    rw [replaceFrom_char hnone]
    exact (ih rfl).cons c
  | found before c removed rest f hread hlength ih =>
    intro _
    obtain ⟨more, rfl, rfl, hkept, hmore⟩ := exists_of_readSeparatorRun hread hlength
    rw [replaceFrom_found hread hlength]
    have hbar : isGap '|' = true := by decide
    have hgaps : ∀ c ∈ '|' :: more, isGap c = true := List.forall_mem_cons.mpr ⟨hbar, hmore.gaps⟩
    -- The separator that stays is two gaps, and so is everything that it stands for.
    refine SamePieces.gap hbar hbar ?_
    show pieces isGap ('|' :: _) = _
    rw [pieces_cons hbar, pieces_gaps_append hgaps]
    exact (ih hkept).pieces_eq

/-- Making one separator of several only takes characters away. -/
theorem collapse_sublist (kept : Nat) (before : Option Char) (t : Text) : kept = 0 →
    (replaceFrom separator readSeparatorRun kept before t).Sublist t := by
  induction kept, before, t using scan_induction readSeparatorRun_fits with
  | nil kept before =>
    intro _
    rw [replaceFrom_nil]
  | keep kept before c rest ih =>
    intro hzero
    cases hzero
  | char before c rest hnone ih =>
    intro _
    rw [replaceFrom_char hnone]
    exact (ih rfl).cons_cons c
  -- A run is replaced by the separator that it begins with.
  | found before c removed rest f hread hlength ih =>
    intro _
    obtain ⟨more, rfl, rfl, hkept, -⟩ := exists_of_readSeparatorRun hread hlength
    rw [replaceFrom_found hread hlength]
    refine List.Sublist.cons_cons '|' (List.Sublist.cons_cons '|' ?_)
    exact (ih hkept).trans (List.sublist_append_right more rest)

/-! ### Separators at the ends -/

theorem dropSeparators_bars (rest : Text) :
    dropSeparators ('|' :: '|' :: rest) = dropSeparators rest := rfl

theorem dropSeparators_cons {c : Char} {rest : Text}
    (h : ∀ more, c = '|' → rest = '|' :: more → False) :
    dropSeparators (c :: rest) = if isBlank c then dropSeparators rest else c :: rest := by
  conv => lhs; unfold dropSeparators
  split
  · rename_i heq
    cases heq
  · rename_i heq
    obtain ⟨hc, hrest⟩ := List.cons.inj heq
    exact absurd hrest (h _ hc)
  · rename_i heq
    obtain ⟨rfl, rfl⟩ := List.cons.inj heq
    rfl

/-- Only gaps are dropped at the start. -/
theorem dropSeparators_spec (t : Text) :
    ∃ gaps, t = gaps ++ dropSeparators t ∧ ∀ c ∈ gaps, isGap c = true := by
  induction t using dropSeparators.induct with
  | case1 => exact ⟨[], rfl, by simp⟩
  | case2 rest ih =>
    obtain ⟨gaps, hsplit, hgaps⟩ := ih
    refine ⟨'|' :: '|' :: gaps, ?_, ?_⟩
    · rw [dropSeparators_bars]
      exact congrArg ('|' :: '|' :: ·) hsplit
    · exact forall_gap_bars hgaps
  | case3 c rest hbars hblank ih =>
    obtain ⟨gaps, hsplit, hgaps⟩ := ih
    refine ⟨c :: gaps, ?_, ?_⟩
    · rw [dropSeparators_cons hbars, if_pos hblank]
      exact congrArg (c :: ·) hsplit
    · exact List.forall_mem_cons.mpr ⟨isGap_of_isBlank hblank, hgaps⟩
  | case4 c rest hbars hblank =>
    refine ⟨[], ?_, by simp⟩
    rw [dropSeparators_cons hbars, if_neg hblank]
    rfl

/-- Only gaps are dropped at the ends. -/
theorem trimSeparators_spec (t : Text) : ∃ front back, t = front ++ (trimSeparators t ++ back) ∧
    (∀ c ∈ front, isGap c = true) ∧ ∀ c ∈ back, isGap c = true := by
  obtain ⟨back, hback, hbackgaps⟩ := dropSeparators_spec t.reverse
  obtain ⟨front, hfront, hfrontgaps⟩ := dropSeparators_spec (dropSeparators t.reverse).reverse
  refine ⟨front, back.reverse, ?_, hfrontgaps, fun c hc => hbackgaps c (List.mem_reverse.mp hc)⟩
  calc t = (back ++ dropSeparators t.reverse).reverse := by rw [← hback, List.reverse_reverse]
    _ = (dropSeparators t.reverse).reverse ++ back.reverse := List.reverse_append
    _ = front ++ trimSeparators t ++ back.reverse := congrArg (· ++ back.reverse) hfront
    _ = front ++ (trimSeparators t ++ back.reverse) := List.append_assoc ..

theorem runs_trimSeparators (t : Text) : runs (trimSeparators t) = runs t := by
  obtain ⟨front, back, ht, hfront, hback⟩ := trimSeparators_spec t
  conv => rhs; rw [ht]
  rw [runs_eq_pieces, runs_eq_pieces, pieces_gaps_append hfront, pieces_append_gaps hback]

theorem length_trimSeparators_le (t : Text) : (trimSeparators t).length ≤ t.length := by
  obtain ⟨front, back, ht, -, -⟩ := trimSeparators_spec t
  have h := congrArg List.length ht
  rw [List.length_append, List.length_append] at h
  omega

/-! ### White space inside a line -/

theorem isBlank_of_isInlineBlank {c : Char} (h : isInlineBlank c = true) : isBlank c = true := by
  simp only [isInlineBlank, Bool.and_eq_true] at h
  exact h.1.1

theorem isGap_of_isInlineBlank {c : Char} (h : isInlineBlank c = true) : isGap c = true :=
  isGap_of_isBlank (isBlank_of_isInlineBlank h)

theorem length_squeezeFrom_le (inRun : Bool) (t : Text) :
    (squeezeFrom inRun t).length ≤ t.length := by
  induction t generalizing inRun with
  | nil => exact Nat.le_refl 0
  | cons c rest ih =>
    have hfalse := ih false
    have htrue := ih true
    unfold squeezeFrom
    split
    · split <;> simp only [List.length_cons] <;> omega
    · simp only [List.length_cons]
      omega

/-- Where there is no white space inside a line, there is nothing to squeeze. -/
theorem squeezeFrom_append {u : Text} (h : ∀ c ∈ u, isInlineBlank c = false) (hne : u ≠ [])
    (inRun : Bool) (v : Text) : squeezeFrom inRun (u ++ v) = u ++ squeezeFrom false v := by
  induction u generalizing inRun with
  | nil => exact absurd rfl hne
  | cons c u ih =>
    have hc : ¬isInlineBlank c = true := by simp [h c List.mem_cons_self]
    rw [List.cons_append, squeezeFrom, if_neg hc]
    by_cases hnil : u = []
    · rw [hnil]
      rfl
    · rw [ih (fun d hd => h d (List.mem_cons_of_mem _ hd)) hnil, List.cons_append]

/-- Single spaces stay as they are, also those behind a run of white space that has been written
unless there is one at once. -/
theorem squeezeFrom_eq_self {t : Text} (h : ∀ c ∈ t, isInlineBlank c = true → c = ' ')
    (hsingle : ¬[' ', ' '] <:+: t) (inRun : Bool) (hstart : inRun = true → t.head? ≠ some ' ') :
    squeezeFrom inRun t = t := by
  induction t generalizing inRun with
  | nil => rfl
  | cons c rest ih =>
    have hrest : ∀ d ∈ rest, isInlineBlank d = true → d = ' ' :=
      fun d hd => h d (List.mem_cons_of_mem _ hd)
    have hlater : ¬[' ', ' '] <:+: rest := fun hdouble =>
      hsingle (hdouble.trans (List.suffix_cons c rest).isInfix)
    rw [squeezeFrom]
    by_cases hblank : isInlineBlank c = true
    · obtain rfl := h c List.mem_cons_self hblank
      have hfirst : ¬inRun = true := fun hrun => hstart hrun rfl
      -- Two spaces in a row are excluded, so the run ends with this one.
      have hnext : rest.head? ≠ some ' ' := by
        intro hhead
        obtain ⟨more, rfl⟩ := List.head?_eq_some_iff.mp hhead
        exact hsingle ⟨[], more, rfl⟩
      rw [if_pos hblank, if_neg hfirst, ih hrest hlater true fun _ => hnext]
    · rw [if_neg hblank, ih hrest hlater false nofun]

/-! ### Lines -/

theorem length_unlines_lines_le (t : Text) : (unlines (lines t)).length ≤ t.length := by
  -- The break behind an empty line is written again only if more lines follow.
  have hbreak : ∀ rest : Text, (unlines (lines rest)).length ≤ rest.length →
      (unlines ([] :: lines rest)).length ≤ rest.length + 1 := by
    intro rest ih
    cases hlines : lines rest with
    | nil => exact Nat.zero_le _
    | cons line more =>
      rw [hlines] at ih
      rw [unlines_cons_cons, List.nil_append, List.length_cons]
      omega
  induction t using lines.induct with
  | case1 => exact Nat.le_refl 0
  | case2 rest ih => exact hbreak rest ih
  | case3 rest ih =>
    have h := hbreak rest ih
    show (unlines ([] :: lines rest)).length ≤ rest.length + 1 + 1
    omega
  | case4 c rest hn hr hlines ih =>
    rw [lines_cons hn hr, hlines]
    exact Nat.succ_le_succ (Nat.zero_le _)
  | case5 c rest hn hr line more hlines ih =>
    rw [hlines] at ih
    rw [lines_cons hn hr, hlines]
    cases more with
    | nil => exact Nat.succ_le_succ ih
    | cons m more => exact Nat.succ_le_succ ih

/-- Lines that become no longer make a text that is no longer. -/
theorem length_unlines_map_le {f : Text → Text} (hf : ∀ l, (f l).length ≤ l.length)
    (ls : List Text) : (unlines (ls.map f)).length ≤ (unlines ls).length := by
  induction ls with
  | nil => exact Nat.le_refl 0
  | cons l ls ih =>
    cases ls with
    | nil =>
      show (f l ++ []).length ≤ (l ++ []).length
      rw [List.append_nil, List.append_nil]
      exact hf l
    | cons m ls =>
      rw [List.map_cons] at ih
      rw [List.map_cons, List.map_cons, unlines_cons_cons, unlines_cons_cons]
      simp only [List.length_append, List.length_cons]
      have hl := hf l
      omega

/-! ### Tidying -/

/-- A line without white space at its ends and with single spaces inside. -/
def tidyLine (line : Text) : Text := squeeze (trim line)

/-- The last two steps of tidying: every line on its own, then the whole. -/
def tidyLines (t : Text) : Text := trim (unlines ((lines t).map tidyLine))

theorem tidyBody_eq (t : Text) : tidyBody t = tidyLines (trimSeparators (collapseSeparators t)) :=
  rfl

theorem length_tidyLine_le (line : Text) : (tidyLine line).length ≤ line.length :=
  (length_squeezeFrom_le false _).trans (length_trim_le line)

theorem length_tidyLines_le (t : Text) : (tidyLines t).length ≤ t.length :=
  calc (tidyLines t).length ≤ (unlines ((lines t).map tidyLine)).length := length_trim_le _
    _ ≤ (unlines (lines t)).length := length_unlines_map_le length_tidyLine_le _
    _ ≤ t.length := length_unlines_lines_le t

theorem collapseSeparators_sublist (t : Text) : (collapseSeparators t).Sublist t :=
  collapse_sublist 0 none t rfl

/-- Tidying makes no body longer. -/
theorem length_tidyBody_le (t : Text) : (tidyBody t).length ≤ t.length :=
  calc (tidyBody t).length ≤ (trimSeparators (collapseSeparators t)).length :=
        length_tidyLines_le _
    _ ≤ (collapseSeparators t).length := length_trimSeparators_le _
    _ ≤ t.length := (collapseSeparators_sublist t).length_le

/-! ### White space between pieces -/

section Pieces

variable {p : Char → Bool} (hp : ∀ c, isBlank c = true → p c = true)

include hp

/-- Squeezing leaves the pieces between white space alone, whether the space for a run of white
space is still to come or has been written. -/
theorem pieces_squeezeFrom (t : Text) : SamePieces p (squeezeFrom false t) t ∧
    pieces p (squeezeFrom true t) = pieces p t := by
  induction t with
  | nil => exact ⟨.refl [], rfl⟩
  | cons c rest ih =>
    unfold squeezeFrom
    by_cases hblank : isInlineBlank c = true
    · have hgap := hp c (isBlank_of_isInlineBlank hblank)
      rw [if_pos hblank, if_pos hblank, if_neg Bool.false_ne_true, if_pos rfl]
      exact ⟨.gap (hp ' ' (by decide)) hgap ih.2, by rw [ih.2, pieces_cons hgap]⟩
    · rw [if_neg hblank, if_neg hblank]
      exact ⟨ih.1.cons c, (ih.1.cons c).pieces_eq⟩

theorem pieces_unlines (ls : List Text) : pieces p (unlines ls) = ls.flatMap (pieces p) := by
  induction ls with
  | nil => exact pieces_nil
  | cons l ls ih =>
    cases ls with
    | nil =>
      rw [List.flatMap_cons, List.flatMap_nil, List.append_nil]
      exact congrArg (pieces p) (List.append_nil l)
    | cons m ls =>
      rw [unlines_cons_cons, pieces_append (hp '\n' (by decide)), ih]
      rfl

/-- Cutting into lines and joining them changes line breaks only. -/
theorem samePieces_unlines_lines (t : Text) : SamePieces p (unlines (lines t)) t := by
  have hfeed : p '\n' = true := hp '\n' (by decide)
  have hreturn : p '\r' = true := hp '\r' (by decide)
  -- A line break makes an empty line in front of the others, of which there may be none.
  have hbreak : ∀ rest, pieces p (unlines (lines rest)) = pieces p rest →
      SamePieces p (unlines ([] :: lines rest)) ('\n' :: rest) := by
    intro rest ih
    cases hlines : lines rest with
    | nil =>
      rw [hlines] at ih
      intro front
      have hrest : pieces p (unlines [[]]) = pieces p rest := ih
      rw [pieces_append hfeed, ← hrest]
      show pieces p (front ++ []) = pieces p front ++ pieces p []
      rw [List.append_nil, pieces_nil, List.append_nil]
    | cons line more =>
      rw [hlines] at ih
      exact .gap hfeed hfeed ih
  induction t using lines.induct with
  | case1 => exact .refl []
  | case2 rest ih => exact hbreak rest ih.pieces_eq
  | case3 rest ih =>
    -- A carriage return goes with its line break, so two gaps become one.
    intro front
    show pieces p (front ++ unlines ([] :: lines rest)) = _
    rw [hbreak rest ih.pieces_eq front, pieces_append hfeed, pieces_append hreturn,
      pieces_cons hfeed]
  | case4 c rest hn hr hlines ih =>
    rw [hlines] at ih
    rw [lines_cons hn hr, hlines]
    exact ih.cons c
  | case5 c rest hn hr line more hlines ih =>
    rw [hlines] at ih
    rw [lines_cons hn hr, hlines]
    cases more with
    | nil => exact ih.cons c
    | cons m more => exact ih.cons c

theorem pieces_trim (t : Text) : pieces p (trim t) = pieces p t := by
  obtain ⟨front, back, hsplit, hfront, hback⟩ := exists_trim_split t
  conv => rhs; rw [hsplit]
  rw [pieces_gaps_append fun c hc => hp c (hfront c hc),
    pieces_append_gaps fun c hc => hp c (hback c hc)]

/-- Tidying lines leaves the pieces between white space alone. -/
theorem pieces_tidyLines (t : Text) : pieces p (tidyLines t) = pieces p t := by
  have hline : ∀ line, pieces p (tidyLine line) = pieces p line := fun line =>
    (pieces_squeezeFrom hp (trim line)).1.pieces_eq.trans (pieces_trim hp line)
  rw [tidyLines, pieces_trim hp, pieces_unlines hp, List.flatMap_map]
  calc (lines t).flatMap (fun line => pieces p (tidyLine line))
      = (lines t).flatMap (pieces p) := by simp only [hline]
    _ = pieces p (unlines (lines t)) := (pieces_unlines hp _).symm
    _ = pieces p t := (samePieces_unlines_lines hp t).pieces_eq

end Pieces

/-- **Tidying changes none of the runs of a body.** -/
theorem runs_tidyBody (t : Text) : runs (tidyBody t) = runs t := by
  have hlines : ∀ u, runs (tidyLines u) = runs u := pieces_tidyLines fun _ => isGap_of_isBlank
  rw [tidyBody_eq, hlines, runs_trimSeparators]
  exact (samePieces_collapse 0 none t rfl).pieces_eq

/-! ### A body without separators -/

theorem not_bars_of_no_bar {c : Char} {rest : Text} (h : '|' ∉ c :: rest) :
    ∀ more, c = '|' → rest = '|' :: more → False := by
  rintro more rfl -
  exact h List.mem_cons_self

section NoBar

variable {t : Text} (h : '|' ∉ t)

include h

/-- Without bars there is no run of separators to collapse. -/
theorem collapseSeparators_of_no_bar : collapseSeparators t = t := by
  refine replaceFrom_of_not_occurs (not_occurs_of_forall fun c hc _ _ => ?_)
  exact readSeparatorRun_of_ne (ne_of_mem_of_not_mem hc h)

/-- Without bars only white space is dropped. -/
theorem dropSeparators_of_no_bar : dropSeparators t = trimStart t := by
  induction t with
  | nil => rfl
  | cons c rest ih =>
    have hrest : '|' ∉ rest := fun hmem => h (List.mem_cons_of_mem _ hmem)
    rw [dropSeparators_cons (not_bars_of_no_bar h), ih hrest, trimStart, trimStart,
      List.dropWhile_cons]

theorem trimSeparators_of_no_bar : trimSeparators t = trim t := by
  have hend : (dropSeparators t.reverse).reverse = trimEnd t := by
    have hreverse : '|' ∉ t.reverse := fun hmem => h (List.mem_reverse.mp hmem)
    rw [dropSeparators_of_no_bar hreverse, trimEnd, dropEndWhile_eq_rdropWhile]
    rfl
  rw [trimSeparators, hend, dropSeparators_of_no_bar (not_mem_trimEnd h), trimStart_trimEnd]

/-- Without bars, cleaning up is trimming the body and its lines. -/
theorem tidyBody_of_no_bar : tidyBody t = tidyLines (trim t) := by
  rw [tidyBody_eq, collapseSeparators_of_no_bar h, trimSeparators_of_no_bar h]

end NoBar

/-! ### A tidy body -/

/-- What tidying leaves alone, each of its steps leaves alone. -/
theorem steps_of_tidyBody_eq_self {t : Text} (h : tidyBody t = t) :
    collapseSeparators t = t ∧ trimSeparators t = t := by
  -- No step makes the text longer, so none can have made it shorter.
  have hlines := length_tidyLines_le (trimSeparators (collapseSeparators t))
  rw [← tidyBody_eq, h] at hlines
  have htrim := length_trimSeparators_le (collapseSeparators t)
  have hsub := collapseSeparators_sublist t
  have hcollapse : collapseSeparators t = t := hsub.eq_of_length_le (hlines.trans htrim)
  rw [hcollapse] at hlines
  obtain ⟨front, back, hsplit, -, -⟩ := trimSeparators_spec t
  have hlength := congrArg List.length hsplit
  rw [List.length_append, List.length_append] at hlength
  have hfront : front = [] := List.eq_nil_of_length_eq_zero (by omega)
  have hback : back = [] := List.eq_nil_of_length_eq_zero (by omega)
  rw [hfront, hback, List.append_nil, List.nil_append] at hsplit
  exact ⟨hcollapse, hsplit.symm⟩

/-- A text that starts neither with white space nor with a separator. -/
structure Settled (t : Text) : Prop where
  no_blank : ∀ c ∈ t.head?, isBlank c = false
  no_separator : ¬separator <+: t

/-- What is left of a text with nothing to drop is the text. -/
theorem dropSeparators_eq_self {t : Text} (h : Settled t) : dropSeparators t = t := by
  cases t with
  | nil => rfl
  | cons c rest =>
    have hbars : ∀ more, c = '|' → rest = '|' :: more → False := by
      rintro more rfl rfl
      exact h.no_separator ⟨more, rfl⟩
    rw [dropSeparators_cons hbars, h.no_blank c rfl, if_neg Bool.false_ne_true]

theorem dropSeparators_cons_blank {c : Char} (hc : isBlank c = true) (t : Text) :
    dropSeparators (c :: t) = dropSeparators t := by
  have hbars : ∀ more, c = '|' → t = '|' :: more → False := by
    rintro more rfl
    exact absurd hc (by decide)
  rw [dropSeparators_cons hbars, if_pos hc]

theorem dropSeparators_blanks_append {blanks : Text} (h : ∀ c ∈ blanks, isBlank c = true)
    (t : Text) : dropSeparators (blanks ++ t) = dropSeparators t := by
  induction blanks with
  | nil => rfl
  | cons c blanks ih =>
    rw [List.cons_append, dropSeparators_cons_blank (h c List.mem_cons_self)]
    exact ih fun d hd => h d (List.mem_cons_of_mem _ hd)

/-- A text is settled if nothing of it is dropped. -/
theorem settled_of_dropSeparators_eq_self {t : Text} (h : dropSeparators t = t) : Settled t := by
  have hle : ∀ u : Text, (dropSeparators u).length ≤ u.length := by
    intro u
    obtain ⟨gaps, hu, -⟩ := dropSeparators_spec u
    have := congrArg List.length hu
    rw [List.length_append] at this
    omega
  -- Either way something would be dropped, and the text would be shorter than it is.
  constructor
  · intro c hc
    by_contra hblank
    obtain ⟨rest, rfl⟩ := List.head?_eq_some_iff.mp hc
    rw [dropSeparators_cons_blank (by simpa using hblank)] at h
    have := hle rest
    rw [h, List.length_cons] at this
    omega
  · rintro ⟨rest, rfl⟩
    have hbars : dropSeparators (separator ++ rest) = dropSeparators rest :=
      dropSeparators_bars rest
    rw [hbars] at h
    have := hle rest
    rw [h, List.length_append] at this
    have hlength : separator.length = 2 := rfl
    omega

/-- A settled text that is not empty is still settled with white space and more behind it. -/
theorem Settled.append {t : Text} (h : Settled t) (hne : t ≠ []) (v : Text) :
    Settled (t ++ ' ' :: v) where
  no_blank := by
    rw [List.head?_append_of_ne_nil _ hne]
    exact h.no_blank
  no_separator := by
    rw [← List.isPrefixOf_iff_prefix, isPrefixOf_append (by decide), List.isPrefixOf_iff_prefix]
    exact h.no_separator

/-- Nothing is dropped at the ends of a text that is settled read either way. -/
theorem settled_of_trimSeparators_eq_self {t : Text} (h : trimSeparators t = t) :
    Settled t ∧ Settled t.reverse := by
  obtain ⟨gaps, hsplit, -⟩ := dropSeparators_spec t.reverse
  obtain ⟨gaps', hsplit', -⟩ := dropSeparators_spec (dropSeparators t.reverse).reverse
  have hlength := congrArg List.length hsplit
  have hlength' := congrArg List.length hsplit'
  have hwhole : dropSeparators (dropSeparators t.reverse).reverse = t := h
  rw [hwhole] at hlength'
  simp only [List.length_append, List.length_reverse] at hlength hlength'
  have hgaps : gaps = [] := List.eq_nil_of_length_eq_zero (by omega)
  rw [hgaps, List.nil_append] at hsplit
  rw [← hsplit, List.reverse_reverse] at hwhole
  exact ⟨settled_of_dropSeparators_eq_self hwhole,
    settled_of_dropSeparators_eq_self hsplit.symm⟩

/-- A text that is settled read either way comes back from between a space and a separator. -/
theorem trimSeparators_spaced {t blanks : Text} (h : Settled t) (hrev : Settled t.reverse)
    (hblanks : ∀ c ∈ blanks, isBlank c = true) :
    trimSeparators (' ' :: (t ++ ' ' :: '|' :: '|' :: blanks)) = t := by
  -- From the end: the white space, the separator, a space, and then the text.
  have hreverse : (' ' :: (t ++ ' ' :: '|' :: '|' :: blanks)).reverse =
      blanks.reverse ++ '|' :: '|' :: ' ' :: (t.reverse ++ [' ']) := by
    simp
  have hend : dropSeparators (t.reverse ++ [' ']) = t.reverse ++ [' '] ∨ t = [] := by
    by_cases hne : t = []
    · exact Or.inr hne
    · refine Or.inl (dropSeparators_eq_self (hrev.append ?_ []))
      exact fun hnil => hne (List.reverse_eq_nil_iff.mp hnil)
  have hdrop : dropSeparators (' ' :: (t ++ ' ' :: '|' :: '|' :: blanks)).reverse =
      dropSeparators (t.reverse ++ [' ']) := by
    rw [hreverse, dropSeparators_blanks_append fun c hc => hblanks c (List.mem_reverse.mp hc),
      dropSeparators_bars, dropSeparators_cons_blank (by decide)]
  unfold trimSeparators
  rw [hdrop]
  rcases hend with hend | rfl
  · rw [hend, List.reverse_append, List.reverse_reverse, List.reverse_singleton,
      List.singleton_append, dropSeparators_cons_blank (by decide), dropSeparators_eq_self h]
  · decide

/-! ### Runs of separators behind a tidy body -/

theorem Settled.of_prefix {t u : Text} (h : Settled t) (hu : u <+: t) : Settled u where
  no_blank := by
    intro c hc
    obtain ⟨rest, rfl⟩ := hu
    exact h.no_blank c (List.mem_head?_append_of_mem_head? hc)
  no_separator := fun hsep => h.no_separator (hsep.trans hu)

theorem Settled.reverse_of_suffix {t u : Text} (h : Settled t.reverse) (hu : u <:+ t) :
    Settled u.reverse :=
  h.of_prefix (List.reverse_prefix.mpr hu)

/-- No separator comes to be where a text goes on with something else than a bar. -/
theorem not_bars_append {v : Text} (hv : v.head? ≠ some '|') {c : Char} {rest : Text}
    (h : ∀ more, c = '|' → rest = '|' :: more → False) (more : Text) (hc : c = '|')
    (hrest : rest ++ v = '|' :: more) : False := by
  cases rest with
  | nil => exact hv (List.head?_eq_some_iff.mpr ⟨more, hrest⟩)
  | cons d rest =>
    obtain ⟨rfl, -⟩ := List.cons.inj hrest
    exact h rest hc rfl

/-- A run of separators in a text that ends neither in white space nor in a separator does not
reach the end of the text. -/
theorem furtherSeparators_append (v : Text) (gap : Nat) (t : Text) : t ≠ [] → Settled t.reverse →
    furtherSeparators gap (t ++ ' ' :: v) = furtherSeparators gap t := by
  -- The end of the text is settled in every case, so the run stops before it is reached.
  induction gap, t using furtherSeparators.induct with
  | case1 gap =>
    intro hne
    exact absurd rfl hne
  | case2 gap rest ih =>
    intro _ hrev
    have hne : rest ≠ [] := by
      rintro rfl
      exact hrev.no_separator ⟨[], rfl⟩
    have hrest := hrev.reverse_of_suffix (u := rest) ⟨['|', '|'], rfl⟩
    rw [List.cons_append, List.cons_append, furtherSeparators_bars, furtherSeparators_bars,
      ih hne hrest]
  | case3 gap c rest hbars hblank ih =>
    intro _ hrev
    have hne : rest ≠ [] := by
      rintro rfl
      rw [hrev.no_blank c rfl] at hblank
      cases hblank
    have hrest := hrev.reverse_of_suffix (u := rest) (List.suffix_cons c rest)
    rw [List.cons_append, furtherSeparators_cons hbars,
      furtherSeparators_cons (not_bars_append (by simp) hbars), if_pos hblank, if_pos hblank,
      ih hne hrest]
  | case4 gap c rest hbars hblank =>
    intro _ _
    rw [List.cons_append, furtherSeparators_cons hbars,
      furtherSeparators_cons (not_bars_append (by simp) hbars), if_neg hblank, if_neg hblank]

/-- What is behind a text does not change the run at its start, if it begins with no bar and brings
no further separators. -/
theorem readSeparatorRun_append_of {t v : Text} (hne : t ≠ []) (hv : v.head? ≠ some '|')
    (hfurther : ∀ more, t = '|' :: '|' :: more →
      furtherSeparators 0 (more ++ v) = furtherSeparators 0 more) (before : Option Char) :
    readSeparatorRun before (t ++ v) = readSeparatorRun before t := by
  obtain ⟨c, rest, rfl⟩ := List.exists_cons_of_ne_nil hne
  by_cases hbars : ∃ more, c = '|' ∧ rest = '|' :: more
  · obtain ⟨more, rfl, rfl⟩ := hbars
    rw [List.cons_append, List.cons_append, readSeparatorRun, readSeparatorRun, hfurther more rfl]
  · have hnot : ∀ more, c = '|' → rest = '|' :: more → False :=
      fun more hc hrest => hbars ⟨more, hc, hrest⟩
    rw [List.cons_append, readSeparatorRun_of_not_bars hnot,
      readSeparatorRun_of_not_bars (not_bars_append hv hnot)]

/-- A run of separators is read in such a text as without anything behind it. -/
theorem readSeparatorRun_append (v : Text) (before : Option Char) {t : Text} (hne : t ≠ [])
    (hrev : Settled t.reverse) :
    readSeparatorRun before (t ++ ' ' :: v) = readSeparatorRun before t := by
  refine readSeparatorRun_append_of hne (by simp) ?_ before
  rintro more rfl
  have hmore : more ≠ [] := by
    rintro rfl
    exact hrev.no_separator ⟨[], rfl⟩
  exact furtherSeparators_append v 0 more hmore (hrev.reverse_of_suffix ⟨['|', '|'], rfl⟩)

/-- White space is no further separator. -/
theorem furtherSeparators_blanks {blanks : Text} (h : ∀ c ∈ blanks, isBlank c = true)
    (gap : Nat) : furtherSeparators gap blanks = 0 := by
  induction blanks generalizing gap with
  | nil => rfl
  | cons c blanks ih =>
    have hc := h c List.mem_cons_self
    rw [furtherSeparators_cons fun _ hbar => absurd hbar (ne_bar_of_isBlank hc), if_pos hc,
      ih fun d hd => h d (List.mem_cons_of_mem _ hd)]

/-- Nor does white space behind a text bring one. -/
theorem furtherSeparators_append_blanks {blanks : Text} (h : ∀ c ∈ blanks, isBlank c = true)
    (gap : Nat) (t : Text) : furtherSeparators gap (t ++ blanks) = furtherSeparators gap t := by
  have hbar := head?_ne_bar h
  induction gap, t using furtherSeparators.induct with
  | case1 gap => exact furtherSeparators_blanks h gap
  | case2 gap rest ih =>
    rw [List.cons_append, List.cons_append, furtherSeparators_bars, furtherSeparators_bars, ih]
  | case3 gap c rest hbars hblank ih =>
    rw [List.cons_append, furtherSeparators_cons hbars,
      furtherSeparators_cons (not_bars_append hbar hbars), if_pos hblank, if_pos hblank, ih]
  | case4 gap c rest hbars hblank =>
    rw [List.cons_append, furtherSeparators_cons hbars,
      furtherSeparators_cons (not_bars_append hbar hbars), if_neg hblank, if_neg hblank]

/-- A run of separators is read in a text as with white space behind it. -/
theorem readSeparatorRun_append_blanks {blanks : Text} (h : ∀ c ∈ blanks, isBlank c = true)
    (before : Option Char) {t : Text} (hne : t ≠ []) :
    readSeparatorRun before (t ++ blanks) = readSeparatorRun before t :=
  readSeparatorRun_append_of hne (head?_ne_bar h)
    (fun more _ => furtherSeparators_append_blanks h 0 more) before

/-- There is no run of separators in a single one with white space behind it. -/
theorem not_occurs_separatorRun {blanks : Text} (h : ∀ c ∈ blanks, isBlank c = true)
    (before : Option Char) : ¬Occurs readSeparatorRun before ('|' :: '|' :: blanks) := by
  have hbar : ∀ more, '|' = '|' → blanks = '|' :: more → False := by
    rintro more - rfl
    exact head?_ne_bar h rfl
  rintro (first | second | later)
  · rw [readSeparatorRun, furtherSeparators_blanks h 0] at first
    cases first
  · rw [readSeparatorRun_of_not_bars hbar] at second
    cases second
  · exact not_occurs_of_forall
      (fun c hc _ _ => readSeparatorRun_of_ne (ne_bar_of_isBlank (h c hc))) later

/-- Nothing is collapsed between a space and a separator with white space behind it, if nothing is
in the text alone. -/
theorem collapseSeparators_spaced {t blanks : Text} (h : collapseSeparators t = t)
    (hrev : Settled t.reverse) (hblanks : ∀ c ∈ blanks, isBlank c = true) :
    collapseSeparators (' ' :: (t ++ ' ' :: '|' :: '|' :: blanks)) =
      ' ' :: (t ++ ' ' :: '|' :: '|' :: blanks) := by
  have hspace : ∀ b u, readSeparatorRun b (' ' :: u) = none := fun b u =>
    readSeparatorRun_of_ne (by decide)
  have hlocal : ∀ {b : Option Char} {s : Text}, s ≠ [] → s <:+ t →
      readSeparatorRun b (s ++ ' ' :: '|' :: '|' :: blanks) = readSeparatorRun b s :=
    fun hne hs => readSeparatorRun_append _ _ hne (hrev.reverse_of_suffix hs)
  have ht : replaceFrom separator readSeparatorRun 0 (some ' ') t = t := by
    rw [replaceFrom, scanFrom_change_before (readSeparatorRun_before (some ' ') none t)]
    exact h
  show replaceFrom separator readSeparatorRun 0 none _ = _
  rw [replaceFrom_char (hspace none _),
    replaceFrom_append readSeparatorRun_fits hlocal (fun b => hspace b _), ht,
    replaceFrom_of_not_occurs (not_occurs_separatorRun hblanks _)]

/-- **A tidy body comes back** from between a space and a separator with white space behind it. -/
theorem tidyBody_spaced {t blanks : Text} (h : tidyBody t = t)
    (hblanks : ∀ c ∈ blanks, isBlank c = true) :
    tidyBody (' ' :: (t ++ ' ' :: '|' :: '|' :: blanks)) = t := by
  obtain ⟨hcollapse, htrim⟩ := steps_of_tidyBody_eq_self h
  obtain ⟨hsettled, hrev⟩ := settled_of_trimSeparators_eq_self htrim
  rw [tidyBody_eq, hcollapse, htrim] at h
  rw [tidyBody_eq, collapseSeparators_spaced hcollapse hrev hblanks,
    trimSeparators_spaced hsettled hrev hblanks]
  exact h

end Notebook
