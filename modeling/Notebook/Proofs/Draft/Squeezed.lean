import Notebook.Proofs.Draft.Padded
import Notebook.Proofs.Draft.SeparatorRuns

/-!
# Cleaning up one line, word by word

Cleaning up looks at the white space of a body only to see where words end: how much there is
between two words does not matter, nor whether there is any around them.

- `Further` — the separators that a run goes on with, one after the other, with the equations of
  `collapseSeparators` that follow, and `collapse_induction`, the induction over them;
- `collapseSeparators_squeezeFrom`, `trimSeparators_squeeze` — each step of cleaning up goes with
  squeezing white space;
- `tidyBody_squeeze`, `tidyBody_blanks_append` — so squeezing first changes nothing, and neither
  does white space in front;
- `tidyBody_eq_of_words` — what cleaning up makes of a line depends on its words only.
-/

namespace Notebook

open Text

/-! ### Runs of separators -/

/-- Further separators, each behind nothing but white space, and what stands behind the last. -/
inductive Further : Text → Text → Prop
  | last {blanks rest : Text} : (∀ c ∈ blanks, isBlank c = true) → ¬SeparatorAhead rest →
      Further (blanks ++ '|' :: '|' :: rest) rest
  | more {blanks t rest : Text} : (∀ c ∈ blanks, isBlank c = true) → Further t rest →
      Further (blanks ++ '|' :: '|' :: t) rest

theorem Further.cons_blank {c : Char} (hc : isBlank c = true) {t rest : Text} (h : Further t rest) :
    Further (c :: t) rest := by
  cases h with
  | last hblanks hstop => exact .last (List.forall_mem_cons.mpr ⟨hc, hblanks⟩) hstop
  | more hblanks hmore => exact .more (List.forall_mem_cons.mpr ⟨hc, hblanks⟩) hmore

theorem exists_further {t : Text} (h : SeparatorAhead t) : ∃ rest, Further t rest := by
  induction 0, t using furtherSeparators.induct with
  | case1 => exact absurd h (by decide)
  | case2 gap rest ih =>
    by_cases hmore : SeparatorAhead rest
    · obtain ⟨later, hlater⟩ := ih hmore
      have hfurther : Further ([] ++ '|' :: '|' :: rest) later :=
        .more (List.forall_mem_nil _) hlater
      exact ⟨later, hfurther⟩
    · have hfurther : Further ([] ++ '|' :: '|' :: rest) rest := .last (List.forall_mem_nil _) hmore
      exact ⟨rest, hfurther⟩
  | case3 gap c rest hbars hblank ih =>
    obtain ⟨later, hlater⟩ := ih ((separatorAhead_cons_blank hblank rest).mp h)
    exact ⟨later, hlater.cons_blank hblank⟩
  | case4 gap c rest hbars hblank =>
    obtain ⟨rfl, hhead⟩ := (separatorAhead_cons (by simpa using hblank) rest).mp h
    obtain ⟨more, rfl⟩ := List.head?_eq_some_iff.mp hhead
    exact absurd rfl (hbars more rfl)

theorem furtherSeparators_blanks_append {blanks : Text} (h : ∀ c ∈ blanks, isBlank c = true)
    (gap : Nat) (t : Text) :
    furtherSeparators gap (blanks ++ t) = furtherSeparators (gap + blanks.length) t := by
  induction blanks generalizing gap with
  | nil => rfl
  | cons c blanks ih =>
    have hc := h c List.mem_cons_self
    rw [List.cons_append, furtherSeparators_cons fun _ hbar => absurd hbar (ne_bar_of_isBlank hc),
      if_pos hc, ih fun d hd => h d (List.mem_cons_of_mem _ hd), List.length_cons, Nat.add_assoc,
      Nat.add_comm 1]

/-- As many characters belong to the further separators as stand before what is behind them. -/
theorem Further.exists_length {t rest : Text} (h : Further t rest) : ∃ more, t = more ++ rest ∧
    more ≠ [] ∧ ∀ gap, furtherSeparators gap t = gap + more.length := by
  induction h with
  | @last blanks rest hblanks hstop =>
    refine ⟨blanks ++ ['|', '|'], by simp, by simp, fun gap => ?_⟩
    rw [furtherSeparators_blanks_append hblanks, furtherSeparators_bars,
      furtherSeparators_eq_zero_iff.mpr hstop, List.length_append]
    rfl
  | @more blanks t rest hblanks _ ih =>
    obtain ⟨more, rfl, -, hlength⟩ := ih
    refine ⟨blanks ++ '|' :: '|' :: more, by simp, by simp, fun gap => ?_⟩
    rw [furtherSeparators_blanks_append hblanks, furtherSeparators_bars, hlength, List.length_append,
      List.length_cons, List.length_cons]
    omega

theorem collapseSeparators_cons {c : Char} {rest : Text}
    (h : readSeparatorRun none (c :: rest) = none) :
    collapseSeparators (c :: rest) = c :: collapseSeparators rest := by
  show replaceFrom separator readSeparatorRun 0 none (c :: rest) = _
  rw [replaceFrom_char h, replaceFrom, scanFrom_change_before (readSeparatorRun_before _ none rest)]
  rfl

theorem collapseSeparators_run {t rest : Text} (h : Further t rest) :
    collapseSeparators ('|' :: '|' :: t) = '|' :: '|' :: collapseSeparators rest := by
  obtain ⟨more, rfl, hne, hlength⟩ := h.exists_length
  have hread : readSeparatorRun none ('|' :: ('|' :: more ++ rest)) =
      some ⟨(), 1 + more.length, 0⟩ := by
    rw [List.cons_append, readSeparatorRun, hlength, Nat.zero_add]
    split
    · rename_i hzero
      exact absurd (List.eq_nil_of_length_eq_zero hzero) hne
    · rfl
  show replaceFrom separator readSeparatorRun 0 none ('|' :: ('|' :: more ++ rest)) = _
  rw [replaceFrom_found hread (by simp [Nat.add_comm]), replaceFrom,
    scanFrom_change_before (readSeparatorRun_before _ none rest)]
  rfl

/-- **Induction over what collapsing does**: a character that stays, or a run of separators and the
rest of the text behind it. -/
theorem collapse_induction {motive : Text → Prop} (nil : motive [])
    (char : ∀ c rest, readSeparatorRun none (c :: rest) = none → motive rest → motive (c :: rest))
    (run : ∀ t rest, Further t rest → motive rest → motive ('|' :: '|' :: t)) (t : Text) :
    motive t := by
  induction hn : t.length using Nat.strong_induction_on generalizing t with
  | _ n ih =>
    subst hn
    cases t with
    | nil => exact nil
    | cons c rest =>
      cases hread : readSeparatorRun none (c :: rest) with
      | none => exact char c rest hread (ih _ (Nat.lt_succ_self _) rest rfl)
      | some f =>
        obtain ⟨t, hsplit, hahead⟩ :=
          readSeparatorRun_isSome_iff.mp (Option.isSome_iff_exists.mpr ⟨f, hread⟩)
        obtain ⟨rfl, rfl⟩ := List.cons.inj hsplit
        obtain ⟨later, hfurther⟩ := exists_further hahead
        obtain ⟨more, hmore, -⟩ := hfurther.exists_length
        refine run t later hfurther (ih _ ?_ later rfl)
        simp only [hmore, List.length_cons, List.length_append]
        omega

/-! ### Squeezing before the separators are dealt with -/

/-- A bar is no white space, and squeezing makes none. -/
theorem squeezeFrom_eq_bar_iff {t u : Text} :
    squeezeFrom false t = '|' :: u ↔ ∃ rest, t = '|' :: rest ∧ u = squeezeFrom false rest := by
  have hbar : ¬isInlineBlank '|' = true := by decide
  constructor
  · intro h
    cases t with
    | nil => cases h
    | cons c rest =>
      rw [squeezeFrom, if_neg Bool.false_ne_true] at h
      split at h
      · exact absurd (List.cons.inj h).1 (by decide)
      · obtain ⟨rfl, rfl⟩ := List.cons.inj h
        exact ⟨rest, rfl, rfl⟩
  · rintro ⟨rest, rfl, rfl⟩
    rw [squeezeFrom, if_neg hbar]

theorem not_bars_squeezeFrom {c : Char} {rest : Text}
    (h : ∀ more, c = '|' → rest = '|' :: more → False) :
    ∀ more, c = '|' → squeezeFrom false rest = '|' :: more → False := by
  rintro more hc hsqueezed
  obtain ⟨later, rfl, -⟩ := squeezeFrom_eq_bar_iff.mp hsqueezed
  exact h later hc rfl

theorem squeezeFrom_bars (inRun : Bool) (t : Text) :
    squeezeFrom inRun ('|' :: '|' :: t) = '|' :: '|' :: squeezeFrom false t := by
  have hbar : ¬isInlineBlank '|' = true := by decide
  rw [squeezeFrom, if_neg hbar, squeezeFrom, if_neg hbar]

theorem separatorAhead_squeezeFrom (inRun : Bool) (t : Text) :
    SeparatorAhead (squeezeFrom inRun t) ↔ SeparatorAhead t := by
  obtain ⟨hfalse, htrue⟩ := pieces_squeezeFrom (p := isBlank) (fun _ hc => hc) t
  cases inRun with
  | true => exact separatorAhead_iff_of_pieces_eq htrue
  | false => exact separatorAhead_iff_of_pieces_eq hfalse.pieces_eq

theorem Further.squeezeFrom {t rest : Text} (h : Further t rest) (inRun : Bool) :
    Further (squeezeFrom inRun t) (squeezeFrom false rest) := by
  induction h generalizing inRun with
  | last hblanks hstop =>
    rw [squeezeFrom_append_state, squeezeFrom_bars]
    refine .last (isBlank_of_mem_squeezeFrom hblanks) ?_
    rwa [separatorAhead_squeezeFrom]
  | more hblanks _ ih =>
    rw [squeezeFrom_append_state, squeezeFrom_bars]
    exact .more (isBlank_of_mem_squeezeFrom hblanks) (ih false)

/-- A run of separators starts a squeezed text exactly if one starts the text. -/
theorem readSeparatorRun_squeezeFrom {c : Char} {rest : Text}
    (h : readSeparatorRun none (c :: rest) = none) :
    readSeparatorRun none (c :: squeezeFrom false rest) = none := by
  refine Option.not_isSome_iff_eq_none.mp fun hsome => ?_
  obtain ⟨later, hsplit, hahead⟩ := readSeparatorRun_isSome_iff.mp hsome
  obtain ⟨rfl, hbar⟩ := List.cons.inj hsplit
  obtain ⟨more, rfl, rfl⟩ := squeezeFrom_eq_bar_iff.mp hbar
  rw [separatorAhead_squeezeFrom] at hahead
  have hrun : (readSeparatorRun none ('|' :: '|' :: more)).isSome :=
    readSeparatorRun_isSome_iff.mpr ⟨more, rfl, hahead⟩
  rw [h] at hrun
  cases hrun

/-- Collapsing runs of separators goes with squeezing. -/
theorem collapseSeparators_squeezeFrom (inRun : Bool) (t : Text) :
    collapseSeparators (squeezeFrom inRun t) = squeezeFrom inRun (collapseSeparators t) := by
  induction t using collapse_induction generalizing inRun with
  | nil => rfl
  | char c rest hread ih =>
    have hspace : ∀ u, readSeparatorRun none (' ' :: u) = none := fun u =>
      readSeparatorRun_of_ne (by decide)
    rw [collapseSeparators_cons hread, squeezeFrom, squeezeFrom]
    split
    · split
      · exact ih true
      · rw [collapseSeparators_cons (hspace _), ih true]
    · rw [collapseSeparators_cons (readSeparatorRun_squeezeFrom hread), ih false]
  | run t rest hfurther ih =>
    rw [squeezeFrom_bars, collapseSeparators_run (hfurther.squeezeFrom false),
      collapseSeparators_run hfurther, squeezeFrom_bars, ih false]

/-- So does dropping separators and white space at the start. -/
theorem dropSeparators_squeezeFrom (inRun : Bool) (t : Text) :
    dropSeparators (squeezeFrom inRun t) = squeeze (dropSeparators t) := by
  induction t using dropSeparators.induct generalizing inRun with
  | case1 => rfl
  | case2 rest ih => rw [squeezeFrom_bars, dropSeparators_bars, dropSeparators_bars, ih]
  | case3 c rest hbars hblank ih =>
    rw [dropSeparators_cons hbars, if_pos hblank, squeezeFrom]
    split
    · split
      · exact ih true
      · rw [dropSeparators_cons_blank (by decide), ih]
    · rw [dropSeparators_cons_blank hblank, ih]
  | case4 c rest hbars hblank =>
    have hinline : ¬isInlineBlank c = true := fun h => hblank (isBlank_of_isInlineBlank h)
    rw [dropSeparators_cons hbars, if_neg hblank, squeezeFrom, if_neg hinline,
      dropSeparators_cons (not_bars_squeezeFrom hbars), if_neg hblank, squeeze, squeezeFrom,
      if_neg hinline]

theorem trimSeparators_squeeze (t : Text) :
    trimSeparators (squeeze t) = squeeze (trimSeparators t) := by
  rw [trimSeparators, ← squeeze_reverse, squeeze, dropSeparators_squeezeFrom, ← squeeze_reverse,
    squeeze, dropSeparators_squeezeFrom, trimSeparators]

/-! ### One line -/

/-- A body of one line is tidied like the squeezed body. -/
theorem tidyBody_squeeze {t : Text} (h : '\n' ∉ t) : tidyBody (squeeze t) = tidyBody t := by
  have hdropped : '\n' ∉ trimSeparators (collapseSeparators t) := by
    obtain ⟨front, back, hsplit, -, -⟩ := trimSeparators_spec (collapseSeparators t)
    intro hmem
    refine h ((collapseSeparators_sublist t).subset ?_)
    rw [hsplit]
    exact List.mem_append_right _ (List.mem_append_left _ hmem)
  have hsqueezed : '\n' ∉ squeeze (trimSeparators (collapseSeparators t)) := fun hmem =>
    hdropped (mem_of_mem_squeezeFrom (by decide) hmem)
  rw [tidyBody_eq, squeeze, collapseSeparators_squeezeFrom, ← squeeze, trimSeparators_squeeze,
    tidyLines_of_no_feed hsqueezed, tidyLine_squeeze, tidyBody_eq, tidyLines_of_no_feed hdropped]

/-! ### White space in front -/

/-- White space at the end is dropped with what is before it, or stays. -/
theorem dropSeparators_concat_blank {c : Char} (hc : isBlank c = true) (t : Text) :
    dropSeparators (t ++ [c]) = if dropSeparators t = [] then [] else dropSeparators t ++ [c] := by
  have hbar : [c].head? ≠ some '|' := fun h => ne_bar_of_isBlank hc (Option.some.inj h)
  induction t using dropSeparators.induct with
  | case1 => rw [List.nil_append, dropSeparators_cons_blank hc]; rfl
  | case2 rest ih =>
    rw [List.cons_append, List.cons_append, dropSeparators_bars, dropSeparators_bars, ih]
  | case3 d rest hbars hblank ih =>
    rw [List.cons_append, dropSeparators_cons_blank hblank, dropSeparators_cons_blank hblank, ih]
  | case4 d rest hbars hblank =>
    rw [List.cons_append, dropSeparators_cons hbars, dropSeparators_cons (not_bars_append hbar hbars),
      if_neg hblank, if_neg hblank, if_neg (List.cons_ne_nil d rest), List.cons_append]

theorem tidyBody_cons_blank {c : Char} (hc : isBlank c = true) (t : Text) :
    tidyBody (c :: t) = tidyBody t := by
  have hcollapse : collapseSeparators (c :: t) = c :: collapseSeparators t :=
    collapseSeparators_cons (readSeparatorRun_of_ne (ne_bar_of_isBlank hc))
  have htrim : trimSeparators (c :: collapseSeparators t) =
      trimSeparators (collapseSeparators t) := by
    rw [trimSeparators, List.reverse_cons, dropSeparators_concat_blank hc, trimSeparators]
    split
    · rename_i hnil
      rw [hnil]
    · rw [List.reverse_append, List.reverse_singleton, List.singleton_append,
        dropSeparators_cons_blank hc]
  rw [tidyBody_eq, hcollapse, htrim, tidyBody_eq]

theorem tidyBody_blanks_append {blanks : Text} (h : ∀ c ∈ blanks, isBlank c = true) (t : Text) :
    tidyBody (blanks ++ t) = tidyBody t := by
  induction blanks with
  | nil => rfl
  | cons c blanks ih =>
    rw [List.cons_append, tidyBody_cons_blank (h c List.mem_cons_self)]
    exact ih fun d hd => h d (List.mem_cons_of_mem _ hd)

/-! ### Words -/

/-- The words of a row are those of its parts. -/
theorem pieces_spaced (ws : List Text) :
    pieces isBlank (spaced ws) = ws.flatMap (pieces isBlank) := by
  have hspace : isBlank ' ' = true := by decide
  induction ws with
  | nil => exact pieces_nil
  | cons w ws ih =>
    rw [spaced_cons, pieces_cons hspace, List.flatMap_cons, ← ih]
    cases ws with
    | nil =>
      show pieces isBlank (w ++ []) = pieces isBlank w ++ pieces isBlank []
      rw [List.append_nil, pieces_nil, List.append_nil]
    | cons v ws =>
      rw [spaced_cons, pieces_append hspace, pieces_cons hspace]

/-- Squeezing a line makes its words a row, apart from white space at the end. -/
theorem trimEnd_squeeze {t : Text} (h : ∀ c ∈ t, isBlank c = true → isInlineBlank c = true) :
    trimEnd (squeeze (' ' :: t)) = spaced (pieces isBlank t) := by
  have hspace : ∀ {u : Text}, squeeze (' ' :: u) = ' ' :: squeezeFrom true u := rfl
  -- A word in front comes through, with the space before it.
  have hword : ∀ {u v : Text}, (∀ c ∈ u, isBlank c = false) → u ≠ [] →
      trimEnd (squeeze (' ' :: (u ++ v))) = ' ' :: (u ++ trimEnd (squeeze v)) := by
    intro u v hu hne
    have hinline : ∀ c ∈ u, isInlineBlank c = false :=
      fun c hc => isInlineBlank_of_not_blank (hu c hc)
    rw [hspace, squeezeFrom_append hinline hne, trimEnd_cons_of_ne_nil, trimEnd_append_solid hu]
    · rfl
    · rw [trimEnd_append_solid hu]
      exact List.append_ne_nil_of_left_ne_nil hne _
  induction t using pieces_induction isBlank with
  | solid t hsolid =>
    rw [pieces_of_solid hsolid]
    cases t with
    | nil => decide
    | cons c rest =>
      have hself := hword (v := []) hsolid (List.cons_ne_nil c rest)
      rw [List.append_nil] at hself
      rw [hself]
      rfl
  | split u g v hu hg ih =>
    have hinline : isInlineBlank g = true := h g (by simp) hg
    have hgap : squeeze (g :: v) = squeeze (' ' :: v) := by
      rw [hspace, squeeze, squeezeFrom, if_pos hinline, if_neg Bool.false_ne_true]
    have hrest := ih fun c hc => h c (by simp [hc])
    cases u with
    | nil =>
      rw [List.nil_append, pieces_cons hg, ← hrest, hspace, squeezeFrom, if_pos hinline, if_pos rfl]
      rfl
    | cons c u =>
      rw [hword hu (List.cons_ne_nil c u), hgap, hrest, pieces_append hg, pieces_of_solid hu]
      rfl

/-- **What tidying makes of a line depends on its words only.** -/
theorem tidyBody_eq_of_words {t u : Text} (ht : ∀ c ∈ t, isBlank c = true → isInlineBlank c = true)
    (hu : ∀ c ∈ u, isBlank c = true → isInlineBlank c = true)
    (h : pieces isBlank t = pieces isBlank u) : tidyBody t = tidyBody u := by
  have hwords : ∀ {t : Text}, (∀ c ∈ t, isBlank c = true → isInlineBlank c = true) →
      tidyBody t = tidyBody (spaced (pieces isBlank t)) := by
    intro t ht
    have hfeed : '\n' ∉ ' ' :: t := by
      intro hmem
      refine absurd (ht '\n' ?_ (by decide)) (by decide)
      exact (List.mem_cons.mp hmem).resolve_left (by decide)
    obtain ⟨back, hsplit, hback⟩ := exists_trimEnd_split (squeeze (' ' :: t))
    have hpadded : Padded (trimEnd (squeeze (' ' :: t))) (squeeze (' ' :: t)) :=
      ⟨back, hsplit, hback⟩
    rw [← tidyBody_cons_blank (c := ' ') (by decide) t, ← tidyBody_squeeze hfeed, hpadded.tidy_eq,
      trimEnd_squeeze ht]
  rw [hwords ht, h, ← hwords hu]

end Notebook
