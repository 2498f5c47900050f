import Notebook.Proofs.Draft.Squeezed

/-!
# What a tidy body looks like, and what tidying keeps (specification §4.2, step 3)

Every step of cleaning up keeps what the steps before it have brought about, so a tidy body has
everything at once that its steps are there for. None of them touches anything but white space and
bars, and bars go two by two.

- `TidyForm` — the form of a tidy body;
- `not_infix_squeezeFrom`, `eq_space_of_mem_squeezeFrom` — squeezing leaves single spaces only;
- `tidyForm_tidyLines` — lines that are tidied between settled ends have the form;
- `filter_tidyBody` — what is neither white space nor a bar stays, in its order;
- `even_bars_collapse`, `even_bars_drop` — the steps that take bars away take whole separators;
- `tidyBody_tidyForm` — all of this for the body as it is given.
-/

namespace Notebook

open Text

/-- The form of a tidy body: no white space and no separator at its ends, no white space at the ends
of a line, and inside of lines single spaces besides stray carriage returns. -/
structure TidyForm (t : Text) : Prop where
  bare : Bare t
  no_separator_first : ¬separator <+: t
  no_separator_last : ¬separator <:+ t
  bare_lines : ∀ l ∈ t.splitOn '\n', Bare l
  blanks : ∀ c ∈ t, isBlank c = true → c = ' ' ∨ c = '\n' ∨ c = '\r'
  single_spaces : ¬[' ', ' '] <:+: t

/-! ### Single spaces -/

/-- The white space that squeezing leaves inside a line is spaces. -/
theorem eq_space_of_mem_squeezeFrom {t : Text} {inRun : Bool} {c : Char}
    (h : c ∈ squeezeFrom inRun t) (hc : isInlineBlank c = true) : c = ' ' := by
  induction t generalizing inRun with
  | nil => cases h
  | cons d rest ih =>
    rw [squeezeFrom] at h
    by_cases hd : isInlineBlank d = true
    · rw [if_pos hd] at h
      cases inRun with
      | true => exact ih h
      | false => exact (List.mem_cons.mp h).elim id ih
    · rw [if_neg hd] at h
      rcases List.mem_cons.mp h with rfl | h
      · exact absurd hc hd
      · exact ih h

/-- A text begins with a pair exactly if the second of the pair begins what is behind the first. -/
theorem pair_infix_cons {c d : Char} {t : Text} :
    [c, c] <:+: d :: t ↔ (d = c ∧ t.head? = some c) ∨ [c, c] <:+: t := by
  rw [List.infix_cons_iff, List.cons_prefix_cons]
  cases t with
  | nil => simp
  | cons e t => simp [List.cons_prefix_cons, eq_comm]

/-- Squeezing leaves no two spaces next to each other, and none at the start if the space of the
run there has been written. -/
theorem not_infix_squeezeFrom (inRun : Bool) (t : Text) :
    ¬[' ', ' '] <:+: squeezeFrom inRun t ∧
      (inRun = true → (squeezeFrom inRun t).head? ≠ some ' ') := by
  have hspace : isInlineBlank ' ' = true := by decide
  induction t generalizing inRun with
  | nil => exact ⟨by simp [squeezeFrom], by simp [squeezeFrom]⟩
  | cons d rest ih =>
    obtain ⟨hwritten, hhead⟩ := ih true
    obtain ⟨hplain, -⟩ := ih false
    rw [squeezeFrom]
    by_cases hd : isInlineBlank d = true
    · rw [if_pos hd]
      -- The space of a run is written at its first character.
      cases inRun with
      | true => exact ⟨hwritten, hhead⟩
      | false =>
        refine ⟨?_, fun hrun => absurd hrun Bool.false_ne_true⟩
        intro hpair
        rcases pair_infix_cons.mp hpair with ⟨-, hnext⟩ | hlater
        · exact hhead rfl hnext
        · exact hwritten hlater
    · rw [if_neg hd]
      have hne : d ≠ ' ' := fun heq => hd (heq ▸ hspace)
      refine ⟨?_, fun _ hfirst => hne (Option.some.inj hfirst)⟩
      intro hpair
      rcases pair_infix_cons.mp hpair with ⟨heq, -⟩ | hlater
      · exact hne heq
      · exact hplain hlater

/-- A part without a line feed that joined lines have is in one of the lines. -/
theorem exists_infix_of_unlines {part : Text} (hne : part ≠ []) (hfeed : '\n' ∉ part)
    {ls : List Text} (h : part <:+: unlines ls) : ∃ l ∈ ls, part <:+: l := by
  induction ls with
  | nil => exact absurd (List.infix_nil.mp h) hne
  | cons l ls ih =>
    by_cases hnil : ls = []
    · rw [hnil, unlines_singleton] at h
      exact ⟨l, List.mem_cons_self, h⟩
    · rw [unlines_cons l hnil, ← contains_iff, contains_append hfeed, Bool.or_eq_true,
        contains_iff, contains_iff] at h
      rcases h with h | h
      · exact ⟨l, List.mem_cons_self, h⟩
      · obtain ⟨m, hm, hpart⟩ := ih h
        exact ⟨m, List.mem_cons_of_mem _ hm, hpart⟩

/-! ### The form -/

/-- **Lines that are tidied between settled ends have the form of a tidy body.** -/
theorem tidyForm_tidyLines {t : Text} (h : Settled t) (hrev : Settled t.reverse) :
    TidyForm (tidyLines t) := by
  obtain ⟨hfirst, hlast⟩ := settled_tidyLines h hrev
  have hjoined := tidyLines_of_bare (bare_of_settled h hrev)
  have hfeeds : ∀ l ∈ (lines t).map tidyLine, '\n' ∉ l := fun _ hl =>
    (isLine_of_mem_map_tidyLine hl).no_feed
  have hsqueezed : ∀ l ∈ (lines t).map tidyLine, ∃ m, l = squeezeFrom false m := by
    intro l hl
    obtain ⟨line, -, rfl⟩ := List.mem_map.mp hl
    exact ⟨trim line, rfl⟩
  refine ⟨bare_trim _, hfirst.no_separator, fun hend => hlast.no_separator ?_, ?_, ?_, ?_⟩
  · exact List.reverse_prefix.mpr hend
  · intro l hl
    by_cases hnil : (lines t).map tidyLine = []
    · rw [hjoined, hnil] at hl
      obtain rfl : l = [] := by simpa [unlines] using hl
      exact trim_eq_self_iff.mp trim_nil
    · rw [hjoined, unlines, List.splitOn_intercalate '\n' hfeeds hnil] at hl
      exact bare_of_mem_map_tidyLine hl
  · intro c hc hblank
    rw [hjoined] at hc
    rcases exists_of_mem_unlines hc with rfl | ⟨l, hl, hc⟩
    · exact Or.inr (Or.inl rfl)
    · obtain ⟨m, rfl⟩ := hsqueezed l hl
      -- White space inside a line has become spaces; what is left of it breaks lines.
      by_cases hinline : isInlineBlank c = true
      · exact Or.inl (eq_space_of_mem_squeezeFrom hc hinline)
      · have hbreak : c = '\n' ∨ c = '\r' := by
          simp only [isInlineBlank, hblank, Bool.true_and, Bool.and_eq_true, bne_iff_ne] at hinline
          tauto
        exact Or.inr hbreak
  · intro hpair
    rw [hjoined] at hpair
    obtain ⟨l, hl, hpair⟩ := exists_infix_of_unlines (by simp) (by decide) hpair
    obtain ⟨m, rfl⟩ := hsqueezed l hl
    exact (not_infix_squeezeFrom false m).1 hpair

/-! ### What stays -/

/-- The pieces of a text in a row are the text without what stands between them. -/
theorem flatten_pieces (p : Char → Bool) (t : Text) :
    (pieces p t).flatten = t.filter fun c => !p c := by
  have hsolid : ∀ u : Text, (∀ c ∈ u, p c = false) →
      (pieces p u).flatten = u.filter fun c => !p c := by
    intro u hu
    have hall : (u.filter fun c => !p c) = u :=
      List.filter_eq_self.mpr fun c hc => by simp [hu c hc]
    rw [pieces_of_solid hu, hall]
    by_cases hnil : u = []
    · simp [hnil]
    · simp [hnil]
  induction t using pieces_induction p with
  | solid t ht => exact hsolid t ht
  | split u g v hu hg ih =>
    rw [pieces_append hg, List.flatten_append, hsolid u hu, ih, List.filter_append,
      List.filter_cons_of_neg (by simp [hg])]

theorem filter_eq_of_pieces_eq {p : Char → Bool} {t u : Text} (h : pieces p t = pieces p u) :
    (t.filter fun c => !p c) = u.filter fun c => !p c := by
  rw [← flatten_pieces, h, flatten_pieces]

/-- **Cleaning up keeps what is neither white space nor a bar**, in its order. -/
theorem filter_tidyBody (body : Text) :
    ((tidyBody body).filter fun c => !isGap c) = body.filter fun c => !isGap c :=
  filter_eq_of_pieces_eq (runs_tidyBody body)

/-! ### How many bars stay -/

theorem count_bar_blanks {blanks : Text} (h : ∀ c ∈ blanks, isBlank c = true) :
    blanks.count '|' = 0 :=
  List.count_eq_zero.mpr fun hmem => ne_bar_of_isBlank (h '|' hmem) rfl

/-- What a run goes on with has two bars for every separator. -/
theorem Further.even_bars {t rest : Text} (h : Further t rest) :
    ∃ n, t.count '|' = rest.count '|' + 2 * n := by
  induction h with
  | last hblanks _ =>
    refine ⟨1, ?_⟩
    simp [List.count_append, count_bar_blanks hblanks]
  | more hblanks _ ih =>
    obtain ⟨n, hn⟩ := ih
    refine ⟨n + 1, ?_⟩
    simp only [List.count_append, count_bar_blanks hblanks, List.count_cons_self, hn]
    omega

/-- Collapsing takes whole separators away. -/
theorem even_bars_collapse (t : Text) :
    ∃ n, t.count '|' = (collapseSeparators t).count '|' + 2 * n := by
  induction t using collapse_induction with
  | nil => exact ⟨0, rfl⟩
  | char c rest hread ih =>
    obtain ⟨n, hn⟩ := ih
    refine ⟨n, ?_⟩
    rw [collapseSeparators_cons hread, List.count_cons, List.count_cons, hn]
    omega
  | run t rest hfurther ih =>
    obtain ⟨n, hn⟩ := ih
    obtain ⟨k, hk⟩ := hfurther.even_bars
    refine ⟨n + k, ?_⟩
    simp only [collapseSeparators_run hfurther, List.count_cons_self, hk, hn]
    omega

/-- So does dropping at the start. -/
theorem even_bars_drop (t : Text) : ∃ n, t.count '|' = (dropSeparators t).count '|' + 2 * n := by
  induction t using dropSeparators.induct with
  | case1 => exact ⟨0, rfl⟩
  | case2 rest ih =>
    obtain ⟨n, hn⟩ := ih
    refine ⟨n + 1, ?_⟩
    simp only [dropSeparators_bars, List.count_cons_self, hn]
    omega
  | case3 c rest hbars hblank ih =>
    obtain ⟨n, hn⟩ := ih
    refine ⟨n, ?_⟩
    rw [dropSeparators_cons hbars, if_pos hblank, ← hn,
      List.count_cons_of_ne (ne_bar_of_isBlank hblank)]
  | case4 c rest hbars hblank =>
    refine ⟨0, ?_⟩
    rw [dropSeparators_cons hbars, if_neg hblank, Nat.mul_zero, Nat.add_zero]

/-- And at both ends. -/
theorem even_bars_trim (t : Text) : ∃ n, t.count '|' = (trimSeparators t).count '|' + 2 * n := by
  obtain ⟨n, hn⟩ := even_bars_drop t.reverse
  obtain ⟨k, hk⟩ := even_bars_drop (dropSeparators t.reverse).reverse
  refine ⟨n + k, ?_⟩
  show t.count '|' = (dropSeparators (dropSeparators t.reverse).reverse).count '|' + _
  rw [List.count_reverse] at hn hk
  omega

/-- Tidying lines takes no bar away. -/
theorem count_bar_tidyLines (t : Text) : (tidyLines t).count '|' = t.count '|' := by
  have hbar : (!isBlank '|') = true := by decide
  have hpieces : pieces isBlank (tidyLines t) = pieces isBlank t :=
    pieces_tidyLines (fun _ => id) t
  rw [← List.count_filter (p := fun c => !isBlank c) hbar, filter_eq_of_pieces_eq hpieces,
    List.count_filter (p := fun c => !isBlank c) hbar]

/-! ### The body as it is given -/

/-- **A tidy body has the form of one, and nothing is lost from it but white space and whole
separators**: what is neither white space nor a bar stays as it was, and the bars that are taken
away are even in number. -/
theorem tidyBody_tidyForm (body : Text) :
    TidyForm (tidyBody body) ∧
      ((tidyBody body).filter fun c => !isGap c) = (body.filter fun c => !isGap c) ∧
      ∃ n, body.count '|' = (tidyBody body).count '|' + 2 * n := by
  obtain ⟨hsettled, hrev⟩ := settled_trimSeparators (collapseSeparators body)
  obtain ⟨n, hn⟩ := even_bars_collapse body
  obtain ⟨k, hk⟩ := even_bars_trim (collapseSeparators body)
  have hlines := count_bar_tidyLines (trimSeparators (collapseSeparators body))
  rw [← tidyBody_eq] at hlines
  refine ⟨tidyForm_tidyLines hsettled hrev, filter_tidyBody body, n + k, ?_⟩
  omega

end Notebook
