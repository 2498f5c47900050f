import Notebook.Proofs.Draft.Cleanup

/-!
# The lines of a tidy body

Without separators, cleaning up works line by line: every line is tidied, and the blank lines at
both ends of the body are lost.

- `squeezeFrom_append_state`, `trim_squeezeFrom` — squeezing a text in two parts, and between its
  edges;
- `squeeze_reverse` — squeezing a text read backwards;
- `tidyLine_trimEnd`, `bare_tidyLine` — what tidying makes of a line;
- `tidyLines_of_bare`, `tidyLines_tidyLines` — lines are tidied once and for all;
- `lines_tidyBody` — the lines of a tidy body;
- `exists_blank_ends` — how they differ from the tidied lines of the body: by blank lines in front
  and behind.
-/

namespace Notebook

open Text

/-! ### Squeezing -/

theorem isInlineBlank_of_not_blank {c : Char} (h : isBlank c = false) :
    isInlineBlank c = false := by
  rw [isInlineBlank, h, Bool.false_and, Bool.false_and]

/-- Whether the space for the current run has been written behind a text. -/
def inRunAfter (inRun : Bool) (t : Text) : Bool := (t.getLast?.map isInlineBlank).getD inRun

theorem inRunAfter_cons (inRun : Bool) (c : Char) (t : Text) :
    inRunAfter inRun (c :: t) = inRunAfter (isInlineBlank c) t := by
  cases t with
  | nil => rfl
  | cons d t =>
    rw [inRunAfter, inRunAfter, List.getLast?_cons_cons,
      List.getLast?_eq_getLast_of_ne_nil (List.cons_ne_nil d t)]
    rfl

/-- A text is squeezed in two parts, of which the second goes on where the first has ended. -/
theorem squeezeFrom_append_state (inRun : Bool) (u v : Text) :
    squeezeFrom inRun (u ++ v) = squeezeFrom inRun u ++ squeezeFrom (inRunAfter inRun u) v := by
  induction u generalizing inRun with
  | nil => rfl
  | cons c u ih =>
    rw [List.cons_append, squeezeFrom, squeezeFrom, inRunAfter_cons]
    by_cases hblank : isInlineBlank c = true
    · rw [if_pos hblank, if_pos hblank, ih, hblank]
      split <;> rfl
    · rw [if_neg hblank, if_neg hblank, ih, Bool.eq_false_of_not_eq_true hblank]
      rfl

theorem squeezeFrom_of_head {t : Text} (h : ∀ c ∈ t.head?, isInlineBlank c = false)
    (inRun : Bool) : squeezeFrom inRun t = squeeze t := by
  cases t with
  | nil => rfl
  | cons c rest =>
    have hc : ¬isInlineBlank c = true := by simp [h c rfl]
    rw [squeeze, squeezeFrom, squeezeFrom, if_neg hc, if_neg hc]

/-- Squeezing leaves something of every text. -/
theorem squeeze_eq_nil_iff {t : Text} : squeeze t = [] ↔ t = [] := by
  cases t with
  | nil => exact iff_of_true rfl rfl
  | cons c rest =>
    rw [squeeze, squeezeFrom]
    split <;> simp

/-- What squeezing leaves of white space is white space. -/
theorem isBlank_of_mem_squeezeFrom {t : Text} (h : ∀ c ∈ t, isBlank c = true) {inRun : Bool} :
    ∀ c ∈ squeezeFrom inRun t, isBlank c = true := by
  induction t generalizing inRun with
  | nil => exact nofun
  | cons c rest ih =>
    have hrest : ∀ d ∈ rest, isBlank d = true := fun d hd => h d (List.mem_cons_of_mem _ hd)
    have hspace : isBlank ' ' = true := by decide
    rw [squeezeFrom]
    split
    · split
      · exact ih hrest
      · exact List.forall_mem_cons.mpr ⟨hspace, ih hrest⟩
    · exact List.forall_mem_cons.mpr ⟨h c List.mem_cons_self, ih hrest⟩

theorem mem_of_mem_squeezeFrom {t : Text} {inRun : Bool} {c : Char} (hc : c ≠ ' ')
    (h : c ∈ squeezeFrom inRun t) : c ∈ t := by
  induction t generalizing inRun with
  | nil => cases h
  | cons d rest ih =>
    rw [squeezeFrom] at h
    split at h
    · split at h
      · exact List.mem_cons_of_mem _ (ih h)
      · exact List.mem_cons_of_mem _ (ih ((List.mem_cons.mp h).resolve_left hc))
    · rcases List.mem_cons.mp h with rfl | h
      · exact List.mem_cons_self
      · exact List.mem_cons_of_mem _ (ih h)

/-- Squeezing leaves the edges of a bare text as they are. -/
theorem bare_squeeze {t : Text} (h : Bare t) : Bare (squeeze t) where
  head := by
    cases t with
    | nil =>
      intro c hc
      cases hc
    | cons c rest =>
      have hc : isBlank c = false := h.head c rfl
      rw [squeeze, squeezeFrom, isInlineBlank_of_not_blank hc, if_neg Bool.false_ne_true]
      rintro d hd
      obtain rfl := Option.some.inj hd
      exact hc
  last := by
    rcases List.eq_nil_or_concat t with rfl | ⟨front, c, rfl⟩
    · intro c hc
      cases hc
    · have hc : isBlank c = false := h.last c (by simp)
      -- The last character is squeezed in the state that the ones before it lead to.
      rw [List.concat_eq_append, squeeze, squeezeFrom_append_state]
      rw [squeezeFrom, isInlineBlank_of_not_blank hc, if_neg Bool.false_ne_true, squeezeFrom,
        List.getLast?_concat]
      rintro d hd
      obtain rfl := Option.some.inj hd
      exact hc

/-- Squeezing keeps white space at the edges and makes none. -/
theorem trim_squeezeFrom (inRun : Bool) (t : Text) :
    trim (squeezeFrom inRun t) = squeeze (trim t) := by
  obtain ⟨front, back, hsplit, hfront, hback⟩ := exists_trim_split t
  have hbare := bare_trim t
  conv => lhs; rw [hsplit]
  rw [squeezeFrom_append_state, squeezeFrom_append_state (inRunAfter inRun front),
    squeezeFrom_of_head fun c hc => isInlineBlank_of_not_blank (hbare.head c hc)]
  exact trim_blanks_append_blanks (bare_squeeze hbare) (isBlank_of_mem_squeezeFrom hfront)
    (isBlank_of_mem_squeezeFrom hback)

theorem trimStart_squeezeFrom (inRun : Bool) (t : Text) :
    trimStart (squeezeFrom inRun t) = squeeze (trimStart t) := by
  have hsplit : t = t.takeWhile isBlank ++ trimStart t := List.takeWhile_append_dropWhile.symm
  have hfront : ∀ c ∈ t.takeWhile isBlank, isBlank c = true := fun c => List.mem_takeWhile_imp
  have hhead : ∀ c ∈ (trimStart t).head?, isBlank c = false := head_dropWhile isBlank t
  conv => lhs; rw [hsplit]
  rw [squeezeFrom_append_state, trimStart,
    List.dropWhile_append_of_pos (isBlank_of_mem_squeezeFrom hfront),
    squeezeFrom_of_head fun c hc => isInlineBlank_of_not_blank (hhead c hc)]
  cases hrest : trimStart t with
  | nil => rfl
  | cons c rest =>
    have hc : isBlank c = false := hhead c (by rw [hrest]; rfl)
    rw [squeeze, squeezeFrom, isInlineBlank_of_not_blank hc, if_neg Bool.false_ne_true]
    exact List.dropWhile_cons_of_neg (by simp [hc])

/-- Two bare texts with a space between them are squeezed one by one. -/
theorem squeeze_append_space {u v : Text} (hu : Bare u) (hv : Bare v) (hune : u ≠ []) :
    squeeze (u ++ ' ' :: v) = squeeze u ++ ' ' :: squeeze v := by
  have hstate : inRunAfter false u = false := by
    rw [inRunAfter, List.getLast?_eq_getLast_of_ne_nil hune]
    exact isInlineBlank_of_not_blank
      (hu.last _ (List.getLast?_eq_getLast_of_ne_nil hune))
  have hspace : squeezeFrom false (' ' :: v) = ' ' :: squeezeFrom true v := rfl
  rw [squeeze, squeezeFrom_append_state, hstate, hspace,
    squeezeFrom_of_head fun c hc => isInlineBlank_of_not_blank (hv.head c hc)]
  rfl

/-- A character in front of a text is squeezed with the white space that the text starts with. -/
theorem squeeze_cons (c : Char) (t : Text) : squeeze (c :: t) =
    squeezeFrom (t.head?.any isInlineBlank) [c] ++ squeeze t := by
  by_cases hc : isInlineBlank c = true
  · have hstart : squeeze (c :: t) = ' ' :: squeezeFrom true t := by
      rw [squeeze, squeezeFrom, if_pos hc, if_neg Bool.false_ne_true]
    rw [hstart, squeezeFrom, if_pos hc]
    cases t with
    | nil => rfl
    | cons d t => by_cases hd : isInlineBlank d = true <;> simp [squeeze, squeezeFrom, hd]
  · rw [squeeze, squeezeFrom, if_neg hc, squeezeFrom, if_neg hc]
    rfl

/-- Squeezing does the same from either end. -/
theorem squeeze_reverse (t : Text) : squeeze t.reverse = (squeeze t).reverse := by
  induction t with
  | nil => rfl
  | cons c rest ih =>
    have hstate : inRunAfter false rest.reverse = rest.head?.any isInlineBlank := by
      rw [inRunAfter, List.getLast?_reverse]
      cases rest <;> rfl
    have hone : ∀ inRun, (squeezeFrom inRun [c]).reverse = squeezeFrom inRun [c] := by
      intro inRun
      rw [squeezeFrom]
      split
      · split <;> rfl
      · rfl
    rw [List.reverse_cons, squeeze, squeezeFrom_append_state, hstate, ← squeeze, ih, squeeze_cons,
      List.reverse_append, hone]

theorem squeezeFrom_squeezeFrom (inRun : Bool) (t : Text) :
    squeezeFrom inRun (squeezeFrom inRun t) = squeezeFrom inRun t := by
  induction t generalizing inRun with
  | nil => rfl
  | cons c rest ih =>
    have hspace : isInlineBlank ' ' = true := by decide
    rw [squeezeFrom]
    by_cases hblank : isInlineBlank c = true
    · rw [if_pos hblank]
      cases inRun with
      | true => exact ih true
      | false =>
        rw [if_neg Bool.false_ne_true, squeezeFrom, if_pos hspace, if_neg Bool.false_ne_true, ih]
    · rw [if_neg hblank, squeezeFrom, if_neg hblank, ih]

/-! ### Tidying a line -/

theorem bare_tidyLine (line : Text) : Bare (tidyLine line) := bare_squeeze (bare_trim line)

theorem trim_tidyLine (line : Text) : trim (tidyLine line) = tidyLine line :=
  trim_eq_self_iff.mpr (bare_tidyLine line)

theorem tidyLine_of_bare {line : Text} (h : Bare line) : tidyLine line = squeeze line := by
  rw [tidyLine, trim_eq_self_iff.mpr h]

theorem tidyLine_trimEnd (line : Text) : tidyLine (trimEnd line) = tidyLine line := by
  rw [tidyLine, trim_trimEnd, tidyLine]

theorem tidyLine_squeeze (t : Text) : tidyLine (squeeze t) = tidyLine t := by
  show squeeze (trim (squeezeFrom false t)) = squeeze (trim t)
  rw [trim_squeezeFrom]
  exact squeezeFrom_squeezeFrom false (trim t)

theorem tidyLine_tidyLine (line : Text) : tidyLine (tidyLine line) = tidyLine line := by
  rw [tidyLine_of_bare (bare_tidyLine line), tidyLine]
  exact squeezeFrom_squeezeFrom false (trim line)

theorem tidyLine_eq_nil_iff {line : Text} : tidyLine line = [] ↔ trim line = [] :=
  squeeze_eq_nil_iff

/-- Joining and cutting leave a tidy line alone. -/
theorem isLine_tidyLine {line : Text} (h : '\n' ∉ line) : IsLine (tidyLine line) := by
  refine IsLine.of_trimEnd ?_ (trimEnd_eq_self (bare_tidyLine line).last)
  exact fun hmem => not_mem_trim h (mem_of_mem_squeezeFrom (by decide) hmem)

theorem isLine_of_mem_map_tidyLine {t l : Text} (h : l ∈ (lines t).map tidyLine) : IsLine l := by
  obtain ⟨line, hline, rfl⟩ := List.mem_map.mp h
  exact isLine_tidyLine (not_mem_of_mem_lines hline)

/-! ### The lines of a tidy body -/

/-- Neither the first nor the last line of a text without white space at its edges is blank. -/
theorem not_blank_ends {t : Text} (h : Bare t) :
    [] ∉ ((lines t).map tidyLine).head? ∧ [] ∉ ((lines t).map tidyLine).getLast? := by
  constructor
  · cases t with
    | nil => exact nofun
    | cons c rest =>
      have hc : isBlank c = false := h.head c rfl
      obtain ⟨line, more, hlines⟩ := head_lines hc rest
      rw [hlines]
      intro hnil
      have hblank := trim_eq_nil_iff.mp (tidyLine_eq_nil_iff.mp (Option.some.inj hnil))
      rw [hblank c List.mem_cons_self] at hc
      cases hc
  · -- The last line has the last character of the text in it.
    rcases List.eq_nil_or_concat t with rfl | ⟨front, c, ht⟩
    · exact nofun
    · have hend : t.getLast? = some c := by rw [ht]; simp
      have hc : isBlank c = false := h.last c hend
      obtain ⟨line, hline, hlineEnd⟩ := last_lines hend hc
      rw [List.getLast?_map, hline]
      intro hnil
      have hblank := trim_eq_nil_iff.mp (tidyLine_eq_nil_iff.mp (Option.some.inj hnil))
      rw [hblank c (List.mem_of_getLast? hlineEnd)] at hc
      cases hc

theorem bare_of_mem_map_tidyLine {t l : Text} (h : l ∈ (lines t).map tidyLine) : Bare l := by
  obtain ⟨line, -, rfl⟩ := List.mem_map.mp h
  exact bare_tidyLine line

/-- Of such a text nothing is left to trim when its lines are tidied. -/
theorem tidyLines_of_bare {t : Text} (h : Bare t) :
    tidyLines t = unlines ((lines t).map tidyLine) := by
  obtain ⟨hfirst, hlast⟩ := not_blank_ends h
  exact trim_eq_self_iff.mpr (bare_unlines (fun _ => bare_of_mem_map_tidyLine) hfirst hlast)

/-- The tidied lines of a text without white space at its edges come back from joining them. -/
theorem lines_tidyLines {t : Text} (h : Bare t) : lines (tidyLines t) = (lines t).map tidyLine := by
  rw [tidyLines_of_bare h]
  exact lines_unlines (fun _ => isLine_of_mem_map_tidyLine) (not_blank_ends h).2

/-- A text of one line is tidied as that line. -/
theorem tidyLines_of_no_feed {t : Text} (h : '\n' ∉ t) : tidyLines t = tidyLine t := by
  by_cases hne : t = []
  · rw [hne]
    decide
  · rw [tidyLines, lines_of_no_feed hne h, List.map_singleton, unlines_singleton, trim_tidyLine]

/-- The lines of a text without white space at its edges are tidied once and for all. -/
theorem tidyLines_tidyLines {t : Text} (h : Bare t) : tidyLines (tidyLines t) = tidyLines t := by
  have htwice : tidyLine ∘ tidyLine = tidyLine := funext tidyLine_tidyLine
  rw [tidyLines, lines_tidyLines h, List.map_map, htwice, ← tidyLines]

/-- **The lines of a tidy body** are those of the trimmed body, one by one. -/
theorem lines_tidyBody {t : Text} (h : '|' ∉ t) :
    lines (tidyBody t) = (lines (trim t)).map tidyLine := by
  rw [tidyBody_of_no_bar h, lines_tidyLines (bare_trim t)]

/-! ### Blank lines at the ends -/

/-- White space in front of a text makes at most one blank line more. -/
theorem exists_lines_cons_blank {c : Char} (hc : isBlank c = true) (t : Text) :
    ∃ blanks, (lines (c :: t)).map tidyLine = blanks ++ (lines t).map tidyLine ∧
      ∀ l ∈ blanks, l = [] := by
  have hone : ∀ l ∈ [([] : Text)], l = [] := fun l => List.mem_singleton.mp
  -- A line feed starts a line, a return in front of one is part of the break, and any other white
  -- space is trimmed from the line that it starts.
  by_cases hfeed : c = '\n'
  · subst hfeed
    exact ⟨[[]], rfl, hone⟩
  by_cases hreturn : ∃ more, c = '\r' ∧ t = '\n' :: more
  · obtain ⟨more, rfl, rfl⟩ := hreturn
    exact ⟨[], rfl, nofun⟩
  · rw [lines_cons hfeed fun more hcr ht => hreturn ⟨more, hcr, ht⟩]
    cases lines t with
    | nil =>
      refine ⟨[[]], ?_, hone⟩
      rw [List.map_singleton, tidyLine, trim_cons_blank hc]
      rfl
    | cons line more =>
      refine ⟨[], ?_, nofun⟩
      rw [List.map_cons, tidyLine, trim_cons_blank hc]
      rfl

/-- White space in front of a text makes blank lines in front of its lines, if any. -/
theorem exists_lines_blanks_append {front : Text} (h : ∀ c ∈ front, isBlank c = true)
    (t : Text) : ∃ blanks, (lines (front ++ t)).map tidyLine = blanks ++ (lines t).map tidyLine ∧
      ∀ l ∈ blanks, l = [] := by
  induction front with
  | nil => exact ⟨[], rfl, nofun⟩
  | cons c front ih =>
    obtain ⟨more, hmore, hmoreNil⟩ := ih fun d hd => h d (List.mem_cons_of_mem _ hd)
    obtain ⟨blanks, hblanks, hblanksNil⟩ :=
      exists_lines_cons_blank (h c List.mem_cons_self) (front ++ t)
    refine ⟨blanks ++ more, ?_, List.forall_mem_append.mpr ⟨hblanksNil, hmoreNil⟩⟩
    rw [List.cons_append, hblanks, hmore, List.append_assoc]

/-- A text of white space has blank lines only. -/
theorem trimEnd_eq_nil_of_mem_lines {t l : Text} (h : ∀ c ∈ t, isBlank c = true)
    (hl : l ∈ lines t) : trimEnd l = [] :=
  trimEnd_eq_nil fun _ hc => h _ (mem_of_mem_lines hl hc)

/-- White space behind a text makes blank lines behind its lines, if any, and its last line may end
in white space then. -/
theorem exists_lines_append_blanks {back : Text} (h : ∀ c ∈ back, isBlank c = true) (t : Text) :
    ∃ blanks, (lines (t ++ back)).map trimEnd = (lines t).map trimEnd ++ blanks ∧
      ∀ l ∈ blanks, l = [] := by
  have hblank : ∀ l ∈ lines back, trimEnd l = [] := fun l => trimEnd_eq_nil_of_mem_lines h
  induction t using lines.induct with
  | case1 => exact ⟨(lines back).map trimEnd, rfl, List.forall_mem_map.mpr hblank⟩
  | case2 rest ih =>
    obtain ⟨blanks, hblanks, hnil⟩ := ih
    exact ⟨blanks, congrArg (trimEnd [] :: ·) hblanks, hnil⟩
  | case3 rest ih =>
    obtain ⟨blanks, hblanks, hnil⟩ := ih
    exact ⟨blanks, congrArg (trimEnd [] :: ·) hblanks, hnil⟩
  | case4 c rest hfeed hreturn hlines ih =>
    obtain rfl := lines_eq_nil_iff.mp hlines
    -- A carriage return at the end may now be part of a line break; it was a blank line before.
    by_cases hbreak : ∃ more, c = '\r' ∧ back = '\n' :: more
    · obtain ⟨more, rfl, rfl⟩ := hbreak
      exact ⟨(lines more).map trimEnd, rfl,
        List.forall_mem_map.mpr fun l hl => hblank l (List.mem_cons_of_mem _ hl)⟩
    · rw [List.singleton_append, lines_cons hfeed fun more hc hback => hbreak ⟨more, hc, hback⟩,
        lines_cons hfeed hreturn, hlines]
      cases hback : lines back with
      | nil => exact ⟨[], rfl, List.forall_mem_nil _⟩
      | cons line more =>
        rw [hback] at hblank
        refine ⟨more.map trimEnd, ?_,
          List.forall_mem_map.mpr fun l hl => hblank l (List.mem_cons_of_mem _ hl)⟩
        have hline : trimEnd line = trimEnd [] := hblank line List.mem_cons_self
        rw [List.map_cons, trimEnd_cons hline]
        rfl
  | case5 c rest hfeed hreturn line more hlines ih =>
    obtain ⟨blanks, hblanks, hnil⟩ := ih
    have hne : rest ≠ [] := by
      rintro rfl
      cases hlines
    have hreturn' : ∀ more, c = '\r' → rest ++ back = '\n' :: more → False := by
      obtain ⟨d, rest, rfl⟩ := List.exists_cons_of_ne_nil hne
      rintro more rfl heq
      obtain ⟨rfl, -⟩ := List.cons.inj heq
      exact hreturn rest rfl rfl
    rw [hlines, List.map_cons, List.cons_append] at hblanks
    obtain ⟨line', more', hlines', hline, hmore⟩ := List.map_eq_cons_iff.mp hblanks
    refine ⟨blanks, ?_, hnil⟩
    rw [List.cons_append, lines_cons hfeed hreturn', lines_cons hfeed hreturn, hlines, hlines',
      List.map_cons, List.map_cons, List.cons_append, hmore, trimEnd_cons hline]

/-- The lines of a body, tidied one by one, are those of the trimmed body between blank lines. -/
theorem exists_blank_ends (t : Text) : ∃ front back,
    (lines t).map tidyLine = front ++ ((lines (trim t)).map tidyLine ++ back) ∧
      (∀ l ∈ front, l = []) ∧ ∀ l ∈ back, l = [] := by
  obtain ⟨start, behind, hsplit, hstart, hbehind⟩ := exists_trim_split t
  obtain ⟨front, hfront, hfrontNil⟩ := exists_lines_blanks_append hstart (trim t ++ behind)
  obtain ⟨back, hback, hbackNil⟩ := exists_lines_append_blanks hbehind (trim t)
  have htidy : tidyLine ∘ trimEnd = tidyLine := funext tidyLine_trimEnd
  refine ⟨front, back.map tidyLine, ?_, hfrontNil, ?_⟩
  · have hlines := congrArg (List.map tidyLine) hback
    rw [List.map_append, List.map_map, List.map_map, htidy] at hlines
    conv => lhs; rw [hsplit]
    rw [hfront, hlines]
  · intro l hl
    obtain ⟨m, hm, rfl⟩ := List.mem_map.mp hl
    rw [hbackNil m hm]
    rfl

end Notebook
