import Notebook.Proofs.Text.Edges

/-!
# Lines of a text

`Text.lines` cuts a text at its line breaks and `Text.unlines` joins lines with line feeds. What the
readers of lists need to know about the two:

- `Text.IsLine` — a line that joining and cutting leave alone: it has no line feed, and it does not
  end in a carriage return, which would go with the line feed behind it;
- `lines_unlines` — such lines come back, if the last is not empty;
- `unlines_append`, `unlines_flatMap` — joining in groups;
- `bare_unlines` — lines without white space at their edges make a text without it, between lines
  that are not blank;
- `not_mem_of_mem_lines` — no line has a line feed;
- `lines_append`, `exists_lines_between` — cutting two texts with a line feed or two between them.
-/

namespace Notebook

namespace Text

/-! ### Joining -/

@[simp] theorem unlines_singleton (l : Text) : unlines [l] = l := by simp [unlines]

theorem unlines_cons_cons (l m : Text) (ls : List Text) :
    unlines (l :: m :: ls) = l ++ '\n' :: unlines (m :: ls) := rfl

theorem unlines_cons (l : Text) {ls : List Text} (h : ls ≠ []) :
    unlines (l :: ls) = l ++ '\n' :: unlines ls := by
  cases ls with
  | nil => exact absurd rfl h
  | cons m ls => rfl

/-- What stands before the first line may be joined with it first. -/
theorem unlines_append_cons (front l : Text) (ls : List Text) :
    unlines ((front ++ l) :: ls) = front ++ unlines (l :: ls) := by
  cases ls with
  | nil => simp
  | cons m ls => simp [unlines_cons_cons]

theorem unlines_append {ls ms : List Text} (hls : ls ≠ []) (hms : ms ≠ []) :
    unlines (ls ++ ms) = unlines ls ++ '\n' :: unlines ms := by
  induction ls with
  | nil => exact absurd rfl hls
  | cons l ls ih =>
    by_cases hnil : ls = []
    · subst hnil
      rw [List.singleton_append, unlines_cons l hms, unlines_singleton]
    · have happend : ls ++ ms ≠ [] := by simp [hnil]
      rw [List.cons_append, unlines_cons l happend, ih hnil, unlines_cons l hnil]
      simp

theorem mem_unlines {ls : List Text} {l : Text} {c : Char} (hl : l ∈ ls) (hc : c ∈ l) :
    c ∈ unlines ls := by
  induction ls with
  | nil => cases hl
  | cons m ls ih =>
    by_cases hnil : ls = []
    · subst hnil
      rwa [unlines_singleton, ← List.mem_singleton.mp hl]
    · rw [unlines_cons m hnil]
      rcases List.mem_cons.mp hl with rfl | hl
      · exact List.mem_append_left _ hc
      · exact List.mem_append_right _ (List.mem_cons_of_mem _ (ih hl))

theorem exists_of_mem_unlines {ls : List Text} {c : Char} (h : c ∈ unlines ls) :
    c = '\n' ∨ ∃ l ∈ ls, c ∈ l := by
  induction ls with
  | nil => cases h
  | cons l ls ih =>
    by_cases hnil : ls = []
    · subst hnil
      rw [unlines_singleton] at h
      exact Or.inr ⟨l, List.mem_singleton_self l, h⟩
    · rw [unlines_cons l hnil] at h
      rcases List.mem_append.mp h with h | h
      · exact Or.inr ⟨l, List.mem_cons_self, h⟩
      · rcases List.mem_cons.mp h with h | h
        · exact Or.inl h
        · rcases ih h with h | ⟨m, hm, h⟩
          · exact Or.inl h
          · exact Or.inr ⟨m, List.mem_cons_of_mem _ hm, h⟩

/-- Lines with no white space at their edges make a text with none, if neither end is a blank
line. -/
theorem bare_unlines {ls : List Text} (hls : ∀ l ∈ ls, Bare l)
    (hfirst : [] ∉ ls.head?) (hlast : [] ∉ ls.getLast?) : Bare (unlines ls) where
  head := by
    cases ls with
    | nil => exact nofun
    | cons l ls =>
      have hne : l ≠ [] := fun hnil => hfirst (by simp [hnil])
      intro c hc
      refine (hls l List.mem_cons_self).head c ?_
      cases ls with
      | nil => rwa [unlines_singleton] at hc
      | cons m ls => rwa [unlines_cons_cons, List.head?_append_of_ne_nil _ hne] at hc
  last := by
    -- The condition on the first line does not hold of the lines behind it.
    clear hfirst
    induction ls with
    | nil => exact nofun
    | cons l ls ih =>
      cases ls with
      | nil =>
        rw [unlines_singleton]
        exact (hls l List.mem_cons_self).last
      | cons m ls =>
        rw [List.getLast?_cons_cons] at hlast
        have hrest := ih (fun k hk => hls k (List.mem_cons_of_mem _ hk)) hlast
        have hne : unlines (m :: ls) ≠ [] := by
          cases ls with
          | nil =>
            rw [unlines_singleton]
            exact fun hnil => hlast (by simp [hnil])
          | cons k ls =>
            rw [unlines_cons_cons]
            simp
        intro c hc
        rw [unlines_cons_cons, List.getLast?_append_of_ne_nil _ (List.cons_ne_nil _ _),
          List.getLast?_cons_of_ne_nil hne] at hc
        exact hrest c hc

/-- Groups of lines may be joined one by one. -/
theorem unlines_flatMap {α : Type} {f : α → List Text} (xs : List α) (h : ∀ x ∈ xs, f x ≠ []) :
    unlines (xs.flatMap f) = unlines (xs.map fun x => unlines (f x)) := by
  induction xs with
  | nil => rfl
  | cons x xs ih =>
    have ih := ih fun y hy => h y (List.mem_cons_of_mem _ hy)
    by_cases hnil : xs = []
    · subst hnil
      simp
    · have hmap : xs.map (fun x => unlines (f x)) ≠ [] := by simp [hnil]
      have hflat : xs.flatMap f ≠ [] := by
        obtain ⟨y, ys, rfl⟩ := List.exists_cons_of_ne_nil hnil
        have hy : f y ≠ [] := h y (by simp)
        simp [hy]
      rw [List.flatMap_cons, unlines_append (h x List.mem_cons_self) hflat, ih, List.map_cons,
        unlines_cons _ hmap]

theorem unlines_append_flatMap {α : Type} {f : α → List Text} (front : List Text) {xs : List α}
    (h : ∀ x ∈ xs, f x ≠ []) :
    unlines (front ++ xs.flatMap f) = unlines (front ++ xs.map fun x => unlines (f x)) := by
  by_cases hfront : front = []
  · subst hfront
    exact unlines_flatMap xs h
  · cases xs with
    | nil => rfl
    | cons x xs =>
      have hflat : (x :: xs).flatMap f ≠ [] := by simp [h x List.mem_cons_self]
      rw [unlines_append hfront hflat, unlines_flatMap _ h, ← unlines_append hfront (by simp)]

/-! ### Cutting -/

/-- A line that joining and cutting leave alone. -/
structure IsLine (l : Text) : Prop where
  no_feed : '\n' ∉ l
  no_return : l.getLast? ≠ some '\r'

theorem lines_cons {c : Char} {rest : Text} (hfeed : c ≠ '\n')
    (hreturn : ∀ more, c = '\r' → rest = '\n' :: more → False) :
    lines (c :: rest) =
      match lines rest with
      | [] => [[c]]
      | line :: more => (c :: line) :: more := by
  -- One unfolding and a split: only the last equation fits a character that is no line break.
  conv => lhs; unfold lines
  split
  · rename_i heq
    cases heq
  · rename_i heq
    exact absurd (List.cons.inj heq).1 hfeed
  · rename_i heq
    obtain ⟨hc, hrest⟩ := List.cons.inj heq
    exact absurd hrest (hreturn _ hc)
  · rename_i heq
    obtain ⟨rfl, rfl⟩ := List.cons.inj heq
    rfl

theorem lines_append_feed {l : Text} (h : IsLine l) (rest : Text) :
    lines (l ++ '\n' :: rest) = l :: lines rest := by
  induction l with
  | nil => rfl
  | cons c l ih =>
    have hfeed : c ≠ '\n' ∧ '\n' ∉ l := by
      have := h.no_feed
      simp only [List.mem_cons, not_or] at this
      exact ⟨fun heq => this.1 heq.symm, this.2⟩
    by_cases hnil : l = []
    · subst hnil
      have hreturn : c ≠ '\r' := by
        have := h.no_return
        simpa using this
      rw [List.singleton_append, lines_cons hfeed.1 fun _ heq _ => hreturn heq]
      rfl
    · have hl : IsLine l := by
        refine ⟨hfeed.2, ?_⟩
        rw [← List.getLast?_cons_of_ne_nil hnil]
        exact h.no_return
      -- The line feed is behind the rest of the line, so no carriage return goes with it.
      have hstart : ∀ more, c = '\r' → l ++ '\n' :: rest = '\n' :: more → False := by
        intro more _ heq
        obtain ⟨d, l, rfl⟩ := List.exists_cons_of_ne_nil hnil
        obtain ⟨rfl, -⟩ := List.cons.inj heq
        exact hfeed.2 List.mem_cons_self
      rw [List.cons_append, lines_cons hfeed.1 hstart, ih hl]

theorem lines_of_no_feed {l : Text} (hne : l ≠ []) (h : '\n' ∉ l) : lines l = [l] := by
  induction l with
  | nil => exact absurd rfl hne
  | cons c l ih =>
    simp only [List.mem_cons, not_or] at h
    have hstart : ∀ more, c = '\r' → l = '\n' :: more → False := by
      rintro more - rfl
      exact h.2 List.mem_cons_self
    rw [lines_cons (fun heq => h.1 heq.symm) hstart]
    by_cases hnil : l = []
    · subst hnil
      rfl
    · rw [ih hnil h.2]

/-- **Joined lines come back**, if the last is not empty. -/
theorem lines_unlines {ls : List Text} (h : ∀ l ∈ ls, IsLine l) (hlast : [] ∉ ls.getLast?) :
    lines (unlines ls) = ls := by
  induction ls with
  | nil => rfl
  | cons l ls ih =>
    have hl : IsLine l := h l List.mem_cons_self
    by_cases hnil : ls = []
    · subst hnil
      rw [unlines_singleton]
      refine lines_of_no_feed (fun hempty => hlast ?_) hl.no_feed
      simp [hempty]
    · rw [unlines_cons l hnil, lines_append_feed hl,
        ih (fun m hm => h m (List.mem_cons_of_mem _ hm)) (by
          rwa [List.getLast?_cons_of_ne_nil hnil] at hlast)]

/-- No line has a line feed in it. -/
theorem not_mem_of_mem_lines {l t : Text} (h : l ∈ lines t) : '\n' ∉ l := by
  -- A line feed is never kept; every case adds a character that is none, or starts a line.
  induction t using lines.induct generalizing l with
  | case1 => cases h
  | case2 rest ih =>
    rcases List.mem_cons.mp h with rfl | h
    · exact List.not_mem_nil
    · exact ih h
  | case3 rest ih =>
    rcases List.mem_cons.mp h with rfl | h
    · exact List.not_mem_nil
    · exact ih h
  | case4 c rest hfeed hreturn hlines ih =>
    rw [lines_cons hfeed hreturn, hlines] at h
    rw [List.mem_singleton.mp h, List.mem_singleton]
    exact fun heq => hfeed heq.symm
  | case5 c rest hfeed hreturn line more hlines ih =>
    rw [lines_cons hfeed hreturn, hlines] at h
    rw [hlines] at ih
    rcases List.mem_cons.mp h with rfl | h
    · have hline : '\n' ∉ line := ih List.mem_cons_self
      rw [List.mem_cons, not_or]
      exact ⟨fun heq => hfeed heq.symm, hline⟩
    · exact ih (List.mem_cons_of_mem _ h)

/-- Cutting makes no characters. -/
theorem mem_of_mem_lines {l t : Text} (hl : l ∈ lines t) {c : Char} (hc : c ∈ l) : c ∈ t := by
  induction t using lines.induct generalizing l with
  | case1 => cases hl
  | case2 rest ih =>
    rcases List.mem_cons.mp hl with rfl | hl
    · cases hc
    · exact List.mem_cons_of_mem _ (ih hl hc)
  | case3 rest ih =>
    rcases List.mem_cons.mp hl with rfl | hl
    · cases hc
    · exact List.mem_cons_of_mem _ (List.mem_cons_of_mem _ (ih hl hc))
  | case4 d rest hfeed hreturn hlines ih =>
    rw [lines_cons hfeed hreturn, hlines] at hl
    rw [List.mem_singleton.mp hl] at hc
    rw [List.mem_singleton.mp hc]
    exact List.mem_cons_self
  -- The character goes to the first line behind it.
  | case5 d rest hfeed hreturn line more hlines ih =>
    rw [lines_cons hfeed hreturn, hlines] at hl
    rw [hlines] at ih
    rcases List.mem_cons.mp hl with rfl | hl
    · rcases List.mem_cons.mp hc with rfl | hc
      · exact List.mem_cons_self
      · exact List.mem_cons_of_mem _ (ih List.mem_cons_self hc)
    · exact List.mem_cons_of_mem _ (ih (List.mem_cons_of_mem _ hl) hc)

/-! ### The first and the last line -/

theorem lines_eq_nil_iff {t : Text} : lines t = [] ↔ t = [] := by
  constructor
  · intro h
    cases t using lines.fun_cases with
    | case1 => rfl
    | case2 rest => cases h
    | case3 rest => cases h
    | case4 c rest hfeed hreturn hlines => rw [lines_cons hfeed hreturn, hlines] at h; cases h
    | case5 c rest hfeed hreturn line more hlines =>
      rw [lines_cons hfeed hreturn, hlines] at h
      cases h
  · rintro rfl
    rfl

/-- Where no line break stands, there is none with more behind it. -/
theorem not_break_append {c : Char} {rest : Text} (hne : rest ≠ [])
    (h : ∀ more, c = '\r' → rest = '\n' :: more → False) (u : Text) :
    ∀ more, c = '\r' → rest ++ u = '\n' :: more → False := by
  intro more hc hrest
  cases rest with
  | nil => exact hne rfl
  | cons d rest => exact h rest hc (by rw [(List.cons.inj hrest).1])

/-- Behind a line feed, the lines of a text are cut on their own. -/
theorem lines_append {t : Text} (h : ∀ c ∈ t.getLast?, c = '\n') (u : Text) :
    lines (t ++ u) = lines t ++ lines u := by
  have htail : ∀ {c : Char} {rest : Text}, (∀ d ∈ (c :: rest).getLast?, d = '\n') →
      ∀ d ∈ rest.getLast?, d = '\n' := by
    intro c rest hlast d hd
    have hne : rest ≠ [] := by
      rintro rfl
      cases hd
    exact hlast d (by rwa [List.getLast?_cons_of_ne_nil hne])
  induction t using lines.induct with
  | case1 => rfl
  | case2 rest ih => exact congrArg ([] :: ·) (ih (htail h))
  | case3 rest ih => exact congrArg ([] :: ·) (ih (htail (htail h)))
  | case4 c rest hfeed hreturn hlines ih =>
    obtain rfl := lines_eq_nil_iff.mp hlines
    exact absurd (h c rfl) hfeed
  -- There is a line behind, so a return at the end cannot join the break of the other text.
  | case5 c rest hfeed hreturn line more hlines ih =>
    have hrest : rest ≠ [] := by
      rintro rfl
      cases hlines
    rw [List.cons_append, lines_cons hfeed (not_break_append hrest hreturn u), ih (htail h),
      lines_cons hfeed hreturn, hlines]
    rfl

/-- A line feed ends the last line of a text, and starts no other. -/
theorem lines_concat_feed {t : Text} (hne : t ≠ []) (hfeed : t.getLast? ≠ some '\n')
    (hreturn : t.getLast? ≠ some '\r') : lines (t ++ ['\n']) = lines t := by
  have htail : ∀ {c d : Char} {rest : Text}, rest ≠ [] → (c :: rest).getLast? ≠ some d →
      rest.getLast? ≠ some d := by
    intro c d rest hrest hlast
    rwa [List.getLast?_cons_of_ne_nil hrest] at hlast
  induction t using lines.induct with
  | case1 => exact absurd rfl hne
  | case2 rest ih =>
    have hrest : rest ≠ [] := by
      rintro rfl
      exact hfeed rfl
    exact congrArg ([] :: ·) (ih hrest (htail hrest hfeed) (htail hrest hreturn))
  | case3 rest ih =>
    have hrest : rest ≠ [] := by
      rintro rfl
      exact hfeed rfl
    rw [List.getLast?_cons_cons] at hfeed hreturn
    exact congrArg ([] :: ·) (ih hrest (htail hrest hfeed) (htail hrest hreturn))
  -- The only line has its last character here, and it is no return.
  | case4 c rest hc hbreak hlines ih =>
    obtain rfl := lines_eq_nil_iff.mp hlines
    have hreturn' : c ≠ '\r' := fun heq => hreturn (by rw [heq]; rfl)
    rw [List.singleton_append, lines_cons hc fun _ heq _ => hreturn' heq,
      lines_cons hc fun _ heq _ => hreturn' heq]
    rfl
  | case5 c rest hc hbreak line more hlines ih =>
    have hrest : rest ≠ [] := by
      rintro rfl
      cases hlines
    rw [List.cons_append, lines_cons hc (not_break_append hrest hbreak _),
      ih hrest (htail hrest hfeed) (htail hrest hreturn), lines_cons hc hbreak]

/-- Between two texts with two line feeds between them there is an empty line, and nothing but empty
lines. -/
theorem exists_lines_between {t : Text} (h : t.getLast? ≠ some '\r') (u : Text) :
    ∃ blanks, (∀ l ∈ blanks, l = []) ∧
      lines (t ++ '\n' :: '\n' :: u) = lines t ++ (blanks ++ [] :: lines u) := by
  -- Behind a line feed each new one makes a blank line; otherwise the first ends the last line.
  by_cases hlast : ∀ c ∈ t.getLast?, c = '\n'
  · exact ⟨[[]], by simp, lines_append hlast _⟩
  · have hne : t ≠ [] := by
      rintro rfl
      exact hlast nofun
    have hfeed : t.getLast? ≠ some '\n' := by
      intro heq
      refine hlast fun c hc => ?_
      rw [heq] at hc
      exact (Option.some.inj hc).symm
    have hbreak : ∀ c ∈ (t ++ ['\n']).getLast?, c = '\n' := by
      intro c hc
      rw [List.getLast?_concat] at hc
      exact (Option.some.inj hc).symm
    have hsplit := lines_append hbreak ('\n' :: u)
    rw [lines_concat_feed hne hfeed h, List.append_assoc] at hsplit
    exact ⟨[], nofun, hsplit⟩

/-- A text that does not start with white space has a first line that starts as it does. -/
theorem head_lines {c : Char} (hc : isBlank c = false) (rest : Text) :
    ∃ line more, lines (c :: rest) = (c :: line) :: more := by
  have hfeed : c ≠ '\n' := by
    rintro rfl
    revert hc
    decide
  have hreturn : ∀ more, c = '\r' → rest = '\n' :: more → False := by
    rintro more rfl -
    revert hc
    decide
  rw [lines_cons hfeed hreturn]
  cases lines rest with
  | nil => exact ⟨[], [], rfl⟩
  | cons line more => exact ⟨line, more, rfl⟩

/-- A text that does not end in white space has a last line that ends as it does. -/
theorem last_lines {t : Text} {c : Char} (hlast : t.getLast? = some c) (hc : isBlank c = false) :
    ∃ line ∈ (lines t).getLast?, line.getLast? = some c := by
  induction t using lines.induct with
  | case1 => cases hlast
  | case2 rest ih =>
    have hne : rest ≠ [] := by
      rintro rfl
      obtain rfl := Option.some.inj hlast
      revert hc
      decide
    rw [List.getLast?_cons_of_ne_nil hne] at hlast
    rw [lines, List.getLast?_cons_of_ne_nil (lines_eq_nil_iff.not.mpr hne)]
    exact ih hlast
  | case3 rest ih =>
    have hne : rest ≠ [] := by
      rintro rfl
      obtain rfl := Option.some.inj hlast
      revert hc
      decide
    rw [List.getLast?_cons_cons, List.getLast?_cons_of_ne_nil hne] at hlast
    rw [lines, List.getLast?_cons_of_ne_nil (lines_eq_nil_iff.not.mpr hne)]
    exact ih hlast
  | case4 d rest hfeed hreturn hlines ih =>
    obtain rfl := lines_eq_nil_iff.mp hlines
    rw [lines_cons hfeed hreturn, hlines]
    exact ⟨[d], rfl, hlast⟩
  | case5 d rest hfeed hreturn line more hlines ih =>
    have hne : rest ≠ [] := by
      rintro rfl
      cases hlines
    rw [List.getLast?_cons_of_ne_nil hne] at hlast
    obtain ⟨last, hmem, hend⟩ := ih hlast
    rw [lines_cons hfeed hreturn, hlines]
    rw [hlines] at hmem
    -- The character goes to the first line, which is the last one only if there is no other.
    cases more with
    | nil =>
      obtain rfl := Option.some.inj hmem
      have hne' : line ≠ [] := by
        rintro rfl
        cases hend
      exact ⟨d :: line, rfl, by rwa [List.getLast?_cons_of_ne_nil hne']⟩
    | cons m more => exact ⟨last, hmem, hend⟩

/-! ### Trimmed lines -/

theorem IsLine.of_trimEnd {l : Text} (h : '\n' ∉ l) (htrim : trimEnd l = l) : IsLine l where
  no_feed := h
  no_return := by
    intro hlast
    have hne : l ≠ [] := by
      rintro rfl
      cases hlast
    have hblank : isBlank '\r' = true := by decide
    rw [trimEnd, dropEndWhile_eq_rdropWhile, List.rdropWhile_eq_self_iff] at htrim
    rw [List.getLast?_eq_getLast_of_ne_nil hne, Option.some_inj] at hlast
    exact htrim hne (hlast ▸ hblank)

theorem not_mem_trim {l : Text} {c : Char} (h : c ∉ l) : c ∉ trim l := by
  intro hc
  exact h (mem_of_mem_trim hc)

theorem not_mem_trimEnd {l : Text} {c : Char} (h : c ∉ l) : c ∉ trimEnd l := by
  intro hc
  rw [trimEnd, dropEndWhile_eq_rdropWhile] at hc
  exact h ((List.rdropWhile_prefix _ _).subset hc)

end Text

end Notebook
