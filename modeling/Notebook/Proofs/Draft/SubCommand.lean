import Notebook.Proofs.Draft.Command
import Notebook.Proofs.Draft.Residue
import Notebook.Proofs.Draft.Squeezed

/-!
# Sub-commands come through the passes (specification §4.2, step 4)

Whether a text is cut into title and body is decided by the sub-command that it begins with, but the
sub-command of a draft is looked for in the content, behind every pass. A keyword comes through: no
flag reaches across its hyphen, and cleaning up drops white space and separators only.

- `MarkFirst` — the flags of a reader show a mark before any hyphen; `Guarded` — a start that has no
  mark and ends with a hyphen;
- `Guarded.prefix_extract` — a guarded start stays when the flags are taken out;
- `Solid` — a start without gaps; `Solid.prefix_tidyBody` — it stays when the body is cleaned up;
- `SubCommand.ofBody?_eq_some` — no keyword begins with another, so the one that fits is found;
- `Draft.subCommand_kept` — the sub-command of a text is that of its draft.
-/

namespace Notebook

open Text

/-! ### Flags and the start of a body -/

/-- The mark of a flag, which is a number sign or a colon, stands before any hyphen in it. -/
def MarkFirst {α : Type} (read : Reader α) : Prop :=
  ∀ before t, (read before t).isSome → ∃ letters mark rest, t = letters ++ mark :: rest ∧
    '-' ∉ letters ∧ (mark = '#' ∨ mark = ':')

theorem readTag_markFirst : MarkFirst readTag := by
  intro before t h
  obtain ⟨c, rest, rfl, -⟩ := readTag_isSome_iff.mp h
  exact ⟨[], '#', '#' :: c :: rest, rfl, List.not_mem_nil, Or.inl rfl⟩

/-- What folds to a letter is no hyphen. -/
theorem hyphen_ne_of_foldCase_eq {k d : Char} (hk : foldCase k = d) (hd : d.isAlpha = true) :
    '-' ≠ k := by
  rintro rfl
  rw [← hk] at hd
  exact absurd hd (by decide)

theorem readColor_markFirst : MarkFirst readColor := by
  intro before t h
  obtain ⟨k, rest, rfl, hk⟩ := exists_key_of_readColor h
  have hne := hyphen_ne_of_foldCase_eq hk (by decide)
  exact ⟨[k], ':', rest, rfl, by simpa using hne, Or.inr rfl⟩

theorem readFont_markFirst : MarkFirst readFont := by
  intro before t h
  obtain ⟨k, rest, rfl, hk⟩ := exists_key_of_readFont h
  have hne := hyphen_ne_of_foldCase_eq hk (by decide)
  exact ⟨[k], ':', rest, rfl, by simpa using hne, Or.inr rfl⟩

theorem readFlag_markFirst : MarkFirst readFlag := by
  intro before t h
  obtain ⟨-, k, s, w, rest, rfl, hk, hs, -⟩ := readFlag_isSome_iff.mp h
  have hnek := hyphen_ne_of_foldCase_eq hk (by decide)
  have hnes := hyphen_ne_of_foldCase_eq hs (by decide)
  exact ⟨[k, s], ':', w ++ rest, rfl, by simp [hnek, hnes], Or.inr rfl⟩

/-- A start that no flag begins in: it has no mark of a flag, and its hyphen keeps a flag from
reaching out of it. -/
structure Guarded (start : Text) : Prop where
  no_hash : '#' ∉ start
  no_colon : ':' ∉ start
  last : start.getLast? = some '-'

namespace Guarded

variable {start : Text}

/-- No flag begins in a guarded start, whatever is behind it. -/
theorem read_eq_none {α : Type} {read : Reader α} (h : Guarded start) (hread : MarkFirst read)
    {before : Option Char} {u₁ u₂ : Text} (hsplit : start = u₁ ++ u₂) (hne : u₂ ≠ []) (v : Text) :
    read before (u₂ ++ v) = none := by
  have hhyphen : '-' ∈ u₂ := by
    have hlast := h.last
    rw [hsplit, List.getLast?_append_of_ne_nil _ hne] at hlast
    exact List.mem_of_getLast? hlast
  by_contra hsome
  obtain ⟨letters, mark, rest, ht, hletters, hmark⟩ :=
    hread _ _ (Option.isSome_iff_ne_none.mpr hsome)
  -- The mark is behind the start, but then so is the hyphen, or it stands in the start.
  rcases List.append_eq_append_iff.mp ht with ⟨more, rfl, -⟩ | ⟨more, rfl, hrest⟩
  · exact hletters (List.mem_append_left _ hhyphen)
  · cases more with
    | nil =>
      rw [List.append_nil] at hhyphen
      exact hletters hhyphen
    | cons c more =>
      obtain ⟨rfl, -⟩ := List.cons.inj hrest
      have hmem : mark ∈ start := hsplit ▸ List.mem_append_right _
        (List.mem_append_right _ List.mem_cons_self)
      rcases hmark with rfl | rfl
      · exact h.no_hash hmem
      · exact h.no_colon hmem

theorem prefix_takeOut {α : Type} {read : Reader α} (h : Guarded start) (hread : MarkFirst read)
    {t : Text} (ht : start <+: t) : start <+: (takeOut read t).1 := by
  obtain ⟨v, rfl⟩ := ht
  have hkept : (takeOut read (start ++ v)).1 =
      start ++ replaceFrom [' '] read 0 (lastOf none start) v :=
    replaceFrom_append_of_none fun _ _ hsplit hne => h.read_eq_none hread hsplit hne v
  rw [hkept]
  exact List.prefix_append start _

/-- **A guarded start stays** when the flags of a body are taken out. -/
theorem prefix_extract (h : Guarded start) {body : Text} (hbody : start <+: body) :
    start <+: (Attributes.extract body).1 := by
  have htags := h.prefix_takeOut readTag_markFirst hbody
  have hcolors := h.prefix_takeOut readColor_markFirst htags
  have hfonts := h.prefix_takeOut readFont_markFirst hcolors
  exact h.prefix_takeOut readFlag_markFirst hfonts

end Guarded

/-! ### Cleaning up and the start of a body -/

/-- A start that cleaning up has nothing to do with: it has a character, and no gap. -/
structure Solid (start : Text) : Prop where
  not_empty : start ≠ []
  no_gap : ∀ c ∈ start, isGap c = false

namespace Solid

variable {start : Text} (h : Solid start)

include h

/-- A start without gaps stays when gaps are dropped around a text. -/
theorem prefix_of_gaps_around {t u front back : Text} (ht : t = front ++ (u ++ back))
    (hfront : ∀ c ∈ front, isGap c = true) (hback : ∀ c ∈ back, isGap c = true)
    (hstart : start <+: t) : start <+: u := by
  obtain ⟨v, rfl⟩ := hstart
  have hnil : front = [] := by
    obtain ⟨c, more, rfl⟩ := List.exists_cons_of_ne_nil h.not_empty
    cases front with
    | nil => rfl
    | cons d front =>
      obtain ⟨rfl, -⟩ := List.cons.inj ht
      have hgap := hfront c List.mem_cons_self
      rw [h.no_gap c List.mem_cons_self] at hgap
      cases hgap
  rw [hnil, List.nil_append] at ht
  -- Either the start ends within the text, or it reaches into the gaps behind it.
  rcases List.append_eq_append_iff.mp ht with ⟨more, rfl, -⟩ | ⟨more, hsplit, hmore⟩
  · exact List.prefix_append start more
  · cases more with
    | nil => exact ⟨[], by rw [hsplit, List.append_nil, List.append_nil]⟩
    | cons c more =>
      have hgap := hback c (hmore ▸ List.mem_cons_self)
      have hmem : c ∈ start := hsplit ▸ List.mem_append_right u List.mem_cons_self
      rw [h.no_gap c hmem] at hgap
      cases hgap

theorem prefix_trim {t : Text} (hstart : start <+: t) : start <+: trim t := by
  obtain ⟨front, back, ht, hfront, hback⟩ := exists_trim_split t
  exact h.prefix_of_gaps_around ht (fun c hc => isGap_of_isBlank (hfront c hc))
    (fun c hc => isGap_of_isBlank (hback c hc)) hstart

theorem prefix_collapseSeparators {t : Text} (hstart : start <+: t) :
    start <+: collapseSeparators t := by
  obtain ⟨v, rfl⟩ := hstart
  have hkept : collapseSeparators (start ++ v) =
      start ++ replaceFrom separator readSeparatorRun 0 (lastOf none start) v := by
    refine replaceFrom_append_of_none fun u₁ u₂ hsplit hne => ?_
    obtain ⟨c, more, rfl⟩ := List.exists_cons_of_ne_nil hne
    refine readSeparatorRun_of_ne ?_
    rintro rfl
    have hbar := h.no_gap '|' (hsplit ▸ List.mem_append_right u₁ List.mem_cons_self)
    exact absurd hbar (by decide)
  rw [hkept]
  exact List.prefix_append start _

/-- A start without line breaks is that of the first line. -/
theorem exists_lines {t : Text} (hstart : start <+: t) :
    ∃ line more, lines t = line :: more ∧ start <+: line := by
  obtain ⟨v, rfl⟩ := hstart
  induction start with
  | nil => exact absurd rfl h.not_empty
  | cons c start ih =>
    have hc : isBlank c = false := not_isBlank_of_not_isGap (h.no_gap c List.mem_cons_self)
    -- The last character of the start may be followed by a line break, the others are not.
    by_cases hnil : start = []
    · obtain ⟨line, more, hlines⟩ := head_lines hc v
      refine ⟨c :: line, more, ?_, ?_⟩
      · rw [hnil]
        exact hlines
      · simp [hnil]
    · obtain ⟨line, more, hlines, hline⟩ :=
        ih ⟨hnil, fun d hd => h.no_gap d (List.mem_cons_of_mem _ hd)⟩
      refine ⟨c :: line, more, ?_, List.cons_prefix_cons.mpr ⟨rfl, hline⟩⟩
      have hfeed : c ≠ '\n' := by
        rintro rfl
        exact absurd hc (by decide)
      have hreturn : ∀ rest, c = '\r' → start ++ v = '\n' :: rest → False := by
        rintro rest rfl -
        exact absurd hc (by decide)
      rw [List.cons_append, lines_cons hfeed hreturn, hlines]

theorem prefix_tidyLine {line : Text} (hstart : start <+: line) : start <+: tidyLine line := by
  obtain ⟨v, hv⟩ := h.prefix_trim hstart
  have hinline : ∀ c ∈ start, isInlineBlank c = false := fun c hc =>
    isInlineBlank_of_not_blank (not_isBlank_of_not_isGap (h.no_gap c hc))
  show start <+: squeezeFrom false (trim line)
  rw [← hv, squeezeFrom_append hinline h.not_empty]
  exact List.prefix_append start _

theorem prefix_tidyLines {t : Text} (hstart : start <+: t) : start <+: tidyLines t := by
  obtain ⟨line, more, hlines, hline⟩ := h.exists_lines hstart
  obtain ⟨v, hv⟩ := h.prefix_tidyLine hline
  refine h.prefix_trim ?_
  show start <+: unlines ((lines t).map tidyLine)
  rw [hlines, List.map_cons, ← hv, unlines_append_cons]
  exact List.prefix_append start _

/-- **A start without gaps stays** when a body is cleaned up. -/
theorem prefix_tidyBody {body : Text} (hstart : start <+: body) : start <+: tidyBody body := by
  have hcollapsed := h.prefix_collapseSeparators hstart
  obtain ⟨front, back, ht, hfront, hback⟩ := trimSeparators_spec (collapseSeparators body)
  rw [tidyBody_eq]
  exact h.prefix_tidyLines (h.prefix_of_gaps_around ht hfront hback hcollapsed)

end Solid

/-! ### Keywords -/

/-- What has no letter case and stands in a spelling of a keyword stands in the keyword. -/
theorem mem_map_toLower {c : Char} (hc : c.isAlpha = false) {t : Text} (h : c ∈ t) :
    c ∈ t.map Char.toLower := by
  rw [← toLower_eq_self hc]
  exact List.mem_map_of_mem h

/-- The keywords that do not stand alone have neither gaps nor marks of flags, and end with a
hyphen. -/
theorem subCommandKeywords_guarded : ∀ k ∈ subCommandKeywords, k.alone = false →
    Solid (k.keyword.map Char.toLower) ∧ Guarded (k.keyword.map Char.toLower) := by
  have hempty : ∀ k ∈ subCommandKeywords, k.keyword.map Char.toLower ≠ [] := by decide
  have hsolid : ∀ k ∈ subCommandKeywords,
      (k.keyword.map Char.toLower).all (fun c => !isGap c) = true := by decide
  have hmarks : ∀ k ∈ subCommandKeywords,
      '#' ∉ k.keyword.map Char.toLower ∧ ':' ∉ k.keyword.map Char.toLower := by decide
  have hlast : ∀ k ∈ subCommandKeywords, k.alone = false →
      (k.keyword.map Char.toLower).getLast? = some '-' := by decide
  intro k hk halone
  refine ⟨⟨hempty k hk, fun c hc => ?_⟩, (hmarks k hk).1, (hmarks k hk).2, hlast k hk halone⟩
  simpa using List.all_eq_true.mp (hsolid k hk) c hc

/-- So it is with their spellings. -/
theorem SubCommandKeyword.guarded_spelling {k : SubCommandKeyword} (hk : k ∈ subCommandKeywords)
    (halone : k.alone = false) {head : Text}
    (hhead : head.map Char.toLower = k.keyword.map Char.toLower) :
    Solid head ∧ Guarded head := by
  obtain ⟨hsolid, hguarded⟩ := subCommandKeywords_guarded k hk halone
  rw [← hhead] at hsolid hguarded
  refine ⟨⟨?_, fun c hc => ?_⟩, fun hmem => ?_, fun hmem => ?_, ?_⟩
  · rintro rfl
    exact hsolid.not_empty rfl
  · by_contra hgap
    have hgap := Bool.eq_true_of_not_eq_false hgap
    rw [hsolid.no_gap c (mem_map_toLower (not_isAlpha_of_isGap hgap) hc)] at hgap
    cases hgap
  · exact hguarded.no_hash (mem_map_toLower (by decide) hmem)
  · exact hguarded.no_colon (mem_map_toLower (by decide) hmem)
  · have hlast := hguarded.last
    rw [List.getLast?_map] at hlast
    obtain ⟨c, hc, hlower⟩ := Option.map_eq_some_iff.mp hlast
    rw [hc, eq_of_toLower_eq (by decide) hlower]

/-- No keyword begins with another. -/
theorem subCommandKeywords_prefixFree : ∀ k ∈ subCommandKeywords, ∀ l ∈ subCommandKeywords,
    k.keyword.map Char.toLower <+: l.keyword.map Char.toLower → k = l := by decide

theorem map_prefix_of_after? {fold : Char → Char} {keyword t rest : Text}
    (h : after? fold keyword t = some rest) : keyword.map fold <+: t.map fold := by
  obtain ⟨head, rfl, hhead⟩ := after?_eq_some_iff.mp h
  rw [List.map_append, hhead]
  exact List.prefix_append _ _

/-- **The keyword that fits is found.** -/
theorem SubCommand.ofBody?_eq_some {k : SubCommandKeyword} (hk : k ∈ subCommandKeywords)
    (halone : k.alone = false) {t query : Text} (ht : Bare t)
    (h : afterAnyCase? k.keyword t = some query) :
    SubCommand.ofBody? t = some ⟨k.kind, trim query⟩ := by
  unfold SubCommand.ofBody?
  rw [trim_eq_self_iff.mpr ht]
  refine findSome?_of_unique hk ?_ fun l hl => ?_
  · rw [SubCommandKeyword.command?, h, halone]
    rfl
  · -- Of two keywords at one place one begins with the other, and the table has no such two.
    by_cases hafter : afterAnyCase? l.keyword t = none
    · right
      rw [SubCommandKeyword.command?, hafter]
    · left
      obtain ⟨rest, hrest⟩ := Option.ne_none_iff_exists'.mp hafter
      rcases List.prefix_or_prefix_of_prefix (map_prefix_of_after? h)
        (map_prefix_of_after? hrest) with hpre | hpre
      · exact (subCommandKeywords_prefixFree k hk l hl hpre).symm
      · exact subCommandKeywords_prefixFree l hl k hk hpre

/-- A text that is a sub-command begins one. -/
theorem beginsSubCommand_of_ofBody? {t : Text} (ht : Bare t)
    (h : (SubCommand.ofBody? t).isSome) : beginsSubCommand t = true := by
  obtain ⟨c, hc⟩ := Option.isSome_iff_exists.mp h
  obtain ⟨k, hk, hcommand⟩ := List.exists_of_findSome?_eq_some hc
  rw [trim_eq_self_iff.mpr ht] at hcommand
  have hafter : afterAnyCase? k.keyword t ≠ none := by
    intro hnone
    rw [SubCommandKeyword.command?, hnone] at hcommand
    cases hcommand
  refine List.any_eq_true.mpr ⟨k, hk, ?_⟩
  rw [trimStart_eq_self ht.head]
  exact Option.isSome_iff_ne_none.mpr hafter

/-! ### Sub-commands of drafts -/

/-- The content of what follows the keyword, if it begins a sub-command with something behind it:
the content begins with the keyword as it is spelled there. -/
theorem Draft.exists_keyword_content {k : SubCommandKeyword} (hk : k ∈ subCommandKeywords)
    (halone : k.alone = false) {rest : Text}
    (h : (afterAnyCase? k.keyword (trimStart rest)).isSome) :
    ∃ query, afterAnyCase? k.keyword (tidyBody (Attributes.extract rest).1) = some query := by
  obtain ⟨more, hmore⟩ := Option.isSome_iff_exists.mp h
  obtain ⟨head, hsplit, hhead⟩ := after?_eq_some_iff.mp hmore
  obtain ⟨hsolid, hguarded⟩ := k.guarded_spelling hk halone hhead
  have hblanks : ∀ c ∈ rest.takeWhile isBlank, isBlank c = true := fun c hc =>
    List.mem_takeWhile_imp hc
  have hrest : rest = rest.takeWhile isBlank ++ head ++ more := by
    rw [List.append_assoc, ← hsplit]
    exact List.takeWhile_append_dropWhile.symm
  -- White space has no mark of a flag, so that it is guarded together with the keyword.
  have hstart : Guarded (rest.takeWhile isBlank ++ head) := by
    refine ⟨fun hmem => ?_, fun hmem => ?_, ?_⟩
    · rcases List.mem_append.mp hmem with hmem | hmem
      · exact absurd (hblanks '#' hmem) (by decide)
      · exact hguarded.no_hash hmem
    · rcases List.mem_append.mp hmem with hmem | hmem
      · exact absurd (hblanks ':' hmem) (by decide)
      · exact hguarded.no_colon hmem
    · rw [List.getLast?_append_of_ne_nil _ hsolid.not_empty, hguarded.last]
  obtain ⟨left, hleft⟩ := hstart.prefix_extract ⟨more, hrest.symm⟩
  rw [← hleft, List.append_assoc, tidyBody_blanks_append hblanks]
  obtain ⟨query, hquery⟩ := hsolid.prefix_tidyBody (List.prefix_append head left)
  exact ⟨query, after?_eq_some_iff.mpr ⟨head, hquery.symm, hhead⟩⟩

/-- The content of a draft has no white space at its ends. -/
theorem Draft.bare_content {defaultTitle input : Text} {draft : Draft}
    (h : Draft.ofCommand? defaultTitle input = some draft) : Bare draft.content := by
  obtain ⟨rest, -, hcontent⟩ := Draft.content_of_ofCommand? h
  rw [hcontent, tidyBody_eq]
  exact bare_trim _

/-- The sub-command of a draft is what its content is. -/
theorem Draft.subCommand_of_ofCommand? {defaultTitle input : Text} {draft : Draft}
    (h : Draft.ofCommand? defaultTitle input = some draft) :
    draft.subCommand = SubCommand.ofBody? draft.content := by
  rw [Draft.ofCommand?_eq] at h
  obtain ⟨rest, -, rfl⟩ := Option.map_eq_some_iff.mp h
  simp only [Draft.ofRest, Draft.bare]

/-- **A sub-command comes through every pass.** A text that begins with the keyword of one makes a
draft that is not cut, whatever follows the keyword: it has the default title, its content begins
with the keyword, and its sub-command is of the keyword's kind and about all that is behind it. A
draft has no sub-command unless its content begins one. -/
theorem Draft.subCommand_kept (defaultTitle : Text) :
    (∀ k ∈ subCommandKeywords, k.alone = false → ∀ rest,
      (afterAnyCase? k.keyword (trimStart rest)).isSome →
      ∃ draft query, Draft.ofCommand? defaultTitle (newNoteKeyword ++ rest) = some draft ∧
        draft.title = (if trim defaultTitle = [] then untitled else trim defaultTitle) ∧
        afterAnyCase? k.keyword draft.content = some query ∧
        draft.subCommand = some ⟨k.kind, trim query⟩) ∧
    (∀ input draft, Draft.ofCommand? defaultTitle input = some draft →
      draft.subCommand.isSome → beginsSubCommand draft.content = true) := by
  refine ⟨fun k hk halone rest hrest => ?_, fun input draft hdraft hsome => ?_⟩
  · have hbegins : beginsSubCommand rest = true := List.any_eq_true.mpr ⟨k, hk, hrest⟩
    -- Nothing is cut off as a title from a text that begins a sub-command.
    have hcut : cutTitle rest = (none, rest) := by
      rw [cutTitle, hbegins, Bool.true_or, if_pos rfl]
    have hdraft := Draft.ofCommand?_eq defaultTitle (newNoteKeyword ++ rest)
    rw [afterNewNote?_append, Option.map_some] at hdraft
    obtain ⟨query, hquery⟩ := Draft.exists_keyword_content hk halone hrest
    have hcontent : (Draft.ofRest defaultTitle rest).content =
        tidyBody (Attributes.extract rest).1 := by
      simp only [Draft.ofRest, hcut, Draft.bare]
    rw [← hcontent] at hquery
    refine ⟨_, query, hdraft, ?_, hquery, ?_⟩
    · simp only [Draft.ofRest, hcut, Draft.bare, Option.getD_none, List.isEmpty_iff]
    · rw [Draft.subCommand_of_ofCommand? hdraft]
      exact SubCommand.ofBody?_eq_some hk halone (Draft.bare_content hdraft) hquery
  · rw [Draft.subCommand_of_ofCommand? hdraft] at hsome
    exact beginsSubCommand_of_ofBody? (Draft.bare_content hdraft) hsome

/-- A separator, an address and flags behind a keyword, one of them at its hyphen. -/
theorem Draft.subCommand_kept_flags :
    (afterAnyCase? "@pai-".toList
      (trimStart " @PAI-c:red ##x why || http://a f:B is:pin".toList)).isSome ∧
    ∃ draft, Draft.ofCommand? [' '] "@new- @PAI-c:red ##x why || http://a f:B is:pin".toList =
        some draft ∧
      draft.title = untitled ∧ (afterAnyCase? "@pai-".toList draft.content).isSome ∧
      draft.subCommand = some ⟨.aiQuery, "why || http://a".toList⟩ ∧
      beginsSubCommand draft.content = true := by
  have hstart : (afterAnyCase? "@pai-".toList
      (trimStart " @PAI-c:red ##x why || http://a f:B is:pin".toList)).isSome := by decide
  obtain ⟨hkept, hbegins⟩ := Draft.subCommand_kept [' ']
  obtain ⟨draft, query, hdraft, htitle, hquery, hcommand⟩ :=
    hkept ⟨"@pai-".toList, .aiQuery, false⟩ (by decide) rfl _ hstart
  refine ⟨hstart, draft, hdraft, htitle, Option.isSome_iff_exists.mpr ⟨query, hquery⟩, ?_,
    hbegins _ draft hdraft (Option.isSome_iff_exists.mpr ⟨_, hcommand⟩)⟩
  rw [Draft.subCommand_of_ofCommand? hdraft]
  obtain ⟨rest, hrest, hcontent⟩ := Draft.content_of_ofCommand? hdraft
  rw [hcontent]
  obtain rfl := Option.some.inj ((afterNewNote?_append _).symm.trans hrest)
  decide

end Notebook
