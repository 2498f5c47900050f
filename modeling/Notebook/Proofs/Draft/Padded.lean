import Notebook.Intent
import Notebook.Proofs.Draft.Cleanup
import Notebook.Proofs.Draft.Words

/-!
# White space around an input

What an input is meant as does not depend on the white space around it. In front it is dropped
before anything else is looked at. Behind, it goes with the body of a note through all that is done
to it, until cleaning up drops it:

- `Padded` — a text with white space behind it; what is read at the start of a text, and where a
  title ends, is the same in a padded text;
- `BlindBehind` — a reader that finds the same in a padded text, where at most an occurrence at the
  end of the text takes some of the white space along, as a font does with spaces;
- `Padded.extract` — taking flags out of a padded body leaves the same, padded, and sets the same;
- `Padded.tidy_eq` — and cleaning up leaves the very same;
- `Settings.interpret_surrounded` — white space around an input changes nothing.
-/

namespace Notebook

open Text

/-- The second of two texts is the first with white space behind it. -/
def Padded (t u : Text) : Prop := ∃ back, u = t ++ back ∧ ∀ c ∈ back, isBlank c = true

namespace Padded

variable {t u : Text}

theorem refl (t : Text) : Padded t t := ⟨[], (List.append_nil t).symm, List.forall_mem_nil _⟩

/-! ### Reading at the start -/

theorem trimStart (h : Padded t u) : Padded (trimStart t) (trimStart u) := by
  obtain ⟨back, rfl, hback⟩ := h
  by_cases hblank : ∀ c ∈ t, isBlank c = true
  · refine ⟨[], ?_, List.forall_mem_nil _⟩
    rw [Text.trimStart, Text.trimStart, List.dropWhile_append_of_pos hblank,
      List.dropWhile_eq_nil_iff.mpr hback, List.dropWhile_eq_nil_iff.mpr hblank, List.append_nil]
  · refine ⟨back, ?_, hback⟩
    rw [Text.trimStart, List.dropWhile_append, if_neg]
    · rfl
    · rwa [List.isEmpty_iff, List.dropWhile_eq_nil_iff]

theorem trim_eq (h : Padded t u) : trim u = trim t := by
  obtain ⟨back, rfl, hback⟩ := h
  exact trim_append_blanks hback t

/-- A keyword without white space is followed by the same, padded. -/
theorem after? (h : Padded t u) {fold : Char → Char} (hfold : ∀ g, isBlank g = true → fold g = g)
    {keyword : Text} (hkeyword : keyword.all (fun k => !isBlank (fold k)) = true) :
    Option.Rel Padded (after? fold keyword t) (after? fold keyword u) := by
  obtain ⟨back, rfl, hback⟩ := h
  cases back with
  | nil =>
    rw [List.append_nil]
    cases Text.after? fold keyword t with
    | none => exact .none
    | some rest => exact .some (refl rest)
  | cons g v =>
    have hg := hback g List.mem_cons_self
    -- The first character of what is padded is blank and ends every keyword.
    have hne : ∀ k ∈ keyword, fold g ≠ fold k := by
      intro k hk heq
      have hsolid := List.all_eq_true.mp hkeyword k hk
      rw [← heq, hfold g hg, hg] at hsolid
      cases hsolid
    rw [after?_append hne]
    cases Text.after? fold keyword t with
    | none => exact .none
    | some rest => exact .some ⟨g :: v, rfl, hback⟩

theorem afterAnyCase? (h : Padded t u) {keyword : Text}
    (hkeyword : keyword.all (fun k => !isBlank k.toLower) = true) :
    Option.Rel Padded (afterAnyCase? keyword t) (afterAnyCase? keyword u) :=
  h.after? (fun g hg => by
    simpa using forall_gap (p := fun c => c.toLower == c) (by decide +kernel)
      (isGap_of_isBlank hg)) hkeyword

theorem isSome_afterAnyCase? (h : Padded t u) {keyword : Text}
    (hkeyword : keyword.all (fun k => !isBlank k.toLower) = true) :
    (Text.afterAnyCase? keyword u).isSome = (Text.afterAnyCase? keyword t).isSome := by
  have hrel := h.afterAnyCase? hkeyword
  generalize Text.afterAnyCase? keyword u = o at hrel ⊢
  generalize Text.afterAnyCase? keyword t = o' at hrel ⊢
  cases hrel <;> rfl

/-! ### The title -/

theorem beginsSubCommand_eq (h : Padded t u) : beginsSubCommand u = beginsSubCommand t := by
  have hkeywords : ∀ k ∈ subCommandKeywords,
      k.keyword.all (fun k => !isBlank k.toLower) = true := by decide
  rw [Bool.eq_iff_iff, beginsSubCommand, beginsSubCommand, List.any_eq_true, List.any_eq_true]
  refine exists_congr fun k => and_congr_right fun hk => ?_
  rw [h.trimStart.isSome_afterAnyCase? (hkeywords k hk)]

/-- White space brings no part without white space into a text. -/
theorem contains_eq (h : Padded t u) {c : Char} {part : Text}
    (hpart : (c :: part).all (!isBlank ·) = true) :
    contains (c :: part) u = contains (c :: part) t := by
  obtain ⟨back, rfl, hback⟩ := h
  have hsolid : ∀ d ∈ back, d ∉ c :: part := by
    intro d hd hmem
    have hd' := List.all_eq_true.mp hpart d hmem
    rw [hback d hd] at hd'
    cases hd'
  cases back with
  | nil => rw [List.append_nil]
  | cons g v =>
    have hnone : contains (c :: part) v = false :=
      contains_eq_false List.mem_cons_self fun hmem =>
        hsolid c (List.mem_cons_of_mem _ hmem) List.mem_cons_self
    rw [contains_append (hsolid g List.mem_cons_self), hnone, Bool.or_false]

theorem looksLikeAddress_eq (h : Padded t u) : looksLikeAddress u = looksLikeAddress t := by
  have hstart := h.trimStart
  have hkeyword : ∀ keyword ∈ ["http://".toList, "https://".toList, "www.".toList],
      (Text.afterAnyCase? keyword (Text.trimStart u)).isSome =
        (Text.afterAnyCase? keyword (Text.trimStart t)).isSome := by
    intro keyword hmem
    refine hstart.isSome_afterAnyCase? ?_
    revert keyword
    decide
  have hscheme : contains "://".toList (Text.trimStart u) =
      contains "://".toList (Text.trimStart t) := hstart.contains_eq (by decide)
  simp only [List.forall_mem_cons] at hkeyword
  obtain ⟨hhttp, hhttps, hwww, -⟩ := hkeyword
  simp only [looksLikeAddress, hhttp, hhttps, hwww, hscheme]

/-- A separator is found in the same place, with the same, padded, behind it. -/
theorem splitOnce? (h : Padded t u) :
    Option.Rel (fun p q => q.1 = p.1 ∧ Padded p.2 q.2) (splitOnce? separator t)
      (splitOnce? separator u) := by
  obtain ⟨back, rfl, hback⟩ := h
  induction t with
  | nil =>
    have hbar : '|' ∉ back := fun hmem => absurd (hback '|' hmem) (by decide)
    rw [List.nil_append, splitOnce?_eq_none (by decide : '|' ∈ separator) hbar]
    exact .none
  | cons c rest ih =>
    have hpadded : Padded (c :: rest) (c :: (rest ++ back)) := ⟨back, rfl, hback⟩
    have hafter : Option.Rel Padded (afterExact? separator (c :: rest))
        (afterExact? separator (c :: rest ++ back)) := hpadded.after? (fun _ _ => rfl) (by decide)
    rw [List.cons_append] at hafter ⊢
    rw [Text.splitOnce?, Text.splitOnce?]
    -- From here on only the relation between what the two read matters.
    generalize afterExact? separator (c :: rest) = o at hafter ⊢
    generalize afterExact? separator (c :: (rest ++ back)) = o' at hafter ⊢
    cases hafter with
    | some htail => exact .some ⟨rfl, htail⟩
    | none =>
      generalize Text.splitOnce? separator rest = o at ih ⊢
      generalize Text.splitOnce? separator (rest ++ back) = o' at ih ⊢
      cases ih with
      | some hsplit => exact .some ⟨congrArg (c :: ·) hsplit.1, hsplit.2⟩
      | none => exact .none

/-- A padded text has the same title and the same, padded, body. -/
theorem cutTitle (h : Padded t u) :
    (cutTitle u).1 = (cutTitle t).1 ∧ Padded (cutTitle t).2 (cutTitle u).2 := by
  have hsplit := h.splitOnce?
  rw [Notebook.cutTitle, Notebook.cutTitle, h.beginsSubCommand_eq, h.looksLikeAddress_eq]
  split
  · exact ⟨rfl, h⟩
  · generalize Text.splitOnce? separator t = o at hsplit ⊢
    generalize Text.splitOnce? separator u = o' at hsplit ⊢
    cases hsplit with
    | none => exact ⟨rfl, h⟩
    | some hparts =>
      obtain ⟨htitle, hbody⟩ := hparts
      simp only [htitle]
      exact ⟨trivial, hbody⟩

end Padded

/-! ### Flags -/

section Scan

variable {α : Type} {read : Reader α}

/-- A reader that finds nothing at white space, and in a text what it finds there with white space
behind it. But if an occurrence ends with the text, some of the white space may belong to it. -/
structure BlindBehind (read : Reader α) : Prop where
  fits : Fits read
  at_blank : ∀ {before c t}, isBlank c = true → read before (c :: t) = none
  behind : ∀ (before : Option Char) {s back : Text}, s ≠ [] → (∀ c ∈ back, isBlank c = true) →
    read before (s ++ back) = read before s ∨ ∃ f taken left, back = taken ++ left ∧
      read before s = some f ∧ s.length = f.removedAfterFirst + 1 ∧ f.kept = 0 ∧
      read before (s ++ back) =
        some { f with removedAfterFirst := f.removedAfterFirst + taken.length }

theorem BlindBehind.not_occurs (h : BlindBehind read) {back : Text}
    (hback : ∀ c ∈ back, isBlank c = true) (before : Option Char) : ¬Occurs read before back :=
  not_occurs_of_forall fun c hc _ _ => h.at_blank (hback c hc)

/-- The white space behind a text stays behind what is scanned of it, but for what an occurrence at
the end has taken. -/
theorem BlindBehind.scanFrom_append (h : BlindBehind read) {back : Text}
    (hback : ∀ c ∈ back, isBlank c = true) (removed kept : Nat) (before : Option Char) (t : Text)
    (hle : removed + kept ≤ t.length) :
    ∃ back', back' <:+ back ∧ scanFrom read removed kept before (t ++ back) =
      scanFrom read removed kept before t ++ back'.map .char := by
  induction t generalizing removed kept before with
  | nil =>
    obtain ⟨rfl, rfl⟩ : removed = 0 ∧ kept = 0 := by
      simp only [List.length_nil] at hle
      omega
    exact ⟨back, List.suffix_rfl, scanFrom_of_not_occurs (h.not_occurs hback before)⟩
  | cons c rest ih =>
    rw [List.length_cons] at hle
    match removed, kept with
    | removed + 1, kept => exact ih removed kept (some c) (by omega)
    | 0, kept + 1 =>
      obtain ⟨back', hsuffix, hscan⟩ := ih 0 kept (some c) (by omega)
      refine ⟨back', hsuffix, ?_⟩
      rw [List.cons_append, scanFrom, hscan, scanFrom, List.cons_append]
    | 0, 0 =>
      rw [List.cons_append, scanFrom, scanFrom]
      rcases h.behind before (List.cons_ne_nil c rest) hback with
        hsame | ⟨f, taken, left, rfl, hread, hlength, hkept, hread'⟩
      · rw [List.cons_append] at hsame
        rw [hsame]
        cases hfound : read before (c :: rest) with
        | none =>
          obtain ⟨back', hsuffix, hscan⟩ := ih 0 0 (some c) (Nat.zero_le _)
          exact ⟨back', hsuffix, congrArg (.char c :: ·) hscan⟩
        | some f =>
          obtain ⟨back', hsuffix, hscan⟩ := ih _ _ (some c) (h.fits before c rest f hfound)
          exact ⟨back', hsuffix, congrArg (.found f.value :: ·) hscan⟩
      · -- The occurrence is all of the text, and what it takes is the start of the white space.
        have hrest : f.removedAfterFirst = rest.length := by
          rw [List.length_cons] at hlength
          omega
        have hleft : ∀ c ∈ left, isBlank c = true := fun c hc =>
          hback c (List.mem_append_right _ hc)
        have hnothing : scanFrom read rest.length 0 (some c) rest = [] := by
          have hall : scanFrom read rest.length 0 (some c) (rest ++ []) = [] :=
            scanFrom_removed rest 0 (some c) []
          rwa [List.append_nil] at hall
        have hscan : scanFrom read (rest ++ taken).length 0 (some c) (rest ++ taken ++ left) =
            left.map .char := by
          rw [scanFrom_removed, scanFrom_of_not_occurs (h.not_occurs hleft _)]
        rw [List.length_append, List.append_assoc] at hscan
        rw [List.cons_append] at hread'
        refine ⟨left, List.suffix_append taken left, ?_⟩
        simp only [hread', hread, hkept, hrest, hscan, hnothing]
        rfl

/-- Taking flags out of a padded text leaves the same, padded, and finds the same. -/
theorem Padded.takeOut (hread : BlindBehind read) {t u : Text} (h : Padded t u) :
    Padded (takeOut read t).1 (takeOut read u).1 ∧ (takeOut read u).2 = (takeOut read t).2 := by
  obtain ⟨back, rfl, hback⟩ := h
  obtain ⟨back', hsuffix, hscan⟩ := hread.scanFrom_append hback 0 0 none t (Nat.zero_le _)
  have hback' : ∀ c ∈ back', isBlank c = true := fun c hc => hback c (hsuffix.subset hc)
  refine ⟨⟨back', ?_, hback'⟩, ?_⟩
  · show substitute [' '] (scan read (t ++ back)) = substitute [' '] (scan read t) ++ back'
    rw [scan, hscan, scan, substitute, List.flatMap_append]
    exact congrArg (_ ++ ·) substitute_map_char
  · show found (scan read (t ++ back)) = found (scan read t)
    rw [scan, hscan, scan, found, List.filterMap_append]
    exact (congrArg (_ ++ ·) found_map_char).trans (List.append_nil _)

end Scan

/-- A reader that sees no further than to a gap. -/
theorem blindBehind_of_append_gap {α : Type} {read : Reader α} (hfits : Fits read)
    (hgap : ∀ {before g v}, isGap g = true → read before (g :: v) = none)
    (happend : ∀ {before s g v}, isGap g = true → read before (s ++ g :: v) = read before s) :
    BlindBehind read where
  fits := hfits
  at_blank := fun hc => hgap (isGap_of_isBlank hc)
  behind := by
    intro before s back _ hback
    refine Or.inl ?_
    cases back with
    | nil => rw [List.append_nil]
    | cons g v => exact happend (isGap_of_isBlank (hback g List.mem_cons_self))

theorem readTag_blindBehind : BlindBehind readTag :=
  blindBehind_of_append_gap readTag_detached.fits
    (fun hg => Option.not_isSome_iff_eq_none.mp (readTag_spelled.gapLocal.at_gap hg))
    (fun hg => readTag_append_gap hg _ _ _)

theorem readColor_blindBehind : BlindBehind readColor :=
  blindBehind_of_append_gap readColor_detached.fits
    (fun hg => Option.not_isSome_iff_eq_none.mp (readColor_spelled.gapLocal.at_gap hg))
    (fun hg => readColor_append_gap hg _ _ _)

theorem readFlag_blindBehind : BlindBehind readFlag :=
  blindBehind_of_append_gap readFlag_detached.fits
    (fun hg => Option.not_isSome_iff_eq_none.mp (readFlag_spelled.gapLocal.at_gap hg))
    (fun hg => readFlag_append_gap hg _ _ _)

/-- The name of a font that ends with the text goes on with the spaces behind it, and is trimmed. -/
theorem readFont_blindBehind : BlindBehind readFont where
  fits := readFont_detached.fits
  at_blank := fun hc => Option.not_isSome_iff_eq_none.mp
    (readFont_spelled.gapLocal.at_gap (isGap_of_isBlank hc))
  behind := by
    intro before s back hne hback
    cases hread : readFont before s with
    | none =>
      refine Or.inl (Option.not_isSome_iff_eq_none.mp fun hsome => ?_)
      cases back with
      | nil =>
        rw [List.append_nil, hread] at hsome
        cases hsome
      | cons g v =>
        have hg := isGap_of_isBlank (hback g List.mem_cons_self)
        have hstart := (readFont_spelled.gapLocal.before_gap hg hne).mp hsome
        rw [hread] at hstart
        cases hstart
    | some f =>
      obtain ⟨hbefore, k, run, rest, rfl, hk, hrun, rfl⟩ := readFont_eq_some_iff_run.mp hread
      cases rest with
      | cons d rest =>
        -- The run ends before the end of the text.
        refine Or.inl (readFont_eq_some_iff_run.mpr
          ⟨hbefore, k, run, d :: rest ++ back, by simp, hk, ⟨hrun.head, hrun.chars, hrun.stop⟩, ?_⟩)
        rfl
      | nil =>
        -- The run goes on with the spaces at the start of the white space.
        obtain ⟨taken, left, rfl, htaken, hleft⟩ := exists_longest_start isFontChar back
        have hname : fontNameLength run [] = run.length := fontNameLength_of_whole nofun
        have hname' : fontNameLength (run ++ taken) left = (run ++ taken).length := by
          refine fontNameLength_of_whole fun hcolon => ?_
          obtain ⟨later, rfl⟩ := List.head?_eq_some_iff.mp hcolon
          exact absurd (hback ':' (List.mem_append_right _ List.mem_cons_self)) (by decide)
        have htrim : trim (run ++ taken) = trim run :=
          Padded.trim_eq ⟨taken, rfl, fun c hc => hback c (List.mem_append_left _ hc)⟩
        have hrun' : FontRun (run ++ taken) left := by
          refine ⟨head?_any_append hrun.head, fun c hc => ?_, hleft⟩
          rcases List.mem_append.mp hc with hc | hc
          · exact hrun.chars c hc
          · exact htaken c hc
        refine Or.inr ⟨_, taken, left, rfl, rfl, ?_, ?_, readFont_eq_some_iff_run.mpr
          ⟨hbefore, k, run ++ taken, left, by simp, hk, hrun', ?_⟩⟩
        · simp only [hname, List.length_cons, List.append_nil]
          omega
        · simp only [hname, Nat.sub_self]
        · rw [hname, hname', List.take_length, List.take_length, htrim, Nat.sub_self, Nat.sub_self,
            List.length_append, Nat.add_assoc]

/-- **Taking every flag out of a padded body** leaves the same, padded, and sets the same. -/
theorem Padded.extract {t u : Text} (h : Padded t u) :
    Padded (Attributes.extract t).1 (Attributes.extract u).1 ∧
      (Attributes.extract u).2 = (Attributes.extract t).2 := by
  obtain ⟨h₁, htags⟩ := h.takeOut readTag_blindBehind
  obtain ⟨h₂, hcolors⟩ := h₁.takeOut readColor_blindBehind
  obtain ⟨h₃, hfonts⟩ := h₂.takeOut readFont_blindBehind
  obtain ⟨h₄, hflags⟩ := h₃.takeOut readFlag_blindBehind
  refine ⟨h₄, ?_⟩
  simp only [Attributes.extract, htags, hcolors, hfonts, hflags]

/-! ### Cleaning up -/

theorem readSeparatorRun_blindBehind : BlindBehind readSeparatorRun where
  fits := readSeparatorRun_fits
  at_blank := fun hc => readSeparatorRun_of_ne (ne_bar_of_isBlank hc)
  behind := fun before _ _ hne hback => Or.inl (readSeparatorRun_append_blanks hback before hne)

/-- **Cleaning up drops the white space behind a body.** -/
theorem Padded.tidy_eq {t u : Text} (h : Padded t u) : tidyBody u = tidyBody t := by
  obtain ⟨back, rfl, hback⟩ := h
  obtain ⟨back', hsuffix, hscan⟩ :=
    readSeparatorRun_blindBehind.scanFrom_append hback 0 0 none t (Nat.zero_le _)
  have hcollapse : collapseSeparators (t ++ back) = collapseSeparators t ++ back' := by
    rw [collapseSeparators, scan, hscan, collapseSeparators, scan, substitute, List.flatMap_append]
    exact congrArg (_ ++ ·) substitute_map_char
  have hreverse : ∀ c ∈ back'.reverse, isBlank c = true := fun c hc =>
    hback c (hsuffix.subset (List.mem_reverse.mp hc))
  rw [tidyBody_eq, hcollapse, trimSeparators, List.reverse_append,
    dropSeparators_blanks_append hreverse, ← trimSeparators, ← tidyBody_eq]

/-! ### The whole input -/

/-- Every reader of commands trims the text first. -/
theorem Command.read_congr {t u : Text} (h : trim t = trim u) :
    Command.read t = Command.read u := by
  have hphrase : ∀ allowed, TagPhrase.read? allowed t = TagPhrase.read? allowed u := by
    intro allowed
    rw [TagPhrase.read?, h, TagPhrase.read?]
  have haction : GroupCommand.readAction t = GroupCommand.readAction u := by
    rw [GroupCommand.readAction, h, GroupCommand.readAction]
  -- Readers that agree one by one agree on which of them is the first to answer.
  have hfirst : ∀ {α : Type} (readers : List (Text → Reading α)),
      (∀ read ∈ readers, read t = read u) → firstReading readers t = firstReading readers u := by
    intro α readers hreaders
    induction readers with
    | nil => rfl
    | cons read more ih =>
      rw [firstReading, firstReading, hreaders read List.mem_cons_self,
        ih fun r hr => hreaders r (List.mem_cons_of_mem _ hr)]
  have htag : TagCommand.read t = TagCommand.read u := by
    refine hfirst _ ?_
    simp only [TagCommand.readers, List.forall_mem_cons, TagCommand.readEdit,
      TagCommand.readDelete, TagCommand.readPin, TagCommand.readStar, TagCommand.readNamed, hphrase,
      true_and]
    exact List.forall_mem_nil _
  have hgroup : GroupCommand.read t = GroupCommand.read u := by
    refine hfirst _ ?_
    simp only [GroupCommand.readers, List.forall_mem_cons, haction, GroupCommand.readCreate,
      GroupCommand.readDelete, GroupCommand.readEnter, GroupCommand.readNamed,
      GroupCommand.readRename, hphrase, true_and]
    exact List.forall_mem_nil _
  rw [Command.read, htag, hgroup, Command.read]

/-- A padded command makes the very same draft. -/
theorem Padded.ofCommand?_eq {t u : Text} (h : Padded t u) (defaultTitle : Text) :
    Draft.ofCommand? defaultTitle u = Draft.ofCommand? defaultTitle t := by
  have hafter : Option.Rel Padded (afterNewNote? t) (afterNewNote? u) :=
    h.trimStart.afterAnyCase? (by decide)
  rw [Draft.ofCommand?, Draft.ofCommand?]
  generalize afterNewNote? t = o at hafter ⊢
  generalize afterNewNote? u = o' at hafter ⊢
  cases hafter with
  | none => rfl
  | some hrest =>
    obtain ⟨htitle, hbody⟩ := hrest.cutTitle
    obtain ⟨hleft, hattributes⟩ := hbody.extract
    simp only [htitle, hattributes, hleft.tidy_eq]

/-- **White space around an input never changes what it is meant as**, draft and all. -/
theorem Settings.interpret_surrounded (s : Settings) (input : Text) {front back : Text}
    (hfront : ∀ c ∈ front, isBlank c = true) (hback : ∀ c ∈ back, isBlank c = true) :
    s.interpret (front ++ (input ++ back)) = s.interpret input := by
  have hpadded : Padded input (input ++ back) := ⟨back, rfl, hback⟩
  have htrim : trim (front ++ (input ++ back)) = trim input :=
    (trim_blanks_append hfront _).trans hpadded.trim_eq
  have hstart : afterNewNote? (front ++ (input ++ back)) = afterNewNote? (input ++ back) := by
    rw [afterNewNote?, trimStart, List.dropWhile_append_of_pos hfront, afterNewNote?, trimStart]
  have hdraft : Draft.ofCommand? s.defaultTitle (front ++ (input ++ back)) =
      Draft.ofCommand? s.defaultTitle input := by
    rw [Draft.ofCommand?, hstart, ← Draft.ofCommand?, hpadded.ofCommand?_eq]
  rw [Settings.interpret, hdraft, Command.read_congr htrim, htrim, Settings.interpret]

/-- A command between a no-break space and spaces, with a font that ends it and takes them. -/
theorem Settings.interpret_surrounded_font :
    (∀ c ∈ ['\u00A0', '\n'], isBlank c = true) ∧ (∀ c ∈ "  \t ".toList, isBlank c = true) ∧
      Settings.interpret {}
          (['\u00A0', '\n'] ++ ("@new-Plan || text || f:Open Sans".toList ++ "  \t ".toList)) =
        .newNote
          { title := "Plan".toList
            content := "text".toList
            attributes := { fontFamily := some "Open Sans".toList } } := by
  have hfront : ∀ c ∈ ['\u00A0', '\n'], isBlank c = true := List.all_eq_true.mp (by decide)
  have hback : ∀ c ∈ "  \t ".toList, isBlank c = true := List.all_eq_true.mp (by decide)
  refine ⟨hfront, hback, ?_⟩
  rw [Settings.interpret_surrounded {} _ hfront hback]
  decide

end Notebook
