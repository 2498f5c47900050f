import Notebook.Draft.Command
import Notebook.Proofs.Draft.Cleanup
import Notebook.Proofs.Draft.Words

/-!
# The command of a note says the note

A note that is written on one line, with its title, its content and its attributes as flags behind
the content, is read back as it was:

- `WrittenNote` — what is written, with its text `WrittenNote.render` and the draft that it should
  make, `WrittenNote.draft`;
- `WrittenNote.WellFormed` — the conditions: the title is no sub-command and no address, the
  content is tidy and has no part of a flag, names are names;
- `extract_render`, `cutTitle_render` — the two halves of a command;
- `Draft.ofCommand?_render` — the command makes that draft;
- `Draft.ofCommand?_plain` — what a command makes that has a title and no part of a flag.
-/

namespace Notebook

open Text

/-- A note as it is written on one line. -/
structure WrittenNote where
  title : Text
  content : Text
  tags : List Text := []
  color : Option Color := none
  flags : List Flag := []
  font : Option Text := none
deriving Repr, DecidableEq

/-- The word that a flag is written with. -/
def Flag.word : Flag → Text
  | .favorite => "fav".toList
  | .pinned => "pin".toList
  | .confidential => "vault".toList
  | .hidden => "hide".toList

namespace WrittenNote

/-! ### Writing -/

/-- A tag as a flag. -/
def tagFlag (name : Text) : Text := "##".toList ++ name

/-- A color as a flag. -/
def colorFlag (color : Color) : Text := "c:".toList ++ color.name

/-- One of the flags proper. -/
def properFlag (flag : Flag) : Text := "is:".toList ++ flag.word

/-- A font as a flag. -/
def fontFlag (name : Text) : Text := "f:".toList ++ name

/-- The flags of a note: tags, color, flags proper, and the font last. -/
def tokens (n : WrittenNote) : List Text :=
  n.tags.map tagFlag ++ (n.color.toList.map colorFlag ++
    (n.flags.map properFlag ++ n.font.toList.map fontFlag))

/-- The command that makes a note. -/
def render (n : WrittenNote) : Text :=
  newNoteKeyword ++ n.title ++ " || ".toList ++ n.content ++ " || ".toList ++
    [' '].intercalate n.tokens

/-- The draft that a note should make. -/
def draft (n : WrittenNote) : Draft where
  title := n.title
  content := n.content
  attributes :=
    { tags := if .hidden ∈ n.flags then (TagSet.ofList n.tags).insert hiddenTag
        else TagSet.ofList n.tags
      color := n.color
      fontFamily := n.font
      isPinned := .pinned ∈ n.flags
      isFavorite := .favorite ∈ n.flags
      isPrivate := .confidential ∈ n.flags
      isHidden := .hidden ∈ n.flags }
  subCommand := SubCommand.ofBody? n.content

/-- A title that is no sub-command and no address, and is not cut. -/
structure IsTitle (title : Text) : Prop where
  not_empty : title ≠ []
  trimmed : trim title = title
  no_separator : contains separator title = false
  no_scheme : contains "://".toList title = false
  no_keyword : ∀ k ∈ subCommandKeywords, afterAnyCase? k.keyword title = none
  no_www : afterAnyCase? "www.".toList title = none

/-- A content that tidying leaves alone, and that has no part of a flag. -/
structure IsContent (content : Text) : Prop where
  tidy : tidyBody content = content
  no_hash : '#' ∉ content
  no_colon : ':' ∉ content

/-- A tag name: a letter or an underscore, and more of these, digits and hyphens. -/
def IsTag (name : Text) : Prop :=
  ∃ c more, name = c :: more ∧ isTagStart c = true ∧ ∀ d ∈ more, isTagChar d = true

instance (name : Text) : Decidable (IsTag name) :=
  match name with
  | [] => isFalse fun ⟨_, _, hsplit, _⟩ => nomatch hsplit
  | c :: more =>
    -- Found otherwise, the instance would go through all characters.
    have : Decidable (∀ d ∈ more, isTagChar d = true) := List.decidableBAll _ more
    decidable_of_iff (isTagStart c = true ∧ ∀ d ∈ more, isTagChar d = true)
      ⟨fun h => ⟨c, more, rfl, h⟩, fun ⟨_, _, hsplit, h⟩ => by cases hsplit; exact h⟩

/-- A font name: letters, digits and spaces, with no space at its ends. -/
structure IsFont (name : Text) : Prop where
  head : name.head?.any Char.isAlphanum = true
  chars : ∀ c ∈ name, c.isAlphanum = true ∨ c = ' '
  last : name.getLast? ≠ some ' '

/-- What makes a note come back from its command. -/
structure WellFormed (n : WrittenNote) : Prop where
  title : IsTitle n.title
  content : IsContent n.content
  tags : ∀ name ∈ n.tags, IsTag name
  font : ∀ name ∈ n.font, IsFont name

/-! ### Single flags -/

theorem takeOut_tagFlag {name : Text} (h : IsTag name) :
    takeOut readTag (tagFlag name) = ([' '], [name]) := by
  obtain ⟨c, more, rfl, hc, hmore⟩ := h
  have hread : readTag none ('#' :: '#' :: c :: more) = some ⟨c :: more, 2 + more.length, 0⟩ :=
    readTag_eq_some_iff.mpr ⟨c, more, [], by rw [List.append_nil], hc, hmore, nofun, rfl⟩
  refine takeOut_of_whole hread ?_
  simp only [List.length_cons]
  omega

theorem takeOut_colorFlag (color : Color) :
    takeOut readColor (colorFlag color) = ([' '], [some color]) := by
  cases color <;> decide

theorem takeOut_properFlag (flag : Flag) :
    takeOut readFlag (properFlag flag) = ([' '], [some flag]) := by
  cases flag <;> decide

/-- A font name has no white space at its ends. -/
theorem IsFont.bare {name : Text} (h : IsFont name) : Bare name where
  head := by
    intro c hc
    have hhead := h.head
    rw [Option.mem_def] at hc
    rw [hc, Option.any_some] at hhead
    exact not_isBlank_of_isAlphanum hhead
  last := by
    intro c hc
    rw [Option.mem_def] at hc
    rcases h.chars c (List.mem_of_getLast? hc) with halnum | rfl
    · exact not_isBlank_of_isAlphanum halnum
    · exact absurd hc h.last

theorem takeOut_fontFlag {name : Text} (h : IsFont name) :
    takeOut readFont (fontFlag name) = ([' '], [name]) := by
  have hrun : FontRun name [] :=
    ⟨head?_any_foldsToAlphanumeric h.head, isFontChar_of_plain h.chars, nofun⟩
  have hfound := FontFound.whole (k := 'f') (by decide) hrun nofun
  rw [trim_eq_self_iff.mpr h.bare, List.append_nil] at hfound
  have hread : readFont none ('f' :: ':' :: name) = some ⟨name, 1 + name.length, 0⟩ :=
    readFont_eq_some_iff.mpr ⟨rfl, hfound⟩
  refine takeOut_of_whole hread ?_
  simp only [List.length_cons]
  omega

/-! ### Flags of other kinds -/

theorem takeOut_readTag_colorFlag (color : Color) :
    takeOut readTag (colorFlag color) = (colorFlag color, []) := by
  cases color <;> decide

theorem takeOut_readTag_properFlag (flag : Flag) :
    takeOut readTag (properFlag flag) = (properFlag flag, []) := by
  cases flag <;> decide

theorem takeOut_readTag_fontFlag {name : Text} (h : IsFont name) :
    takeOut readTag (fontFlag name) = (fontFlag name, []) := by
  refine takeOut_of_not_occurs (not_occurs_readTag ?_)
  have hname := not_mem_of_plain h.chars (c := '#') (by decide) (by decide)
  simpa [fontFlag] using hname

theorem takeOut_readColor_properFlag (flag : Flag) :
    takeOut readColor (properFlag flag) = (properFlag flag, []) := by
  cases flag <;> decide

theorem takeOut_readColor_fontFlag {name : Text} (h : IsFont name) :
    takeOut readColor (fontFlag name) = (fontFlag name, []) :=
  takeOut_of_not_occurs (not_occurs_of_suffixes fun hs =>
    eq_none_of_key readColor exists_key_of_readColor [] (by decide) (by decide)
      List.not_mem_nil (not_mem_of_plain h.chars (by decide) (by decide)) hs)

theorem takeOut_readFont_properFlag (flag : Flag) :
    takeOut readFont (properFlag flag) = (properFlag flag, []) := by
  cases flag <;> decide

theorem readFont_local_properFlag (flag : Flag) : LocalAt readFont (properFlag flag) := by
  refine readFont_local fun s hs => ?_
  have hall : ∀ s ∈ (properFlag flag).tails, readFont none s = none := by
    cases flag <;> decide
  exact hall s ((List.mem_tails _ _).mpr hs)

/-! ### The four passes -/

/-- A word that only makes up the row: nothing, or a space. -/
def IsFiller (w : Text) : Prop := w = [] ∨ w = [' ']

theorem IsFiller.no_hash {w : Text} (h : IsFiller w) : '#' ∉ w := by
  rcases h with rfl | rfl <;> decide

theorem IsFiller.no_colon {w : Text} (h : IsFiller w) : ':' ∉ w := by
  rcases h with rfl | rfl <;> decide

/-- The flags of a note behind its content are a row of words. An empty one stands for no flags. -/
theorem exists_spaced_tokens (ts : List Text) : ∃ pad, (∀ w ∈ pad, IsFiller w) ∧
    ' ' :: [' '].intercalate ts = spaced (pad ++ ts) := by
  cases ts with
  | nil => exact ⟨[[]], by simp [IsFiller], rfl⟩
  | cons t ts => exact ⟨[], nofun, spaced_eq_intercalate t ts⟩

theorem isFiller_of_mem_spacesFor {β : Type} {xs : List β} {w : Text} (h : w ∈ spacesFor xs) :
    IsFiller w := by
  obtain ⟨x, -, rfl⟩ := List.mem_map.mp h
  exact Or.inr rfl

section Passes

variable (us ws : List Text)

/-- The first pass takes the tags out. -/
theorem takeOut_tags {names : List Text} (hus : ∀ w ∈ us, '#' ∉ w)
    (hws : ∀ w ∈ ws, takeOut readTag w = (w, [])) (h : ∀ name ∈ names, IsTag name) :
    takeOut readTag (spaced (us ++ (names.map tagFlag ++ ws))) =
      (spaced (us ++ (spacesFor names ++ ws)), names) := by
  have hpass := readTag_skipsSpace.takeOut_spaced_block tagFlag id us ws names
    (fun w hw => takeOut_of_not_occurs (not_occurs_readTag (hus w hw))) hws
    (fun name hname => takeOut_tagFlag (h name hname)) (fun w _ => readTag_local w)
  rwa [List.map_id] at hpass

/-- The second pass takes the color out. -/
theorem takeOut_color (color : Option Color) (hus : ∀ w ∈ us, ':' ∉ w)
    (hws : ∀ w ∈ ws, takeOut readColor w = (w, [])) :
    takeOut readColor (spaced (us ++ (color.toList.map colorFlag ++ ws))) =
      (spaced (us ++ (spacesFor color.toList ++ ws)), color.toList.map some) :=
  readColor_skipsSpace.takeOut_spaced_block colorFlag some us ws color.toList
    (fun w hw => takeOut_of_not_occurs (not_occurs_readColor (hus w hw))) hws
    (fun color _ => takeOut_colorFlag color) (fun w _ => readColor_local w)

/-- The third pass takes the font out. It is last, since its name might go on behind it. -/
theorem takeOut_font {font : Option Text} (hus : ∀ w ∈ us, takeOut readFont w = (w, []))
    (hlocal : ∀ w ∈ us, LocalAt readFont w) (h : ∀ name ∈ font, IsFont name) :
    takeOut readFont (spaced (us ++ font.toList.map fontFlag)) =
      (spaced (us ++ spacesFor font.toList), font.toList) := by
  -- A font, if there is one, is the last word, and only the words before it have to be local.
  have hdrop : ∀ w ∈ (us ++ (font.toList.map fontFlag ++ [])).dropLast, LocalAt readFont w := by
    intro w hw
    cases font with
    | none =>
      rw [Option.toList_none, List.map_nil, List.nil_append, List.append_nil] at hw
      exact hlocal w (List.mem_of_mem_dropLast hw)
    | some name =>
      rw [Option.toList_some, List.map_singleton, List.append_nil, List.dropLast_concat] at hw
      exact hlocal w hw
  have hpass := readFont_skipsSpace.takeOut_spaced_block fontFlag id us [] font.toList hus nofun
    (fun name hname => takeOut_fontFlag (h name (Option.mem_toList.mp hname))) hdrop
  rwa [List.map_id, List.append_nil, List.append_nil] at hpass

/-- The last pass takes the flags proper out. -/
theorem takeOut_flags (flags : List Flag) (hus : ∀ w ∈ us, ':' ∉ w) (hws : ∀ w ∈ ws, ':' ∉ w) :
    takeOut readFlag (spaced (us ++ (flags.map properFlag ++ ws))) =
      (spaced (us ++ (spacesFor flags ++ ws)), flags.map some) :=
  readFlag_skipsSpace.takeOut_spaced_block properFlag some us ws flags
    (fun w hw => takeOut_of_not_occurs (not_occurs_readFlag (hus w hw)))
    (fun w hw => takeOut_of_not_occurs (not_occurs_readFlag (hws w hw)))
    (fun flag _ => takeOut_properFlag flag) (fun w _ => readFlag_local w)

end Passes

/-- Words of several kinds, each of which a reader leaves alone. -/
theorem forall_mem_map_append {α β : Type} {p : β → Prop} {f : α → β} {xs : List α} {ys : List β}
    (hxs : ∀ x ∈ xs, p (f x)) (hys : ∀ y ∈ ys, p y) : ∀ y ∈ xs.map f ++ ys, p y := by
  intro y hy
  rcases List.mem_append.mp hy with hy | hy
  · obtain ⟨x, hx, rfl⟩ := List.mem_map.mp hy
    exact hxs x hx
  · exact hys y hy

theorem forall_mem_fonts {p : Text → Prop} {font : Option Text}
    (h : ∀ name ∈ font, p (fontFlag name)) : ∀ w ∈ font.toList.map fontFlag, p w := by
  intro w hw
  obtain ⟨name, hname, rfl⟩ := List.mem_map.mp hw
  exact h name (Option.mem_toList.mp hname)

theorem forall_mem_append_spacesFor {β : Type} {vs : List Text} (xs : List β)
    (h : ∀ w ∈ vs, ':' ∉ w) : ∀ w ∈ vs ++ spacesFor xs, ':' ∉ w := by
  intro w hw
  rcases List.mem_append.mp hw with hw | hw
  · exact h w hw
  · exact (isFiller_of_mem_spacesFor hw).no_colon

/-- **The flags of a note are taken out** of a row of words that have no part of a flag, and set
what the note says. -/
theorem extract_row {n : WrittenNote} (h : n.WellFormed) {us : List Text}
    (hus : ∀ w ∈ us, '#' ∉ w ∧ ':' ∉ w) : ∃ rest, (∀ w ∈ rest, IsFiller w) ∧
      Attributes.extract (spaced (us ++ n.tokens)) =
        (spaced (us ++ rest), n.draft.attributes) := by
  -- What the passes so far have left in front of the flags that the next one takes out.
  let us₁ := us ++ spacesFor n.tags
  let us₂ := us₁ ++ spacesFor n.color.toList
  let us₃ := us₂ ++ n.flags.map properFlag
  have hus₁ : ∀ w ∈ us₁, ':' ∉ w := forall_mem_append_spacesFor _ fun w hw => (hus w hw).2
  have hus₂ : ∀ w ∈ us₂, ':' ∉ w := forall_mem_append_spacesFor _ hus₁
  have htags := takeOut_tags us
    (n.color.toList.map colorFlag ++ (n.flags.map properFlag ++ n.font.toList.map fontFlag))
    (fun w hw => (hus w hw).1)
    (forall_mem_map_append (fun color _ => takeOut_readTag_colorFlag color)
      (forall_mem_map_append (fun flag _ => takeOut_readTag_properFlag flag)
        (forall_mem_fonts fun name hname => takeOut_readTag_fontFlag (h.font name hname)))) h.tags
  have hcolor := takeOut_color us₁ (n.flags.map properFlag ++ n.font.toList.map fontFlag) n.color
    hus₁ (forall_mem_map_append (fun flag _ => takeOut_readColor_properFlag flag)
      (forall_mem_fonts fun name hname => takeOut_readColor_fontFlag (h.font name hname)))
  have hquiet : ∀ w ∈ us₃, takeOut readFont w = (w, []) ∧ LocalAt readFont w := by
    intro w hw
    rcases List.mem_append.mp hw with hw | hw
    · exact ⟨takeOut_of_not_occurs (not_occurs_readFont (hus₂ w hw)),
        readFont_local_of_no_colon (hus₂ w hw)⟩
    · obtain ⟨flag, -, rfl⟩ := List.mem_map.mp hw
      exact ⟨takeOut_readFont_properFlag flag, readFont_local_properFlag flag⟩
  have hfont := takeOut_font us₃ (fun w hw => (hquiet w hw).1) (fun w hw => (hquiet w hw).2) h.font
  have hflags := takeOut_flags us₂ (spacesFor n.font.toList) n.flags hus₂ fun w hw =>
    (isFiller_of_mem_spacesFor hw).no_colon
  simp only [us₁, us₂, us₃, List.append_assoc] at hcolor hfont hflags
  have hcolorValue : (n.color.toList.map some).findSome? id = n.color := by cases n.color <;> rfl
  have hfontValue : n.font.toList.head? = n.font := by cases n.font <;> rfl
  have hflagValues : (n.flags.map some).filterMap id = n.flags := by
    rw [List.filterMap_map]
    exact List.filterMap_some
  refine ⟨spacesFor n.tags ++ (spacesFor n.color.toList ++
    (spacesFor n.flags ++ spacesFor n.font.toList)), ?_, ?_⟩
  · intro w hw
    simp only [List.mem_append] at hw
    rcases hw with hw | hw | hw | hw <;> exact isFiller_of_mem_spacesFor hw
  · unfold Attributes.extract tokens
    rw [htags]
    simp only [hcolor, hfont, hflags, hcolorValue, hfontValue, hflagValues]
    rfl

/-! ### Title and body -/

/-- A part without a space is contained in a row of words if it is in one of them. -/
theorem contains_append_spaced (part : Text) (h : ' ' ∉ part) (u : Text) (ws : List Text) :
    contains part (u ++ spaced ws) = (contains part u || ws.any (contains part)) := by
  induction ws generalizing u with
  | nil =>
    rw [List.any_nil, Bool.or_false]
    exact congrArg _ (List.append_nil u)
  | cons w ws ih => rw [spaced_cons, contains_append h, ih, List.any_cons]

/-- No flag of a note has what makes an address. -/
theorem no_scheme_tokens {n : WrittenNote} (h : n.WellFormed) :
    ∀ w ∈ n.tokens, contains "://".toList w = false := by
  -- A tag and a font have no character of the scheme; colors and flags are finitely many words.
  refine forall_mem_map_append ?_ (forall_mem_map_append ?_ (forall_mem_map_append ?_
    (forall_mem_fonts ?_)))
  · intro name hname
    obtain ⟨c, more, rfl, hc, hmore⟩ := h.tags name hname
    refine contains_eq_false (c := ':') (by decide) fun hmem => ?_
    rcases List.mem_append.mp hmem with hmem | hmem
    · exact absurd hmem (by decide)
    · rcases List.mem_cons.mp hmem with rfl | hmem
      · exact absurd hc (by decide)
      · exact absurd (hmore ':' hmem) (by decide)
  · intro color _
    cases color <;> decide
  · intro flag _
    cases flag <;> decide
  · intro name hname
    have hslash := not_mem_of_plain (h.font name hname).chars (c := '/') (by decide) (by decide)
    refine contains_eq_false (c := '/') (by decide) fun hmem => ?_
    rcases List.mem_append.mp hmem with hmem | hmem
    · exact absurd hmem (by decide)
    · exact hslash hmem

theorem afterAnyCase?_append {keyword : Text} (h : ' ' ∉ keyword.map Char.toLower) (u v : Text) :
    afterAnyCase? keyword (u ++ ' ' :: v) = (afterAnyCase? keyword u).map (· ++ ' ' :: v) :=
  after?_append_space (by decide) h u v

/-- What is written without letters is written in one case only. -/
theorem eq_of_map_toLower_eq {u w : Text} (hw : w.any Char.isAlpha = false)
    (h : u.map Char.toLower = w) : u = w := by
  have hu : ∀ c ∈ u, c.toLower = c := by
    intro c hc
    refine toLower_eq_self ?_
    rw [← Char.isAlpha_toLower_eq_isAlpha]
    exact Bool.not_eq_true _ |>.mp (List.any_eq_false.mp hw _ (h ▸ List.mem_map_of_mem hc))
  rw [← h, List.map_congr_left hu, List.map_id']

/-- An address that begins with a scheme has the end of one. -/
theorem contains_scheme {front t : Text}
    (h : (afterAnyCase? (front ++ "://".toList) t).isSome) : contains "://".toList t = true := by
  obtain ⟨rest, hrest⟩ := Option.isSome_iff_exists.mp h
  obtain ⟨head, rfl, hmap⟩ := after?_eq_some_iff.mp hrest
  rw [List.map_append] at hmap
  obtain ⟨u, w, rfl, -, hw⟩ := List.map_eq_append_iff.mp hmap
  -- The end of the scheme has no letters, so it stands in the text as it is.
  have hscheme : w = "://".toList := eq_of_map_toLower_eq (by decide) hw
  rw [contains_iff, hscheme]
  exact ⟨u, rest, rfl⟩

/-- A title goes on being no sub-command with a space and more behind it. -/
theorem IsTitle.not_beginsSubCommand {title : Text} (h : IsTitle title) (v : Text) :
    beginsSubCommand (title ++ ' ' :: v) = false := by
  have hkeywords : ∀ k ∈ subCommandKeywords, ' ' ∉ k.keyword.map Char.toLower := by decide
  refine List.any_eq_false.mpr fun k hk => ?_
  rw [trimStart_append (trim_eq_self_iff.mp h.trimmed) h.not_empty,
    afterAnyCase?_append (hkeywords k hk), h.no_keyword k hk]
  exact Bool.false_ne_true

/-- A title goes on being no address with a space behind it and more that has none either. -/
theorem IsTitle.not_looksLikeAddress {title : Text} (h : IsTitle title) {v : Text}
    (hv : contains "://".toList v = false) : looksLikeAddress (title ++ ' ' :: v) = false := by
  have hstart : trimStart (title ++ ' ' :: v) = title ++ ' ' :: v :=
    trimStart_append (trim_eq_self_iff.mp h.trimmed) h.not_empty
  -- The space behind the title keeps a scheme from reaching into what follows.
  have hscheme : ∀ front : Text, ' ' ∉ (front ++ "://".toList).map Char.toLower →
      (afterAnyCase? (front ++ "://".toList) (title ++ ' ' :: v)).isSome = false := by
    intro front hfront
    rw [afterAnyCase?_append hfront, Option.isSome_map]
    by_contra hsome
    have hcontains := contains_scheme (Bool.not_eq_false _ |>.mp hsome)
    rw [h.no_scheme] at hcontains
    cases hcontains
  have hhttp := hscheme "http".toList (by decide)
  have hhttps := hscheme "https".toList (by decide)
  have hwww : afterAnyCase? "www.".toList (title ++ ' ' :: v) = none := by
    rw [afterAnyCase?_append (by decide), h.no_www]
    rfl
  have hanywhere : contains "://".toList (title ++ ' ' :: v) = false := by
    rw [contains_append (by decide), h.no_scheme, hv]
    rfl
  unfold looksLikeAddress
  simp only [hstart, hwww, hanywhere, Option.isSome_none, Bool.or_false]
  exact Bool.or_eq_false_iff.mpr ⟨hhttp, hhttps⟩

/-- The title is cut off in front of the body. -/
theorem cutTitle_render {title : Text} (h : IsTitle title) {v : Text}
    (hv : contains "://".toList ('|' :: '|' :: v) = false) :
    cutTitle (title ++ ' ' :: '|' :: '|' :: v) = (some title, v) := by
  have hbars : splitOnce? separator ('|' :: '|' :: v) = some ([], v) := rfl
  have hsplit : splitOnce? separator (title ++ ' ' :: '|' :: '|' :: v) =
      some (title ++ [' '], v) := by
    rw [splitOnce?_append (by decide) h.no_separator (by decide), hbars]
    rfl
  have htrim : trim (title ++ [' ']) = title :=
    trim_concat_blank (trim_eq_self_iff.mp h.trimmed) (by decide)
  unfold cutTitle
  rw [h.not_beginsSubCommand, h.not_looksLikeAddress hv, hsplit]
  simp only [htrim, Bool.or_self, Bool.false_eq_true, if_false, List.isEmpty_iff,
    if_neg h.not_empty]

/-- The command of a note is its keyword, its title, and its body behind a separator. -/
theorem exists_render (n : WrittenNote) : ∃ pad, (∀ w ∈ pad, IsFiller w) ∧
    n.render = newNoteKeyword ++ (n.title ++ ' ' :: '|' :: '|' ::
      spaced (n.content :: "||".toList :: (pad ++ n.tokens))) := by
  obtain ⟨pad, hpad, htokens⟩ := exists_spaced_tokens n.tokens
  refine ⟨pad, hpad, ?_⟩
  rw [spaced_cons, spaced_cons, ← htokens]
  simp [render]

/-- There is no address in the body of a note. -/
theorem no_scheme_body {n : WrittenNote} (h : n.WellFormed) {pad : List Text}
    (hpad : ∀ w ∈ pad, IsFiller w) : contains "://".toList
      ('|' :: '|' :: spaced (n.content :: "||".toList :: (pad ++ n.tokens))) = false := by
  have hbars : contains "://".toList "||".toList = false := by decide
  have hwords : ∀ w ∈ n.content :: "||".toList :: (pad ++ n.tokens),
      contains "://".toList w = false := by
    intro w hw
    rcases List.mem_cons.mp hw with rfl | hw
    · exact contains_eq_false (c := ':') (by decide) h.content.no_colon
    · rcases List.mem_cons.mp hw with rfl | hw
      · exact hbars
      · rcases List.mem_append.mp hw with hw | hw
        · exact contains_eq_false (c := ':') (by decide) (hpad w hw).no_colon
        · exact no_scheme_tokens h w hw
  -- A scheme has no space in it, so it would be in one of the words.
  have hsplit := contains_append_spaced "://".toList (by decide) "||".toList
    (n.content :: "||".toList :: (pad ++ n.tokens))
  rw [hbars, Bool.false_or] at hsplit
  refine hsplit.trans (List.any_eq_false.mpr fun w hw => ?_)
  rw [hwords w hw]
  exact Bool.false_ne_true

/-- Fillers are white space. -/
theorem isBlank_of_mem_spaced {ws : List Text} (h : ∀ w ∈ ws, IsFiller w) :
    ∀ c ∈ spaced ws, isBlank c = true := by
  intro c hc
  obtain ⟨w, hw, hc⟩ := List.mem_flatMap.mp hc
  have hspace : c = ' ' := by
    rcases List.mem_cons.mp hc with rfl | hc
    · rfl
    · rcases h w hw with rfl | rfl
      · cases hc
      · exact List.mem_singleton.mp hc
  rw [hspace]
  decide

end WrittenNote

open WrittenNote

theorem afterNewNote?_append (rest : Text) :
    afterNewNote? (newNoteKeyword ++ rest) = some rest := by
  have hstart : trimStart (newNoteKeyword ++ rest) = newNoteKeyword ++ rest :=
    trimStart_eq_self fun c hc => by
      obtain rfl := Option.some.inj hc
      decide
  rw [afterNewNote?, hstart]
  exact after?_eq_some_iff.mpr ⟨newNoteKeyword, rfl, rfl⟩

/-- **A note comes back from its command**: with its title, its content, its attributes, and the
sub-command that its content is, if it is one. -/
theorem Draft.ofCommand?_render (defaultTitle : Text) {n : WrittenNote} (h : n.WellFormed) :
    Draft.ofCommand? defaultTitle n.render = some n.draft := by
  obtain ⟨pad, hpad, hrender⟩ := n.exists_render
  have hwords : ∀ w ∈ n.content :: "||".toList :: pad, '#' ∉ w ∧ ':' ∉ w := by
    intro w hw
    rcases List.mem_cons.mp hw with rfl | hw
    · exact ⟨h.content.no_hash, h.content.no_colon⟩
    · rcases List.mem_cons.mp hw with rfl | hw
      · decide
      · exact ⟨(hpad w hw).no_hash, (hpad w hw).no_colon⟩
  obtain ⟨rest, hrest, hextract⟩ := extract_row h hwords
  -- What is left behind the content is a separator and white space, which tidying drops.
  have hblanks : ∀ w ∈ pad ++ rest, IsFiller w := by
    intro w hw
    rcases List.mem_append.mp hw with hw | hw
    · exact hpad w hw
    · exact hrest w hw
  have htidy : tidyBody (spaced (n.content :: "||".toList :: (pad ++ rest))) = n.content :=
    tidyBody_spaced h.content.tidy (isBlank_of_mem_spaced hblanks)
  have hcut := cutTitle_render h.title (no_scheme_body h hpad)
  have hbare : ∀ content, Draft.bare n.title content = ⟨n.title, content, {}, none⟩ := by
    intro content
    unfold Draft.bare
    rw [h.title.trimmed, if_neg]
    exact fun hempty => h.title.not_empty (List.isEmpty_iff.mp hempty)
  unfold Draft.ofCommand?
  rw [hrender, afterNewNote?_append]
  simp only [hcut, Option.getD_some]
  rw [show Attributes.extract (spaced (n.content :: "||".toList :: (pad ++ n.tokens))) = _ from
    hextract]
  simp only [List.cons_append, htidy, hbare]
  rfl

/-- A note with attributes of every kind. -/
def WrittenNote.packingList : WrittenNote where
  title := "Trip | north".toList
  content := "- tent || stove\n- map".toList
  tags := ["to-do".toList, "_2024".toList]
  color := some .green
  flags := [.pinned, .hidden]
  font := some "Open Sans 3".toList

theorem WrittenNote.packingList_wellFormed : packingList.WellFormed where
  title := ⟨by decide, by decide, by decide, by decide, by decide, by decide⟩
  content := ⟨by decide, by decide, by decide⟩
  tags := by
    intro name hname
    rcases List.mem_pair.mp hname with rfl | rfl
    · exact ⟨'t', "o-do".toList, rfl, by decide, List.all_eq_true.mp (by decide)⟩
    · exact ⟨'_', "2024".toList, rfl, by decide, List.all_eq_true.mp (by decide)⟩
  font := by
    intro name hname
    obtain rfl := Option.some.inj hname
    have hchars : "Open Sans 3".toList.all (fun c => c.isAlphanum || c == ' ') = true := by decide
    refine ⟨by decide, fun c hc => ?_, by decide⟩
    simpa using List.all_eq_true.mp hchars c hc

/-- The command of that note, and what it makes. -/
theorem Draft.ofCommand?_packingList : packingList.WellFormed ∧
    packingList.render = ("@new-Trip | north || - tent || stove\n- map || " ++
      "##to-do ##_2024 c:green is:pin is:hide f:Open Sans 3").toList ∧
    Draft.ofCommand? untitled packingList.render = some packingList.draft :=
  ⟨packingList_wellFormed, by decide, Draft.ofCommand?_render untitled packingList_wellFormed⟩

/-! ### Notes without flags -/

/-- Nothing is extracted from a body that has no part of a flag. -/
theorem extract_of_no_flag {t : Text} (hhash : '#' ∉ t) (hcolon : ':' ∉ t) :
    Attributes.extract t = (t, {}) := by
  unfold Attributes.extract
  simp only [takeOut_of_not_occurs (not_occurs_readTag hhash),
    takeOut_of_not_occurs (not_occurs_readColor hcolon),
    takeOut_of_not_occurs (not_occurs_readFont hcolon),
    takeOut_of_not_occurs (not_occurs_readFlag hcolon)]
  rfl

theorem WrittenNote.IsTitle.bare {title : Text} (h : IsTitle title) (content : Text) :
    Draft.bare title content = ⟨title, content, {}, none⟩ := by
  unfold Draft.bare
  rw [h.trimmed, if_neg]
  exact fun hempty => h.not_empty (List.isEmpty_iff.mp hempty)

/-- A title with a body behind it that has no part of a flag makes a note of the two, in which the
body is cleaned up. -/
theorem Draft.ofCommand?_plain (defaultTitle : Text) {title body : Text} (h : IsTitle title)
    (hhash : '#' ∉ body) (hcolon : ':' ∉ body) :
    Draft.ofCommand? defaultTitle (newNoteKeyword ++ title ++ " || ".toList ++ body) =
      some ⟨title, tidyBody (' ' :: body), {}, SubCommand.ofBody? (tidyBody (' ' :: body))⟩ := by
  have hhash' : '#' ∉ ' ' :: body := by simp [hhash]
  have hcolon' : ':' ∉ ' ' :: body := by simp [hcolon]
  have hscheme : contains "://".toList ('|' :: '|' :: ' ' :: body) = false :=
    contains_eq_false (c := ':') (by decide) (by simp [hcolon])
  have hinput : newNoteKeyword ++ title ++ " || ".toList ++ body =
      newNoteKeyword ++ (title ++ ' ' :: '|' :: '|' :: ' ' :: body) := by simp
  unfold Draft.ofCommand?
  rw [hinput, afterNewNote?_append]
  simp only [cutTitle_render h hscheme, Option.getD_some, extract_of_no_flag hhash' hcolon', h.bare]

end Notebook
