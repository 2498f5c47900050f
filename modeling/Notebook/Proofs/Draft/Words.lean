import Notebook.Proofs.Draft.Readers

/-!
# Taking flags out word by word

A body is often a row of words with a space before each: words of its content, and flags. Taking
flags out of it can be done one word at a time, as long as no flag goes on behind the space.

- `spaced` — the row of words;
- `readTag_append_gap`, `readColor_append_gap`, `readFlag_append_gap` — what a reader finds does not
  depend on what follows behind a gap;
- `LocalAt` — the same at one word, with a space behind it; fonts are local at a word without their
  key;
- `takeOut_spaced` — taking out word by word;
- `takeOut_spaced_block` — the case of a block of flags between words that hold none of the kind;
- `extract_spaced` — taking out all kinds of flags word by word;
- `eq_none_of_key` — a word with a key of another kind has no color or font.
-/

namespace Notebook

open Text

/-- Words with a space before each of them. -/
def spaced (words : List Text) : Text := words.flatMap (' ' :: ·)

theorem spaced_cons (w : Text) (ws : List Text) : spaced (w :: ws) = ' ' :: (w ++ spaced ws) := rfl

theorem spaced_eq_intercalate (t : Text) (ts : List Text) :
    ' ' :: [' '].intercalate (t :: ts) = spaced (t :: ts) := by
  induction ts generalizing t with
  | nil => rfl
  | cons u ts ih =>
    rw [spaced_cons, ← ih u]
    rfl

/-- A row of words is the words with a space between any two, up to a space in front. -/
theorem exists_pad_intercalate (ws : List Text) : ∃ pad, (pad = [] ∨ pad = [' ']) ∧
    pad ++ [' '].intercalate ws = spaced ws := by
  cases ws with
  | nil => exact ⟨[], Or.inl rfl, rfl⟩
  | cons w ws => exact ⟨[' '], Or.inr rfl, spaced_eq_intercalate w ws⟩

/-- A space for each of several flags. -/
def spacesFor {β : Type} (xs : List β) : List Text := xs.map fun _ => [' ']

section Scan

variable {α : Type} {read : Reader α}

/-- What is read in a word is read with and without a space and more behind it. -/
def LocalAt (read : Reader α) (w : Text) : Prop :=
  ∀ {before s v}, s ≠ [] → s <:+ w → read before (s ++ ' ' :: v) = read before s

/-- A reader that finds nothing at a space, and to which a space is like the start of the text. -/
structure SkipsSpace (read : Reader α) : Prop where
  fits : Fits read
  at_space : ∀ before v, read before (' ' :: v) = none
  after_space : ∀ t, read (some ' ') t = read none t

variable (h : SkipsSpace read)

include h

theorem SkipsSpace.scanFrom_space (before : Option Char) (t : Text) :
    scanFrom read 0 0 before (' ' :: t) = .char ' ' :: scan read t := by
  rw [scanFrom_char (h.at_space before t), scanFrom_change_before (h.after_space t)]
  rfl

/-- A space in front of a text stays there. -/
theorem SkipsSpace.takeOut_cons (t : Text) :
    takeOut read (' ' :: t) = (' ' :: (takeOut read t).1, (takeOut read t).2) := by
  have hscan : scan read (' ' :: t) = .char ' ' :: scan read t := h.scanFrom_space none t
  unfold takeOut
  rw [hscan]
  rfl

/-- A scan goes through words one by one, if the reader is local at all but the last. -/
theorem SkipsSpace.scanFrom_spaced (ws : List Text) (hlocal : ∀ w ∈ ws.dropLast, LocalAt read w)
    (before : Option Char) :
    scanFrom read 0 0 before (spaced ws) = ws.flatMap fun w => .char ' ' :: scan read w := by
  induction ws generalizing before with
  | nil => rfl
  | cons w ws ih =>
    cases ws with
    | nil =>
      -- Nothing stands behind the last word, so the reader need not be local at it.
      rw [spaced_cons, h.scanFrom_space]
      show .char ' ' :: scan read (w ++ []) = .char ' ' :: scan read w ++ []
      rw [List.append_nil, List.append_nil]
    | cons w' ws =>
      have hw : LocalAt read w := hlocal w List.mem_cons_self
      have hws : ∀ x ∈ (w' :: ws).dropLast, LocalAt read x := fun x hx =>
        hlocal x (List.mem_cons_of_mem _ hx)
      have hstep := ih hws none
      rw [spaced_cons, h.scanFrom_space] at hstep
      rw [spaced_cons, h.scanFrom_space, spaced_cons, List.flatMap_cons, ← hstep]
      unfold scan
      rw [scanFrom_append h.fits hw (fun b => h.at_space b _) 0 0 none (Nat.zero_le _),
        scanFrom_change_before (h.after_space _)]
      rfl

omit h in
/-- Without an occurrence nothing is taken out. -/
theorem takeOut_of_not_occurs {t : Text} (ht : ¬Occurs read none t) : takeOut read t = (t, []) := by
  show (substitute [' '] (scan read t), found (scan read t)) = (t, [])
  rw [scan, scanFrom_of_not_occurs ht, substitute_map_char, found_map_char]

omit h in
/-- A text that is an occurrence as a whole leaves a space. -/
theorem takeOut_of_whole {c : Char} {removed : Text} {f : Found α}
    (hread : read none (c :: removed) = some f) (hlength : removed.length = f.removedAfterFirst) :
    takeOut read (c :: removed) = ([' '], [f.value]) := by
  have hread' : read none (c :: (removed ++ [])) = some f := by rwa [List.append_nil]
  have hscan : scan read (c :: removed) = [.found f.value] := by
    have := scanFrom_found hread' hlength
    rw [List.append_nil] at this
    rw [scan, this]
    cases f.kept <;> rfl
  show (substitute [' '] (scan read (c :: removed)), found (scan read (c :: removed))) = _
  rw [hscan]
  rfl

/-- **Flags are taken out word by word.** -/
theorem SkipsSpace.takeOut_spaced (ws : List Text)
    (hlocal : ∀ w ∈ ws.dropLast, LocalAt read w) :
    takeOut read (spaced ws) =
      (spaced (ws.map fun w => (takeOut read w).1), ws.flatMap fun w => (takeOut read w).2) := by
  have hscan : scan read (spaced ws) = ws.flatMap fun w => .char ' ' :: scan read w :=
    h.scanFrom_spaced ws hlocal none
  unfold takeOut
  rw [hscan]
  simp only [Prod.mk.injEq]
  constructor
  · unfold substitute spaced
    rw [List.flatMap_assoc, List.flatMap_map]
    rfl
  · unfold found
    rw [List.filterMap_flatMap]
    rfl

/-- Words of which each leaves something, and has something found in it. -/
theorem SkipsSpace.takeOut_spaced_map {β : Type} {text left : β → Text}
    {values : β → List α} {xs : List β}
    (hx : ∀ x ∈ xs, takeOut read (text x) = (left x, values x))
    (hlocal : ∀ x ∈ xs, LocalAt read (text x)) :
    takeOut read (spaced (xs.map text)) = (spaced (xs.map left), xs.flatMap values) := by
  have hws : ∀ w ∈ (xs.map text).dropLast, LocalAt read w := by
    intro w hw
    obtain ⟨x, hmem, rfl⟩ := List.mem_map.mp (List.mem_of_mem_dropLast hw)
    exact hlocal x hmem
  rw [h.takeOut_spaced _ hws, List.map_map, List.flatMap_map]
  refine Prod.ext (congrArg spaced ?_) ?_
  · exact List.map_congr_left fun x hmem => congrArg Prod.fst (hx x hmem)
  · exact List.flatMap_congr fun x hmem => congrArg Prod.snd (hx x hmem)

/-- A block of flags of one kind, between words that have none of it, leaves a space for each. -/
theorem SkipsSpace.takeOut_spaced_block {β : Type} (spell : β → Text) (value : β → α)
    (us ws : List Text) (xs : List β) (hus : ∀ w ∈ us, takeOut read w = (w, []))
    (hws : ∀ w ∈ ws, takeOut read w = (w, []))
    (hxs : ∀ x ∈ xs, takeOut read (spell x) = ([' '], [value x]))
    (hlocal : ∀ w ∈ (us ++ (xs.map spell ++ ws)).dropLast, LocalAt read w) :
    takeOut read (spaced (us ++ (xs.map spell ++ ws))) =
      (spaced (us ++ (spacesFor xs ++ ws)), xs.map value) := by
  -- On either side of the block nothing is taken out and nothing is found.
  have hquiet : ∀ vs : List Text, (∀ w ∈ vs, takeOut read w = (w, [])) →
      (vs.map fun w => (takeOut read w).1) = vs ∧
        (vs.flatMap fun w => (takeOut read w).2) = [] := by
    intro vs hvs
    constructor
    · exact (List.map_congr_left fun w hw => congrArg Prod.fst (hvs w hw)).trans (List.map_id vs)
    · exact List.flatMap_eq_nil_iff.mpr fun w hw => by rw [hvs w hw]
  have hblock : (xs.map spell).map (fun w => (takeOut read w).1) = spacesFor xs ∧
      ((xs.map spell).flatMap fun w => (takeOut read w).2) = xs.map value := by
    constructor
    · rw [List.map_map]
      exact List.map_congr_left fun x hx => by rw [Function.comp, hxs x hx]
    · rw [List.flatMap_map, List.map_eq_flatMap]
      exact List.flatMap_congr fun x hx => by rw [hxs x hx]
  rw [h.takeOut_spaced _ hlocal]
  simp only [List.map_append, List.flatMap_append, (hquiet us hus).1, (hquiet us hus).2,
    (hquiet ws hws).1, (hquiet ws hws).2, hblock.1, hblock.2, List.nil_append, List.append_nil]

end Scan

/-! ### What the readers of flags find in a word -/

theorem takeWhile_append_stop {p : Char → Bool} {g : Char} (hg : p g = false) (u v : Text) :
    (u ++ g :: v).takeWhile p = u.takeWhile p := by
  induction u with
  | nil => exact List.takeWhile_cons_of_neg (by simp [hg])
  | cons c u ih =>
    rw [List.cons_append, List.takeWhile_cons, List.takeWhile_cons, ih]

theorem findSome?_congr {α β : Type} {f g : α → Option β} {xs : List α}
    (h : ∀ x ∈ xs, f x = g x) : xs.findSome? f = xs.findSome? g := by
  induction xs with
  | nil => rfl
  | cons x xs ih =>
    rw [List.findSome?_cons, List.findSome?_cons, h x List.mem_cons_self,
      ih fun y hy => h y (List.mem_cons_of_mem _ hy)]

section Gap

variable {g : Char} (hg : isGap g = true)

include hg

theorem startsWord_append_gap (u v : Text) : startsWord (u ++ g :: v) = startsWord u := by
  cases u with
  | nil => exact isWord_of_isGap hg
  | cons c u => rfl

theorem afterKey?_append {key : Text} (hkey : key.all (fun k => !isGap (foldCase k)) = true)
    (before : Option Char) (u v : Text) :
    afterKey? key before (u ++ g :: v) = (afterKey? key before u).map (· ++ g :: v) := by
  unfold afterKey?
  split
  · rfl
  · exact after?_append_gap hg (foldCase_of_isGap hg) hkey u v

/-- No tag reaches across a gap. -/
theorem readTag_append_gap (before : Option Char) (s v : Text) :
    readTag before (s ++ g :: v) = readTag before s := by
  have hstop : isTagChar g = false := by
    simpa using forall_gap (p := fun c => !isTagChar c) (by decide +kernel) hg
  refine Option.ext fun f => ?_
  show readTag _ _ = some f ↔ readTag _ _ = some f
  rw [readTag_eq_some_iff, readTag_eq_some_iff]
  constructor
  · rintro ⟨c, more, rest, ht, hc, hmore, hend, hf⟩
    -- A tag has no gap in it, so it ends in front of the one behind the text.
    have hgap : g ∉ '#' :: '#' :: c :: more := by
      intro hmem
      rcases List.mem_cons.mp hmem with rfl | hmem
      · exact absurd hg (by decide)
      · rcases List.mem_cons.mp hmem with rfl | hmem
        · exact absurd hg (by decide)
        · rcases List.mem_cons.mp hmem with rfl | hmem
          · have hword := isWord_of_isTagStart hc
            rw [isWord_of_isGap hg] at hword
            cases hword
          · rw [hmore g hmem] at hstop
            cases hstop
    obtain ⟨s', rfl, rfl⟩ := exists_of_append_eq_append hgap ht
    refine ⟨c, more, s', rfl, hc, hmore, ?_, hf⟩
    intro d hd
    exact hend d (List.mem_head?_append_of_mem_head? hd)
  · rintro ⟨c, more, rest, rfl, hc, hmore, hend, hf⟩
    refine ⟨c, more, rest ++ g :: v, by simp, hc, hmore, ?_, hf⟩
    intro d hd
    cases rest with
    | nil =>
      obtain rfl := Option.some.inj hd
      exact hstop
    | cons e rest => exact hend d hd

/-- No color reaches across a gap. -/
theorem readColor_append_gap (before : Option Char) (s v : Text) :
    readColor before (s ++ g :: v) = readColor before s := by
  unfold readColor
  rw [afterKey?_append hg (by decide)]
  cases afterKey? "c:".toList before s with
  | none => rfl
  | some rest =>
    have hdrop : startsWord ((rest ++ g :: v).drop (rest.takeWhile foldsToAlphanumeric).length) =
        startsWord (rest.drop (rest.takeWhile foldsToAlphanumeric).length) := by
      rw [List.drop_append_of_le_length (List.takeWhile_prefix _).length_le,
        startsWord_append_gap hg]
    simp only [Option.map_some, takeWhile_append_stop (not_foldsToAlphanumeric_of_isGap hg), hdrop]

/-- No flag proper reaches across a gap. -/
theorem readFlag_append_gap (before : Option Char) (s v : Text) :
    readFlag before (s ++ g :: v) = readFlag before s := by
  unfold readFlag
  rw [afterKey?_append hg (by decide)]
  cases afterKey? "is:".toList before s with
  | none => rfl
  | some rest =>
    have hwords : ∀ e ∈ flagWords, e.1.all (fun k => !isGap (foldCase k)) = true := by decide
    refine findSome?_congr fun ⟨word, flag⟩ hmem => ?_
    simp only [after?_append_gap hg (foldCase_of_isGap hg) (hwords _ hmem)]
    cases htail : after? foldCase word rest with
    | none => rfl
    | some tail =>
      obtain ⟨head, rfl, hhead⟩ := after?_eq_some_iff.mp htail
      have hlength : head.length = word.length := by simpa using congrArg List.length hhead
      simp only [Option.map_some, startsWord_append_gap hg, List.append_assoc, ← hlength,
        List.take_left]

end Gap

theorem readTag_local (w : Text) : LocalAt readTag w := fun _ _ =>
  readTag_append_gap isGap_space _ _ _

theorem readTag_skipsSpace : SkipsSpace readTag where
  fits := readTag_detached.fits
  at_space := readTag_spelled.eq_none_at_space
  after_space := by
    intro t
    refine Option.ext fun f => ?_
    show readTag _ _ = some f ↔ readTag _ _ = some f
    rw [readTag_eq_some_iff, readTag_eq_some_iff]

theorem readColor_local (w : Text) : LocalAt readColor w := fun _ _ =>
  readColor_append_gap isGap_space _ _ _

theorem afterKey?_space (key t : Text) : afterKey? key (some ' ') t = afterKey? key none t := by
  unfold afterKey?
  rw [Option.any_some, isWord_space]
  rfl

theorem readColor_skipsSpace : SkipsSpace readColor where
  fits := readColor_detached.fits
  at_space := readColor_spelled.eq_none_at_space
  after_space := by
    intro t
    unfold readColor
    rw [afterKey?_space]

theorem readFlag_local (w : Text) : LocalAt readFlag w := fun _ _ =>
  readFlag_append_gap isGap_space _ _ _

theorem readFlag_skipsSpace : SkipsSpace readFlag where
  fits := readFlag_detached.fits
  at_space := readFlag_spelled.eq_none_at_space
  after_space := by
    intro t
    unfold readFlag
    rw [afterKey?_space]

theorem readFont_skipsSpace : SkipsSpace readFont where
  fits := readFont_detached.fits
  at_space := readFont_spelled.eq_none_at_space
  after_space := by
    intro t
    unfold readFont
    rw [afterKey?_space]

/-! ### All kinds of flags -/

/-- A space in front of a body stays there, and changes nothing that is set. -/
theorem extract_cons_space (t : Text) : Attributes.extract (' ' :: t) =
    (' ' :: (Attributes.extract t).1, (Attributes.extract t).2) := by
  simp only [Attributes.extract, readTag_skipsSpace.takeOut_cons, readColor_skipsSpace.takeOut_cons,
    readFont_skipsSpace.takeOut_cons, readFlag_skipsSpace.takeOut_cons]

section Row

variable {β : Type} {xs : List β} {text text₁ text₂ text₃ left : β → Text} {tags : β → List Text}
  {colors : β → List (Option Color)} {fonts : β → List Text} {flags : β → List (Option Flag)}

/-- **A row of words is read word by word**, if that is so for each kind of flag. -/
theorem extract_spaced (htags : ∀ x ∈ xs, takeOut readTag (text x) = (text₁ x, tags x))
    (hcolors : ∀ x ∈ xs, takeOut readColor (text₁ x) = (text₂ x, colors x))
    (hfonts : ∀ x ∈ xs, takeOut readFont (text₂ x) = (text₃ x, fonts x))
    (hlocal : ∀ x ∈ xs, LocalAt readFont (text₂ x))
    (hflags : ∀ x ∈ xs, takeOut readFlag (text₃ x) = (left x, flags x)) :
    Attributes.extract (spaced (xs.map text)) =
      let names := TagSet.ofList (xs.flatMap tags)
      let set := (xs.flatMap flags).filterMap id
      (spaced (xs.map left),
        { tags := if Flag.hidden ∈ set then names.insert hiddenTag else names
          color := (xs.flatMap colors).findSome? id
          fontFamily := (xs.flatMap fonts).head?
          isPinned := Flag.pinned ∈ set
          isFavorite := Flag.favorite ∈ set
          isPrivate := Flag.confidential ∈ set
          isHidden := Flag.hidden ∈ set }) := by
  simp only [Attributes.extract,
    readTag_skipsSpace.takeOut_spaced_map htags fun x _ => readTag_local (text x),
    readColor_skipsSpace.takeOut_spaced_map hcolors fun x _ => readColor_local (text₁ x),
    readFont_skipsSpace.takeOut_spaced_map hfonts hlocal,
    readFlag_skipsSpace.takeOut_spaced_map hflags fun x _ => readFlag_local (text₃ x)]

end Row

/-! ### Words without flags -/

theorem not_occurs_readTag {w : Text} (h : '#' ∉ w) {before : Option Char} :
    ¬Occurs readTag before w := by
  refine readTag_spelled.not_occurs (c := '#') ?_ h
  rintro w ⟨c, rfl, -⟩
  exact List.mem_cons_self

theorem not_occurs_readColor {w : Text} (h : ':' ∉ w) {before : Option Char} :
    ¬Occurs readColor before w := by
  refine readColor_spelled.not_occurs (c := ':') ?_ h
  rintro w ⟨k, word, rfl, -⟩
  exact List.mem_cons_of_mem _ List.mem_cons_self

theorem not_occurs_readFont {w : Text} (h : ':' ∉ w) {before : Option Char} :
    ¬Occurs readFont before w := by
  refine readFont_spelled.not_occurs (c := ':') ?_ h
  rintro w ⟨k, c, rfl, -⟩
  exact List.mem_cons_of_mem _ List.mem_cons_self

theorem not_occurs_readFlag {w : Text} (h : ':' ∉ w) {before : Option Char} :
    ¬Occurs readFlag before w := by
  refine readFlag_spelled.not_occurs (c := ':') ?_ h
  rintro w ⟨k, s, word, rfl, -⟩
  exact List.mem_cons_of_mem _ (List.mem_cons_of_mem _ List.mem_cons_self)

/-- A reader that starts with a letter and a colon reads nothing in a text with a single colon and
something else before it. -/
theorem eq_none_of_key {α : Type} (read : Reader α) {d : Char}
    (hread : ∀ {before t}, (read before t).isSome → ∃ k rest, t = k :: ':' :: rest ∧ foldCase k = d)
    (front : Text) {rest : Text} {k : Char} (hk : foldCase k ≠ d) (hcolon : k ≠ ':')
    (hfront : ':' ∉ front) (hrest : ':' ∉ rest) {before : Option Char} {s : Text}
    (hs : s <:+ front ++ k :: ':' :: rest) : read before s = none := by
  refine Option.not_isSome_iff_eq_none.mp fun hsome => ?_
  obtain ⟨j, later, rfl, hj⟩ := hread hsome
  -- The only colon comes behind `k`, so what is read would have `k` for its key.
  induction front with
  | nil =>
    rcases List.suffix_cons_iff.mp hs with hsame | hs
    · obtain ⟨rfl, -⟩ := List.cons.inj hsame
      exact hk hj
    · rcases List.suffix_cons_iff.mp hs with hsame | hs
      · obtain ⟨-, rfl⟩ := List.cons.inj hsame
        exact hrest List.mem_cons_self
      · exact hrest (hs.subset (List.mem_cons_of_mem _ List.mem_cons_self))
  | cons c front ih =>
    rcases List.suffix_cons_iff.mp hs with hsame | hs
    · obtain ⟨-, hbehind⟩ := List.cons.inj hsame
      cases front with
      | nil => exact hcolon (List.cons.inj hbehind).1.symm
      | cons e front =>
        exact hfront (List.mem_cons_of_mem _ ((List.cons.inj hbehind).1 ▸ List.mem_cons_self))
    · exact ih (fun hmem => hfront (List.mem_cons_of_mem _ hmem)) hs

theorem exists_key_of_readColor {before : Option Char} {t : Text}
    (h : (readColor before t).isSome) : ∃ k rest, t = k :: ':' :: rest ∧ foldCase k = 'c' := by
  obtain ⟨f, hf⟩ := Option.isSome_iff_exists.mp h
  obtain ⟨-, k, w, rest, ht, hk, -⟩ := readColor_eq_some_iff.mp hf
  exact ⟨k, w ++ rest, ht, hk⟩

theorem exists_key_of_readFont {before : Option Char} {t : Text}
    (h : (readFont before t).isSome) : ∃ k rest, t = k :: ':' :: rest ∧ foldCase k = 'f' := by
  obtain ⟨-, k, c, rest, ht, hk, -⟩ := readFont_isSome_iff.mp h
  exact ⟨k, c :: rest, ht, hk⟩

/-- A font may swallow the words behind it, but it starts where its key does. -/
theorem readFont_local {w : Text} (h : ∀ s, s <:+ w → readFont none s = none) :
    LocalAt readFont w := by
  intro before s v hs hsuffix
  have hnone : readFont before s = none := by
    refine Option.not_isSome_iff_eq_none.mp fun hsome => ?_
    obtain ⟨-, hword⟩ := readFont_isSome_iff.mp hsome
    have hstart : (readFont none s).isSome := readFont_isSome_iff.mpr ⟨rfl, hword⟩
    rw [h s hsuffix] at hstart
    cases hstart
  rw [hnone, ← Option.not_isSome_iff_eq_none]
  rw [readFont_spelled.gapLocal.before_gap isGap_space hs, hnone]
  exact Bool.false_ne_true

theorem readFont_local_of_no_colon {w : Text} (h : ':' ∉ w) : LocalAt readFont w := by
  refine readFont_local fun s hs => Option.not_isSome_iff_eq_none.mp fun hsome => ?_
  obtain ⟨-, k, c, rest, rfl, -⟩ := readFont_isSome_iff.mp hsome
  exact h (hs.subset (List.mem_cons_of_mem _ List.mem_cons_self))

end Notebook
