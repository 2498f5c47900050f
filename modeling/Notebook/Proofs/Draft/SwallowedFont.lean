import Notebook.Proofs.Draft.Residue

/-!
# Fonts that stay in the text (specification §3, invariants)

A font whose name runs into the key of what follows hands that key back, and the search goes on
behind it: the key is kept, but it is not looked at. When the key is that of another font, the other
font stays.

- `SwallowsFont` — a font hands back the key of another one, which nothing takes away;
- `LeavesFont` — the search for fonts comes to a font of that kind;
- `occurs_readFont_extract_iff` — what is left of a body has a font exactly if it leaves one;
- `Draft.no_font_left_iff` — otherwise it has none, and neither has the content of a draft.
-/

namespace Notebook

open Text

/-- A font hands back the key of another one: behind its name there is a space, and then a key with
a letter or digit at which neither a font nor a flag proper starts, which would take it away. -/
def SwallowsFont (before : Option Char) (t : Text) : Prop :=
  before.any isWord = false ∧ ∃ k name key c rest,
    t = k :: ':' :: (name ++ ' ' :: key :: ':' :: c :: rest) ∧
    foldCase k = 'f' ∧ name.head?.any foldsToAlphanumeric = true ∧
    (∀ d ∈ name, isFontChar d = true) ∧ foldCase key = 'f' ∧ foldsToAlphanumeric c = true ∧
    readFont (some ':') (c :: rest) = none ∧ readFlag (some ':') (c :: rest) = none

/-- The search for the fonts of a body comes to one that hands back the key of another. -/
def LeavesFont (body : Text) : Prop :=
  ComesTo readFont SwallowsFont 0 0 none (withoutColors body)

/-- A font that is still there when the flags proper are taken out: none starts behind its key. -/
def OutlastsFlags (before : Option Char) (t : Text) : Prop :=
  (readFont before t).isSome ∧ readFlag (some ':') (t.drop 2) = none

/-! ### Where no font starts -/

theorem ne_space_of_foldsToAlphanumeric {c : Char} (h : foldsToAlphanumeric c = true) :
    c ≠ ' ' := by
  rintro rfl
  exact absurd h (by decide)

theorem ne_colon_of_foldsToAlphanumeric {c : Char} (h : foldsToAlphanumeric c = true) :
    c ≠ ':' := by
  rintro rfl
  exact absurd h (by decide)

theorem readFont_of_word {before : Option Char} {t : Text} (h : before.any isWord = true) :
    readFont before t = none := by
  by_contra hfont
  have hbefore := (readFont_isSome_iff.mp (Option.isSome_iff_ne_none.mpr hfont)).1
  rw [h] at hbefore
  cases hbefore

/-- A key has a colon behind its letter. -/
theorem readFont_of_second {before : Option Char} {c d : Char} {t : Text} (h : d ≠ ':') :
    readFont before (c :: d :: t) = none := by
  by_contra hfont
  obtain ⟨-, k, e, rest, ht, -, -⟩ := readFont_isSome_iff.mp (Option.isSome_iff_ne_none.mpr hfont)
  simp only [List.cons.injEq] at ht
  exact h ht.2.1

theorem readFont_colon (before : Option Char) (t : Text) : readFont before (':' :: t) = none := by
  by_contra hfont
  obtain ⟨-, k, e, rest, ht, hk, -⟩ := readFont_isSome_iff.mp (Option.isSome_iff_ne_none.mpr hfont)
  obtain ⟨rfl, -⟩ := List.cons.inj ht
  exact absurd hk (by decide)

theorem readFlag_colon (before : Option Char) (t : Text) : readFlag before (':' :: t) = none := by
  by_contra hflag
  obtain ⟨-, k, s, w, rest, ht, hk, -⟩ :=
    readFlag_isSome_iff.mp (Option.isSome_iff_ne_none.mpr hflag)
  obtain ⟨rfl, -⟩ := List.cons.inj ht
  exact absurd hk (by decide)

/-- Behind a word character there is one in every part of a word of letters and digits. -/
theorem lastOf_word {before : Option Char} {u : Text} (hbefore : before.any isWord = true)
    (hu : ∀ c ∈ u, foldsToAlphanumeric c = true) : (lastOf before u).any isWord = true := by
  induction u generalizing before with
  | nil => exact hbefore
  | cons c u ih =>
    have hc : (some c).any isWord = true :=
      isWord_of_foldsToAlphanumeric (hu c List.mem_cons_self)
    exact ih hc fun d hd => hu d (List.mem_cons_of_mem _ hd)

/-- No font starts in a word of letters and digits, except at its start. -/
theorem readFont_in_word {before : Option Char} {u v rest : Text}
    (hbefore : before.any isWord = true) (hu : ∀ c ∈ u ++ v, foldsToAlphanumeric c = true) :
    readFont (lastOf before u) (v ++ rest) = none :=
  readFont_of_word (lastOf_word hbefore fun c hc => hu c (List.mem_append_left _ hc))

/-- Nothing is read inside of a flag proper by a reader that starts at the beginning of a word, and
neither at a colon nor at three letters or digits. -/
theorem read_in_flag {α : Type} (read : Reader α)
    (hword : ∀ {b t}, b.any isWord = true → read b t = none)
    (hcolon : ∀ b t, read b (':' :: t) = none)
    (hletters : ∀ {b c d e t}, foldsToAlphanumeric d = true → foldsToAlphanumeric e = true →
      read b (c :: d :: e :: t) = none)
    {before : Option Char} {u v rest : Text} (h : FlagWord (u ++ v)) (hu : u ≠ []) (hv : v ≠ []) :
    read (lastOf before u) (v ++ rest) = none := by
  obtain ⟨k, s, word, hflag, hk, hs, hw⟩ := h
  have hchars := hw.foldsToAlphanumeric
  -- In front of the colon there is a letter before the place, and behind it only the word.
  match u, hflag with
  | [], _ => exact absurd rfl hu
  | [_], hflag =>
    obtain ⟨rfl, -⟩ := List.cons.inj hflag
    exact hword (isWord_of_isAlpha
      (isAlpha_of_foldCase_eq (by decide) (by decide) (by decide) hk))
  | [_, _], hflag =>
    simp only [List.cons_append, List.nil_append, List.cons.injEq] at hflag
    rw [hflag.2.2]
    exact hcolon _ _
  | [_, _, _], hflag =>
    simp only [List.cons_append, List.nil_append, List.cons.injEq] at hflag
    obtain ⟨-, -, -, rfl⟩ := hflag
    match v, hw.three_le with
    | a :: b :: c :: more, _ => exact hletters (hchars b (by simp)) (hchars c (by simp))
  | _ :: _ :: _ :: a :: u, hflag =>
    simp only [List.cons_append, List.cons.injEq] at hflag
    obtain ⟨-, -, -, rfl⟩ := hflag
    have ha : (some a).any isWord = true :=
      isWord_of_foldsToAlphanumeric (hchars a List.mem_cons_self)
    have hlast : (lastOf (some a) u).any isWord = true := lastOf_word ha fun c hc =>
      hchars c (List.mem_cons_of_mem a (List.mem_append_left _ hc))
    exact hword hlast

/-- No font starts in a flag proper. -/
theorem readFont_in_flag {before : Option Char} {u v rest : Text} (h : FlagWord (u ++ v))
    (hv : v ≠ []) : readFont (lastOf before u) (v ++ rest) = none := by
  cases u with
  | nil =>
    obtain ⟨k, s, word, rfl, -, hs, -⟩ := h
    refine readFont_of_second ?_
    rintro rfl
    exact absurd hs (by decide)
  | cons c u =>
    exact read_in_flag readFont readFont_of_word readFont_colon
      (fun hd _ => readFont_of_second (ne_colon_of_foldsToAlphanumeric hd)) h
      (List.cons_ne_nil c u) hv

/-- What a flag proper takes away is a spelling of it. -/
theorem flagWord_of_readFlag {before : Option Char} {c : Char} {removed rest : Text}
    {f : Found (Option Flag)} (h : readFlag before (c :: (removed ++ rest)) = some f)
    (hlength : removed.length = f.removedAfterFirst) : FlagWord (c :: removed) := by
  obtain ⟨-, k, s, w, later, ht, hk, hs, hw, -, hremoved, -⟩ := readFlag_eq_some h
  have hsplit : (c :: removed) ++ rest = (k :: s :: ':' :: w) ++ later := ht
  have hsame : (c :: removed).length = (k :: s :: ':' :: w).length := by
    simp only [List.length_cons]
    omega
  exact ⟨k, s, w, List.append_inj_left hsplit hsame, hk, hs, hw⟩

/-! ### A font before a text from which flags are taken out -/

/-- Taking occurrences out of what follows the key of a font leaves the font, if none of them is
right behind the key. -/
theorem readFont_replaceFrom_iff {α : Type} {read : Reader α}
    (hcolon : ∀ b t, read b (':' :: t) = none) {before : Option Char} {c : Char} {rest : Text} :
    (readFont before (c :: replaceFrom [' '] read 0 (some c) rest)).isSome ↔
      (readFont before (c :: rest)).isSome ∧ read (some ':') (rest.drop 1) = none := by
  rw [readFont_isSome_iff, readFont_isSome_iff]
  constructor
  · rintro ⟨hbefore, k, d, later, ht, hk, hd⟩
    obtain ⟨rfl, hleft⟩ := List.cons.inj ht
    obtain ⟨tail, rfl, -, hleft⟩ := (replaceFrom_eq_cons_iff (by decide)).mp hleft
    obtain ⟨more, rfl, hnone, -⟩ :=
      (replaceFrom_eq_cons_iff (ne_space_of_foldsToAlphanumeric hd)).mp hleft.symm
    exact ⟨⟨hbefore, c, d, more, rfl, hk, hd⟩, hnone⟩
  · rintro ⟨⟨hbefore, k, d, later, ht, hk, hd⟩, hnone⟩
    obtain ⟨rfl, rfl⟩ := List.cons.inj ht
    refine ⟨hbefore, c, d, replaceFrom [' '] read 0 (some d) later, ?_, hk, hd⟩
    rw [replaceFrom_char (hcolon _ _), replaceFrom_char hnone]

/-- Taking fonts out of a text takes none of its flags away, except for a font at its start. -/
theorem readFlag_replaceFrom_iff {before : Option Char} {t : Text}
    (h : readFont before t = none) :
    (readFlag before (replaceFrom [' '] readFont 0 before t)).isSome ↔
      (readFlag before t).isSome := by
  constructor
  · intro hread
    cases t with
    | nil => exact hread
    | cons c rest =>
      rw [replaceFrom_char h] at hread
      exact reads_of_reads_replaceFrom readFlag_spelled readFont_detached hread
  · intro hread
    obtain ⟨hbefore, w, rest, rfl, hw, hend⟩ := readFlag_spelled.reads_iff.mp hread
    rw [replaceFrom_append_of_none fun u v hsplit hv => readFont_in_flag (hsplit ▸ hw) hv]
    refine readFlag_spelled.reads_iff.mpr ⟨hbefore, w, _, rfl, hw, fun hatEnd => ?_⟩
    have hhead : ∀ d ∈ (replaceFrom [' '] readFont 0 (lastOf before w) rest).head?,
        d = ' ' ∨ d ∈ rest.head? := head?_replaceFrom 0 (lastOf before w) rest
    -- What stands behind the flag is left as it is or becomes a space, so the word still ends.
    cases hleft : replaceFrom [' '] readFont 0 (lastOf before w) rest with
    | nil => rfl
    | cons d left =>
      rw [hleft] at hhead
      rcases hhead d rfl with rfl | hd
      · exact isWord_space
      · obtain ⟨later, rfl⟩ := List.head?_eq_some_iff.mp hd
        exact hend hatEnd

/-! ### The flags proper are taken out -/

/-- Without a letter at the start of the text it does not matter what is before it. -/
theorem OutlastsFlags.change_before {b₁ b₂ : Option Char} {t : Text}
    (hhead : ∀ c ∈ t.head?, c.isAlpha = false) (h : OutlastsFlags b₁ t) : OutlastsFlags b₂ t :=
  ⟨readFont_spelled.change_before hhead h.1, h.2⟩

theorem readFont_space (before : Option Char) (t : Text) : ¬(readFont before (' ' :: t)).isSome :=
  readFont_spelled.gapLocal.at_gap isGap_space

/-- **Taking the flags proper out leaves the fonts that outlast them.** -/
theorem occurs_readFont_replaceFrom_readFlag (before : Option Char) (t : Text) :
    Occurs readFont before (replaceFrom [' '] readFlag 0 before t) ↔
      Somewhere OutlastsFlags before t := by
  suffices hall : ∀ kept before t, kept = 0 →
      (Occurs readFont before (replaceFrom [' '] readFlag kept before t) ↔
        Somewhere OutlastsFlags before t) from hall 0 before t rfl
  intro kept before t
  induction kept, before, t using scan_induction readFlag_detached.fits with
  | nil kept before =>
    intro _
    rw [replaceFrom_nil]
    exact Iff.rfl
  | keep kept before c rest ih =>
    intro hzero
    cases hzero
  | char before c rest hnone ih =>
    intro _
    rw [replaceFrom_char hnone]
    exact or_congr (readFont_replaceFrom_iff readFlag_colon) (ih rfl)
  | found before c removed rest f hread hlength ih =>
    intro _
    have hhead := readFlag_detached.not_isAlpha_left hread hlength (lastOf (some c) removed)
    -- The flag has no font in it, and the space for it is a word boundary like the flag's own.
    have hin : ∀ u v, c :: removed = u ++ v → v ≠ [] →
        ¬OutlastsFlags (lastOf before u) (v ++ rest) := by
      intro u v hsplit hv hout
      have hword : FlagWord (u ++ v) := hsplit ▸ flagWord_of_readFlag hread hlength
      rw [OutlastsFlags, readFont_in_flag hword hv] at hout
      cases hout.1
    rw [replaceFrom_found hread hlength, ← List.cons_append, somewhere_append_iff hin]
    refine Iff.trans ?_ (ih (readFlag_kept hread))
    constructor
    · rintro (here | later)
      · exact absurd here (readFont_space _ _)
      · exact later.change_before (readFont_spelled.change_before hhead)
    · intro h
      exact Or.inr (h.change_before (readFont_spelled.change_before hhead))

/-! ### The fonts are taken out -/

theorem foldsToAlphanumeric_of_key {key : Char} (h : foldCase key = 'f') :
    ∀ d ∈ [key], foldsToAlphanumeric d = true := by
  intro d hd
  rw [List.mem_singleton.mp hd, foldsToAlphanumeric, h]
  decide

/-- A font that hands back its last word is found. -/
theorem readFont_handed_back {before : Option Char} (hbefore : before.any isWord = false)
    {k : Char} (hk : foldCase k = 'f') {name : Text}
    (hhead : name.head?.any foldsToAlphanumeric = true) (hname : ∀ d ∈ name, isFontChar d = true)
    {word : Text} (hword : ∀ d ∈ word, foldsToAlphanumeric d = true) (rest : Text) :
    readFont before (k :: ':' :: (name ++ (' ' :: word ++ ':' :: rest))) =
      some ⟨trim name, 1 + name.length, 1 + word.length⟩ :=
  readFont_eq_some_iff.mpr ⟨hbefore, .handedBack hk hhead hname hword⟩

/-- A font that swallows a key keeps it, with the space before it. -/
theorem SwallowsFont.found {before : Option Char} {t : Text} (h : SwallowsFont before t) :
    ∃ f, readFont before t = some f ∧ f.kept = 2 := by
  obtain ⟨hbefore, k, name, key, c, rest, rfl, hk, hhead, hname, hkey, -⟩ := h
  have hword := foldsToAlphanumeric_of_key hkey
  exact ⟨_, readFont_handed_back hbefore hk hhead hname hword (c :: rest), rfl⟩

/-- When a key that was handed back outlasts the flags proper. -/
theorem outlastsFlags_handed_back {key : Char} {rest : Text} :
    OutlastsFlags (some ' ') (key :: replaceFrom [' '] readFont 0 (some key) (':' :: rest)) ↔
      (readFont (some ' ') (key :: ':' :: rest)).isSome ∧
      readFont (some ':') rest = none ∧ readFlag (some ':') rest = none := by
  have hdrop : (key :: replaceFrom [' '] readFont 0 (some key) (':' :: rest)).drop 2 =
      replaceFrom [' '] readFont 0 (some ':') rest := by
    rw [replaceFrom_char (readFont_colon _ _)]
    rfl
  rw [OutlastsFlags, readFont_replaceFrom_iff readFont_colon, hdrop, and_assoc]
  refine and_congr_right fun _ => and_congr_right fun hnone => ?_
  have hflag := not_congr (readFlag_replaceFrom_iff hnone)
  rwa [Option.not_isSome_iff_eq_none, Option.not_isSome_iff_eq_none] at hflag

/-- A font swallows the key of another one exactly if that key is all it hands back, and outlasts
the flags proper. -/
theorem swallowsFont_iff {before : Option Char} {k : Char} {name word rest : Text}
    (hbefore : before.any isWord = false) (hk : foldCase k = 'f')
    (hhead : name.head?.any foldsToAlphanumeric = true) (hname : ∀ d ∈ name, isFontChar d = true)
    (hword : ∀ d ∈ word, foldsToAlphanumeric d = true) :
    SwallowsFont before (k :: ':' :: (name ++ (' ' :: word ++ ':' :: rest))) ↔
      ∃ key, word = [key] ∧ OutlastsFlags (some ' ')
        (key :: replaceFrom [' '] readFont 0 (some key) (':' :: rest)) := by
  constructor
  · rintro ⟨-, k', name', key, c, more, ht, hk', hhead', hname', hkey, hc, hnone⟩
    -- Both ways to read the font find the same, so the names and what is handed back agree.
    have hread := readFont_handed_back hbefore hk hhead hname hword rest
    have hread' := readFont_handed_back hbefore hk' hhead' hname' (foldsToAlphanumeric_of_key hkey)
      (c :: more)
    rw [ht] at hread
    obtain ⟨-, hlength, hkept⟩ := Found.mk.inj (Option.some.inj (hread.symm.trans hread'))
    obtain ⟨-, hbehind⟩ := List.cons.inj (List.cons.inj ht).2
    obtain ⟨rfl, hback⟩ := List.append_inj hbehind (by omega)
    have hone : word.length = 1 := Nat.add_left_cancel hkept
    obtain ⟨d, rfl⟩ := List.length_eq_one_iff.mp hone
    simp only [List.cons_append, List.nil_append, List.cons.injEq, true_and] at hback
    obtain ⟨rfl, rfl⟩ := hback
    refine ⟨d, rfl, outlastsFlags_handed_back.mpr ⟨?_, hnone⟩⟩
    exact readFont_isSome_iff.mpr ⟨isWord_space, d, c, more, rfl, hkey, hc⟩
  · rintro ⟨key, rfl, hout⟩
    obtain ⟨hfont, hnone⟩ := outlastsFlags_handed_back.mp hout
    obtain ⟨-, j, c, more, ht, hj, hc⟩ := readFont_isSome_iff.mp hfont
    simp only [List.cons.injEq, true_and] at ht
    obtain ⟨rfl, rfl⟩ := ht
    exact ⟨hbefore, k, name, key, c, more, rfl, hk, hhead, hname, hj, hc, hnone⟩

/-- In a word that was handed back, only a key on its own may be a font. -/
theorem somewhere_handed_back {word rest : Text}
    (hword : ∀ d ∈ word, foldsToAlphanumeric d = true) :
    Somewhere OutlastsFlags (some ' ')
        (word ++ replaceFrom [' '] readFont 0 (lastOf (some ' ') word) (':' :: rest)) ↔
      (∃ key, word = [key] ∧
        OutlastsFlags (some ' ') (key :: replaceFrom [' '] readFont 0 (some key) (':' :: rest))) ∨
      Somewhere OutlastsFlags (lastOf (some ' ') word)
        (replaceFrom [' '] readFont 0 (lastOf (some ' ') word) (':' :: rest)) := by
  cases word with
  | nil =>
    refine (or_iff_right ?_).symm
    rintro ⟨key, hnil, -⟩
    cases hnil
  | cons key more =>
    have hkey : (some key).any isWord = true :=
      isWord_of_foldsToAlphanumeric (hword key List.mem_cons_self)
    have hmore : ∀ d ∈ more, foldsToAlphanumeric d = true :=
      fun d hd => hword d (List.mem_cons_of_mem _ hd)
    refine or_congr ?_ (somewhere_append_iff ?_)
    · -- With a second character the colon does not follow the first.
      cases more with
      | nil =>
        constructor
        · intro hout
          exact ⟨key, rfl, hout⟩
        · rintro ⟨_, hone, hout⟩
          obtain ⟨rfl, -⟩ := List.cons.inj hone
          exact hout
      | cons d more =>
        have hd := ne_colon_of_foldsToAlphanumeric (hmore d List.mem_cons_self)
        constructor
        · rintro ⟨hfont, -⟩
          obtain ⟨f, hf⟩ := Option.isSome_iff_exists.mp hfont
          cases (readFont_of_second hd).symm.trans hf
        · rintro ⟨_, hone, -⟩
          cases hone
    · intro u v hsplit _ hout
      rw [OutlastsFlags, readFont_in_word hkey (hsplit ▸ hmore)] at hout
      cases hout.1

/-- What is kept behind a font has a font of its own exactly if the first swallows its key. -/
theorem somewhere_kept {before : Option Char} {c : Char} {removed keep later : Text}
    {f : Found Text} (hread : readFont before (c :: (removed ++ (keep ++ later))) = some f)
    (hlength : removed.length = f.removedAfterFirst) (hkeep : keep.length = f.kept) :
    Somewhere OutlastsFlags (some ' ')
        (replaceFrom [' '] readFont f.kept (lastOf (some c) removed) (keep ++ later)) ↔
      SwallowsFont before (c :: (removed ++ (keep ++ later))) ∨
      Somewhere OutlastsFlags (lastOf (lastOf (some c) removed) keep)
        (replaceFrom [' '] readFont 0 (lastOf (lastOf (some c) removed) keep) later) := by
  obtain ⟨hbefore, hfound⟩ := readFont_eq_some_iff.mp hread
  have hhead := readFont_detached.not_isAlpha_left hread hlength (lastOf (some c) removed)
  generalize ht : c :: (removed ++ (keep ++ later)) = t at hread hfound ⊢
  cases hfound with
  | @whole k run rest hk hrun hwhole =>
    obtain rfl := List.eq_nil_of_length_eq_zero hkeep
    -- Nothing is handed back, so nothing is swallowed.
    have hnot : ¬SwallowsFont before (k :: ':' :: (run ++ rest)) := by
      intro h
      obtain ⟨f, hf, htwo⟩ := h.found
      rw [← Option.some.inj (hread.symm.trans hf)] at htwo
      cases htwo
    rw [or_iff_right hnot]
    exact ⟨.change_before (.change_before hhead), .change_before (.change_before hhead)⟩
  | @handedBack k name word rest hk hname hchars hword =>
    -- What is kept is the space and the word behind it.
    have hsplit : (c :: removed) ++ (keep ++ later) =
        (k :: ':' :: name) ++ ((' ' :: word) ++ ':' :: rest) := ht
    have hkept : keep ++ later = (' ' :: word) ++ ':' :: rest := by
      refine List.append_inj_right hsplit ?_
      simp only [List.length_cons, hlength]
      omega
    obtain ⟨rfl, rfl⟩ : keep = ' ' :: word ∧ later = ':' :: rest := by
      refine List.append_inj hkept ?_
      rw [hkeep, List.length_cons]
      exact Nat.add_comm _ _
    rw [swallowsFont_iff hbefore hk hname hchars hword, ← hkeep, replaceFrom_kept]
    refine Iff.trans ?_ (somewhere_handed_back hword)
    exact or_iff_right fun hout => readFont_space _ _ hout.1

/-- **Taking the fonts out leaves one that outlasts the flags proper** exactly if the search comes
to a font that swallows the key of another. -/
theorem somewhere_replaceFrom_readFont (before : Option Char) (t : Text) :
    Somewhere OutlastsFlags before (replaceFrom [' '] readFont 0 before t) ↔
      ComesTo readFont SwallowsFont 0 0 before t := by
  -- The invariant of the scan is about what follows the characters that it still has to keep.
  suffices hall : ∀ kept before t keep later, t = keep ++ later → keep.length = kept →
      (Somewhere OutlastsFlags (lastOf before keep)
          (replaceFrom [' '] readFont 0 (lastOf before keep) later) ↔
        ComesTo readFont SwallowsFont 0 0 (lastOf before keep) later)
    from hall 0 before t [] t rfl rfl
  intro kept before t
  induction kept, before, t using scan_induction readFont_detached.fits with
  | nil kept before =>
    intro keep later ht _
    obtain ⟨rfl, rfl⟩ := List.append_eq_nil_iff.mp ht.symm
    exact Iff.rfl
  | keep kept before c rest ih =>
    intro keep later ht hlength
    cases keep with
    | nil => cases hlength
    | cons d keep =>
      obtain ⟨rfl, rfl⟩ := List.cons.inj ht
      exact ih keep later rfl (Nat.succ.inj hlength)
  | char before c rest hnone ih =>
    intro keep later ht hlength
    obtain rfl := List.eq_nil_of_length_eq_zero hlength
    obtain rfl : later = c :: rest := ht.symm
    have hout : ¬OutlastsFlags before (c :: replaceFrom [' '] readFont 0 (some c) rest) := by
      rintro ⟨hread, -⟩
      have hread' := reads_of_reads_replaceFrom readFont_spelled readFont_detached hread
      rw [hnone] at hread'
      cases hread'
    have hswallow : ¬SwallowsFont before (c :: rest) := by
      intro h
      obtain ⟨f, hf, -⟩ := h.found
      rw [hnone] at hf
      cases hf
    rw [lastOf, replaceFrom_char hnone, comesTo_char hnone, or_iff_right hswallow]
    exact (or_iff_right hout).trans (ih [] rest rfl rfl)
  | found before c removed rest f hread hlength ih =>
    intro keep later ht hnone
    obtain rfl := List.eq_nil_of_length_eq_zero hnone
    obtain rfl : later = c :: (removed ++ rest) := ht.symm
    obtain ⟨keep, later, rfl, hkeep⟩ := readFont_detached.fits.split_kept hread hlength
    rw [lastOf, replaceFrom_found hread hlength, comesTo_found hread hlength, ← hkeep,
      comesTo_kept, ← ih keep later rfl hkeep, ← somewhere_kept hread hlength hkeep, hkeep]
    exact or_iff_right fun hout => readFont_space _ _ hout.1

/-! ### What is left of a body -/

/-- What is left of a body has a font exactly if the body leaves one. -/
theorem occurs_readFont_extract_iff (body : Text) :
    Occurs readFont none (Attributes.extract body).1 ↔ LeavesFont body := by
  rw [extract_fst, takeOut_fst, occurs_readFont_replaceFrom_readFlag]
  exact somewhere_replaceFrom_readFont none (withoutColors body)

/-- A font whose key was handed back is taken away after all if its name is a font itself. -/
example : ¬Occurs readFont none (Attributes.extract "f:a f:f:b".toList).1 := by decide

/-- **All fonts are taken out exactly where none swallows the key of another**: no font is left of a
body, and the content of a draft has none to set. -/
theorem Draft.no_font_left_iff (body defaultTitle input : Text) :
    (¬Occurs readFont none (Attributes.extract body).1 ↔ ¬LeavesFont body) ∧
    ((∀ draft, Draft.ofCommand? defaultTitle input = some draft →
        (Attributes.extract draft.content).2.fontFamily = none) ↔
      ∀ rest, afterNewNote? input = some rest → ¬LeavesFont (cutTitle rest).2) := by
  refine ⟨not_congr (occurs_readFont_extract_iff body), ?_, ?_⟩
  · intro hnone rest hrest hleaves
    obtain ⟨draft, hdraft⟩ := Draft.exists_ofCommand? defaultTitle hrest
    obtain ⟨rest', hrest', hcontent⟩ := Draft.content_of_ofCommand? hdraft
    obtain rfl := Option.some.inj (hrest.symm.trans hrest')
    -- Tidying neither makes a font nor breaks one.
    rw [← occurs_readFont_extract_iff, ← fontFamily_tidyBody_ne_none_iff, ← hcontent] at hleaves
    exact hleaves (hnone draft hdraft)
  · intro hnone draft hdraft
    obtain ⟨rest, hrest, hcontent⟩ := Draft.content_of_ofCommand? hdraft
    by_contra hfont
    rw [hcontent] at hfont
    refine hnone rest hrest ?_
    exact (occurs_readFont_extract_iff _).mp ((fontFamily_tidyBody_ne_none_iff _).mp hfont)

/-- Of two fonts in a row the second stays: the name of the first runs into its key. -/
theorem Draft.second_font_stays :
    Occurs readFont none (Attributes.extract " body f:a f:b".toList).1 ∧
    ∃ draft, Draft.ofCommand? untitled "@new-T || body f:a f:b".toList = some draft ∧
      draft.content = "body f:b".toList ∧
      (Attributes.extract draft.content).2.fontFamily = some "b".toList :=
  ⟨by decide, _, rfl, by decide, by decide⟩

end Notebook
