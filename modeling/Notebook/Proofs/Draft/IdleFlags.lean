import Notebook.Proofs.Draft.SwallowedFont
import Notebook.Proofs.Draft.Words

/-!
# Flags that set nothing

The word of a flag proper is looked up twice: for whether it is one, up to case folding, and for what
it sets, by its ASCII letters alone. The two differ on one word, which a long s may begin. A flag
with this word is taken out of the text and sets nothing; every other flag that is taken out sets
what it says.

- `IdleFlag` — the flag with that word;
- `readFlag_value_eq_none_iff` — at a place, a flag that sets nothing is an idle one;
- `none_mem_takeOut_readFlag_iff` — so it is in a whole text;
- `Attributes.extract_effects` — a body for which nothing is set stays as it is, unless it has an
  idle flag.
-/

namespace Notebook

open Text

/-- The spellings of idle flags: the word behind the key is `star`, with a long s. -/
def IdleWord (w : Text) : Prop := ∃ k s more, w = k :: s :: ':' :: '\u017F' :: more ∧
  foldCase k = 'i' ∧ foldCase s = 's' ∧ more.map Char.toLower = "tar".toList

/-- An idle flag at a place in a text, from word boundary to word boundary. -/
def IdleFlag (before : Option Char) (t : Text) : Prop :=
  before.any isWord = false ∧ ∃ w rest, t = w ++ rest ∧ IdleWord w ∧ startsWord rest = false

/-! ### Flags in a text -/

theorem readFlag_of_word {before : Option Char} {t : Text} (h : before.any isWord = true) :
    readFlag before t = none := by
  by_contra hflag
  have hbefore := (readFlag_isSome_iff.mp (Option.isSome_iff_ne_none.mpr hflag)).1
  rw [h] at hbefore
  cases hbefore

/-- The key of a flag has a colon behind its two letters. -/
theorem readFlag_of_third {before : Option Char} {c d e : Char} {t : Text} (h : e ≠ ':') :
    readFlag before (c :: d :: e :: t) = none := by
  by_contra hflag
  obtain ⟨-, k, s, w, rest, ht, -⟩ := readFlag_isSome_iff.mp (Option.isSome_iff_ne_none.mpr hflag)
  simp only [List.cons.injEq] at ht
  exact h ht.2.2.1

/-- No flag proper starts inside of another. -/
theorem readFlag_in_flag (before : Option Char) {u v rest : Text} (h : FlagWord (u ++ v))
    (hu : u ≠ []) (hv : v ≠ []) : readFlag (lastOf before u) (v ++ rest) = none :=
  read_in_flag readFlag readFlag_of_word readFlag_colon
    (fun _ he => readFlag_of_third (ne_colon_of_foldsToAlphanumeric he)) h hu hv

/-- What the flags proper of a text say is what its occurrences say. -/
theorem mem_takeOut_readFlag_iff {value : Option Flag} {t : Text} :
    value ∈ (takeOut readFlag t).2 ↔
      Somewhere (fun b u => ∃ f, readFlag b u = some f ∧ f.value = value) none t := by
  refine mem_found_iff readFlag_detached.fits readFlag_kept ?_
  intro before c removed rest f hread hlength u v hsplit hne
  have hword : FlagWord ((c :: u) ++ v) := by
    rw [List.cons_append, ← hsplit]
    exact flagWord_of_readFlag hread hlength
  exact readFlag_in_flag before hword (List.cons_ne_nil c u) hne

/-- At a key with a word that is not in the table nothing is read. -/
theorem readFlag_unknown {before : Option Char} {k s : Char} {w rest : Text}
    (hw : ∀ c ∈ w, isWord c = true) (hrest : startsWord rest = false) (hunknown : ¬IsFlagWord w) :
    readFlag before (k :: s :: ':' :: (w ++ rest)) = none := by
  by_contra hflag
  obtain ⟨-, _, _, w', rest', ht, -, -, hw', hrest'⟩ :=
    readFlag_isSome_iff.mp (Option.isSome_iff_ne_none.mpr hflag)
  simp only [List.cons.injEq, true_and] at ht
  obtain ⟨-, -, ht⟩ := ht
  rw [eq_of_word_ends ht hw hw'.isWord hrest hrest'] at hunknown
  exact hunknown hw'

/-! ### Idle flags -/

/-- The words of the table have no letter that something else folds to, but for one word that begins
with such a letter. -/
theorem flagWords_letters : ∀ e ∈ flagWords, 'k' ∉ e.1 ∧ 's' ∉ e.1.tail ∧
    ('s' ∈ e.1 → e.1 = "star".toList) := by decide

/-- Folding does more to a word of the table than to write it in lower case exactly if the word
starts with the long s. -/
theorem map_toLower_ne_iff {c : Char} {more : Text} {flag : Flag}
    (h : ((c :: more).map foldCase, flag) ∈ flagWords) :
    (c :: more).map Char.toLower ≠ (c :: more).map foldCase ↔
      c = '\u017F' ∧ more.map Char.toLower = "tar".toList := by
  obtain ⟨hk, hs, hstar⟩ := flagWords_letters _ h
  -- Only the first letter can be a long s: in the words of the table an s stands nowhere else.
  have hmore : more.map Char.toLower = more.map foldCase :=
    map_toLower_eq_map_foldCase hs fun hmem => hk (List.mem_cons_of_mem _ hmem)
  rw [List.map_cons, List.map_cons, hmore, ne_eq, List.cons.injEq, and_iff_left rfl]
  constructor
  · intro hne
    have hc : c = '\u017F' := by
      by_contra hlong
      have hkelvin : c ≠ '\u212A' := by
        rintro rfl
        exact hk List.mem_cons_self
      rw [foldCase, if_neg hlong, if_neg hkelvin] at hne
      exact hne rfl
    refine ⟨hc, ?_⟩
    have hword := hstar (hc ▸ List.mem_cons_self)
    exact (List.cons.inj hword).2
  · rintro ⟨rfl, -⟩
    decide

/-- The word of an idle flag is in the table. -/
theorem mem_flagWords_idle {more : Text} (h : more.map Char.toLower = "tar".toList) :
    (('\u017F' :: more).map foldCase, Flag.favorite) ∈ flagWords := by
  have hfold : more.map foldCase = "tar".toList := by
    rw [map_foldCase_eq_map_toLower (by rw [h]; decide), h]
  rw [List.map_cons, hfold]
  decide

theorem IdleWord.flagWord {w : Text} (h : IdleWord w) : FlagWord w := by
  obtain ⟨k, s, more, rfl, hk, hs, hmore⟩ := h
  exact ⟨k, s, '\u017F' :: more, rfl, hk, hs, isFlagWord_of_mem (mem_flagWords_idle hmore)⟩

/-- A flag that is read sets nothing exactly if it is idle. -/
theorem readFlag_value_eq_none_iff {before : Option Char} {t : Text} :
    (∃ f, readFlag before t = some f ∧ f.value = none) ↔ IdleFlag before t := by
  constructor
  · rintro ⟨f, hf, hvalue⟩
    obtain ⟨hbefore, k, s, w, rest, flag, rfl, hk, hs, hmem, hrest, rfl⟩ :=
      readFlag_eq_some_iff.mp hf
    -- A word of the table that is lower-cased to itself names its flag.
    have hne : w.map Char.toLower ≠ w.map foldCase := by
      intro heq
      rw [if_pos heq] at hvalue
      cases hvalue
    cases w with
    | nil => exact absurd rfl hne
    | cons c more =>
      obtain ⟨rfl, hmore⟩ := (map_toLower_ne_iff hmem).mp hne
      exact ⟨hbefore, _, rest, rfl, ⟨k, s, more, rfl, hk, hs, hmore⟩, hrest⟩
  · rintro ⟨hbefore, w, rest, rfl, ⟨k, s, more, rfl, hk, hs, hmore⟩, hrest⟩
    have hmem := mem_flagWords_idle hmore
    have hread := readFlag_eq_some_iff.mpr
      ⟨hbefore, k, s, '\u017F' :: more, rest, .favorite, rfl, hk, hs, hmem, hrest, rfl⟩
    rw [if_neg ((map_toLower_ne_iff hmem).mpr ⟨rfl, hmore⟩)] at hread
    exact ⟨_, hread, rfl⟩

instance (before : Option Char) (t : Text) : Decidable (IdleFlag before t) :=
  decidable_of_iff ((readFlag before t).any fun f => f.value.isNone) <| by
    rw [← readFlag_value_eq_none_iff, Option.any_eq_true]
    simp only [Option.isNone_iff_eq_none]

/-- A flag proper that sets nothing is taken out exactly if there is an idle flag. -/
theorem none_mem_takeOut_readFlag_iff {t : Text} :
    none ∈ (takeOut readFlag t).2 ↔ Somewhere IdleFlag none t := by
  rw [mem_takeOut_readFlag_iff, somewhere_iff_exists, somewhere_iff_exists]
  simp only [readFlag_value_eq_none_iff]

/-- Idle flags are those of their spellings that stand between word boundaries. -/
theorem somewhere_idleFlag_iff {before : Option Char} {t : Text} :
    Somewhere IdleFlag before t ↔
      ∃ w, IdleWord w ∧ Occurs (readSpelling true true w) before t := by
  constructor
  · intro h
    obtain ⟨u, v, rfl, hne, hbefore, w, rest, rfl, hw, hrest⟩ := somewhere_iff_exists.mp h
    refine ⟨w, hw, somewhere_iff_exists.mpr ⟨u, w ++ rest, rfl, hne, ?_⟩⟩
    exact (readFlag_spelled.single hw.flagWord).reads_iff.mpr
      ⟨fun _ => hbefore, w, rest, rfl, rfl, fun _ => hrest⟩
  · rintro ⟨w, hw, hocc⟩
    obtain ⟨u, v, rfl, hne, hread⟩ := somewhere_iff_exists.mp hocc
    obtain ⟨hbefore, _, rest, rfl, rfl, hrest⟩ :=
      (readFlag_spelled.single hw.flagWord).reads_iff.mp hread
    exact somewhere_iff_exists.mpr ⟨u, _, rfl, hne, hbefore rfl, _, rest, rfl, hw, hrest rfl⟩

/-- The passes before the one for flags proper write no idle flag. -/
theorem somewhere_idleFlag_of_withoutFonts {body : Text}
    (h : Somewhere IdleFlag none (withoutFonts body)) : Somewhere IdleFlag none body := by
  obtain ⟨w, hw, hocc⟩ := somewhere_idleFlag_iff.mp h
  have hspelled := readFlag_spelled.single hw.flagWord
  have hfonts := occurs_of_occurs_replaceFrom hspelled readFont_detached hocc
  have hcolors := occurs_of_occurs_replaceFrom hspelled readColor_detached hfonts
  exact somewhere_idleFlag_iff.mpr
    ⟨w, hw, occurs_of_occurs_replaceFrom hspelled readTag_detached hcolors⟩

/-! ### A body for which nothing is set -/

/-- There is no color in a text without its key. -/
theorem not_occurs_readColor_of_key {t : Text} (hc : ¬"c:".toList <:+: t)
    (hC : ¬"C:".toList <:+: t) : ¬Occurs readColor none t := by
  intro hocc
  obtain ⟨u, v, rfl, -, hv⟩ := somewhere_iff_exists.mp hocc
  obtain ⟨f, hf⟩ := Option.isSome_iff_exists.mp hv
  obtain ⟨-, k, w, rest, rfl, hk, -⟩ := readColor_eq_some_iff.mp hf
  have hkey : k = 'c' ∨ k = 'C' :=
    eq_or_eq_of_foldCase_eq hk (by decide) (by decide) (by decide)
  rcases hkey with rfl | rfl
  · exact hc ⟨u, w ++ rest, by simp⟩
  · exact hC ⟨u, w ++ rest, by simp⟩

/-- A body without tags, colors and fonts stays as it is exactly if no flag proper is taken out. -/
theorem extract_eq_self_iff {body : Text} (h : withoutFonts body = body) :
    (Attributes.extract body).1 = body ↔ (takeOut readFlag body).2 = [] := by
  have hleft : (Attributes.extract body).1 = (takeOut readFlag body).1 := by rw [extract_fst, h]
  constructor
  · intro hself
    have hnone : ¬Occurs readFlag none body := hself ▸ not_occurs_readFlag_extract body
    rw [takeOut_of_not_occurs hnone]
  · intro hnil
    have hnone : ¬Occurs readFlag none body := fun hocc => found_ne_nil_of_occurs hocc hnil
    rw [hleft, takeOut_of_not_occurs hnone]

/-- A body for which nothing is set has no tag, no font and, without the key of one, no color. -/
theorem withoutFonts_of_isEmpty {body : Text} (hc : ¬"c:".toList <:+: body)
    (hC : ¬"C:".toList <:+: body) (h : (Attributes.extract body).2 = {}) :
    withoutFonts body = body := by
  have htag : ¬Occurs readTag none body := not_occurs_readTag_of_tags (by rw [h])
  have hcolor : ¬Occurs readColor none body := not_occurs_readColor_of_key hc hC
  have hfont : ¬Occurs readFont none body := by
    rw [← fontFamily_ne_none_iff htag hcolor, h]
    exact fun hne => hne rfl
  exact withoutFonts_of_not_occurs htag hcolor hfont

/-- **What is taken out has an effect, but for idle flags.** Of the flags proper that are taken out
of a body, every one that names a flag sets it, and one that names none is idle and was in the body
from the start. A body without the key of a color for which nothing is set stays as it is exactly if
it has no idle flag. A word behind the key of a flag that is not in the table is not read. -/
theorem Attributes.extract_effects (body : Text) :
    (∀ flag, some flag ∈ (takeOut readFlag (withoutFonts body)).2 →
      (Attributes.extract body).2.sets flag = true) ∧
    (none ∈ (takeOut readFlag (withoutFonts body)).2 ↔ Somewhere IdleFlag none (withoutFonts body)) ∧
    (Somewhere IdleFlag none (withoutFonts body) → Somewhere IdleFlag none body) ∧
    (¬"c:".toList <:+: body → ¬"C:".toList <:+: body → (Attributes.extract body).2.isEmpty = true →
      ((Attributes.extract body).1 = body ↔ ¬Somewhere IdleFlag none body)) ∧
    (∀ before k s w rest, (∀ c ∈ w, isWord c = true) → startsWord rest = false → ¬IsFlagWord w →
      readFlag before (k :: s :: ':' :: (w ++ rest)) = none) := by
  refine ⟨fun flag => (Attributes.extract_sets body flag).mpr, none_mem_takeOut_readFlag_iff,
    somewhere_idleFlag_of_withoutFonts, ?_, fun _ _ _ _ _ => readFlag_unknown⟩
  intro hc hC hempty
  have hnothing : (Attributes.extract body).2 = {} := of_decide_eq_true hempty
  have hfonts := withoutFonts_of_isEmpty hc hC hnothing
  rw [extract_eq_self_iff hfonts, ← none_mem_takeOut_readFlag_iff]
  constructor
  · intro hnil
    rw [hnil]
    exact List.not_mem_nil
  · -- A flag that names one would set it, and nothing is set.
    intro hidle
    refine List.eq_nil_iff_forall_not_mem.mpr fun value hvalue => ?_
    cases value with
    | none => exact hidle hvalue
    | some flag =>
      have hset := (Attributes.extract_sets body flag).mpr (hfonts.symm ▸ hvalue)
      rw [hnothing] at hset
      cases flag <;> cases hset

/-- Words that begin like one of the table stay, and so do others. -/
theorem Attributes.extract_effects_unknown :
    (¬"c:".toList <:+: "is:starred".toList ∧ ¬"C:".toList <:+: "is:starred".toList ∧
      (Attributes.extract "is:starred".toList).2.isEmpty = true ∧
      (Attributes.extract "is:starred".toList).1 = "is:starred".toList) ∧
    readFlag none "is:known".toList = none ∧
    (Attributes.extract "f:Arial is:hide".toList).2.sets .hidden = true ∧
    Somewhere IdleFlag none "a is:\u017FTAR".toList := by
  have hunknown := Attributes.extract_effects "is:starred".toList
  have hhide := Attributes.extract_effects "f:Arial is:hide".toList
  have hidle := Attributes.extract_effects "a is:\u017FTAR".toList
  refine ⟨⟨by decide, by decide, by decide, ?_⟩, ?_, hhide.1 .hidden (by decide),
    hidle.2.2.1 (by decide)⟩
  · exact (hunknown.2.2.2.1 (by decide) (by decide) (by decide)).mpr (by decide)
  · have hletters : "known".toList.all Char.isAlpha = true := by decide
    refine hunknown.2.2.2.2 none 'i' 's' "known".toList [] (fun c hc => ?_) rfl
      (by unfold IsFlagWord; decide)
    exact isWord_of_isAlpha (List.all_eq_true.mp hletters c hc)

/-- An idle flag is all of this body; it is taken out and nothing is set. -/
theorem Attributes.idle_flag_lost :
    ¬"c:".toList <:+: "is:\u017Ftar".toList ∧ ¬"C:".toList <:+: "is:\u017Ftar".toList ∧
    (Attributes.extract "is:\u017Ftar".toList).2.isEmpty = true ∧
    (Attributes.extract "is:\u017Ftar".toList).1 ≠ "is:\u017Ftar".toList ∧
    none ∈ (takeOut readFlag (withoutFonts "is:\u017Ftar".toList)).2 := by
  decide

end Notebook
