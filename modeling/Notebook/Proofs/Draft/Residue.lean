import Notebook.Draft.Command
import Notebook.Proofs.Draft.Cleanup
import Notebook.Proofs.Draft.Readers

/-!
# What is left of a body

Tags, colors and flags proper are all taken out of a body, and neither the passes behind theirs nor
the cleaning up brings one back:

- `extract_fst` — the text that is left, pass by pass;
- `extract_snd`, `Attributes.extract_sets`, `mem_extract_tags` — what is set, in terms of what
  is taken out;
- `not_occurs_readTag_extract`, `not_occurs_readColor_extract`, `not_occurs_readFlag_extract` —
  it has no tag, no color and no flag;
- `occurrences_tidyBody`, `occurs_tidyBody_iff` — cleaning up keeps it so.

Fonts are different, since a font hands back the key of what follows it.
-/

namespace Notebook

open Text

/-- The text that one kind of flags leaves. -/
theorem takeOut_fst {α : Type} (read : Reader α) (t : Text) :
    (takeOut read t).1 = replaceFrom [' '] read 0 none t := rfl

/-- A body without its tags and colors, as the fonts are looked for in it. -/
def withoutColors (body : Text) : Text := (takeOut readColor (takeOut readTag body).1).1

/-- A body without its tags, colors and fonts. -/
def withoutFonts (body : Text) : Text := (takeOut readFont (withoutColors body)).1

theorem extract_fst (body : Text) :
    (Attributes.extract body).1 = (takeOut readFlag (withoutFonts body)).1 := rfl

theorem extract_fontFamily (body : Text) :
    (Attributes.extract body).2.fontFamily = (takeOut readFont (withoutColors body)).2.head? := rfl

/-! ### No tag, no color, no flag -/

theorem readTag_kept {before : Option Char} {t : Text} {f : Found Text}
    (h : readTag before t = some f) : f.kept = 0 := by
  obtain ⟨c, more, rest, -, -, -, -, rfl⟩ := readTag_eq_some_iff.mp h
  rfl

theorem readColor_kept {before : Option Char} {t : Text} {f : Found (Option Color)}
    (h : readColor before t = some f) : f.kept = 0 := by
  obtain ⟨-, k, w, rest, -, -, -, -, -, rfl⟩ := readColor_eq_some_iff.mp h
  rfl

theorem readFlag_kept {before : Option Char} {t : Text} {f : Found (Option Flag)}
    (h : readFlag before t = some f) : f.kept = 0 := by
  obtain ⟨-, k, s, w, rest, -, -, -, -, -, -, hkept⟩ := readFlag_eq_some h
  exact hkept

/-- What the passes for fonts and flags leave has only what was in the text before them. -/
theorem occurs_of_occurs_extract {α : Type} {read : Reader α} {word : Text → Prop}
    {atStart atEnd : Bool} (h : Spelled read word atStart atEnd) {body : Text}
    (hocc : Occurs read none (Attributes.extract body).1) :
    Occurs read none (withoutColors body) :=
  occurs_of_occurs_replaceFrom h readFont_detached
    (occurs_of_occurs_replaceFrom h readFlag_detached hocc)

/-- **No tag is left.** -/
theorem not_occurs_readTag_extract (body : Text) :
    ¬Occurs readTag none (Attributes.extract body).1 := by
  intro hocc
  have hcolors := occurs_of_occurs_extract readTag_spelled hocc
  have htags := occurs_of_occurs_replaceFrom readTag_spelled readColor_detached hcolors
  exact not_occurs_replaceFrom_self readTag_spelled readTag_detached readTag_kept htags

/-- **No color is left.** -/
theorem not_occurs_readColor_extract (body : Text) :
    ¬Occurs readColor none (Attributes.extract body).1 := by
  intro hocc
  have hcolors := occurs_of_occurs_extract readColor_spelled hocc
  exact not_occurs_replaceFrom_self readColor_spelled readColor_detached readColor_kept hcolors

/-- **No flag is left.** -/
theorem not_occurs_readFlag_extract (body : Text) :
    ¬Occurs readFlag none (Attributes.extract body).1 :=
  not_occurs_replaceFrom_self readFlag_spelled readFlag_detached readFlag_kept

/-! ### What is set -/

/-- Whether a flag is set. -/
def Attributes.sets (a : Attributes) : Flag → Bool
  | .favorite => a.isFavorite
  | .pinned => a.isPinned
  | .confidential => a.isPrivate
  | .hidden => a.isHidden

/-- What is set, pass by pass. -/
theorem extract_snd (body : Text) :
    (Attributes.extract body).2 =
      let tags := TagSet.ofList (takeOut readTag body).2
      let flags := (takeOut readFlag (withoutFonts body)).2.filterMap id
      { tags := if Flag.hidden ∈ flags then tags.insert hiddenTag else tags
        color := (takeOut readColor (takeOut readTag body).1).2.findSome? id
        fontFamily := (takeOut readFont (withoutColors body)).2.head?
        isPinned := Flag.pinned ∈ flags
        isFavorite := Flag.favorite ∈ flags
        isPrivate := Flag.confidential ∈ flags
        isHidden := Flag.hidden ∈ flags } := rfl

/-- A flag is set exactly if one that says so is taken out. -/
theorem Attributes.extract_sets (body : Text) (flag : Flag) :
    (Attributes.extract body).2.sets flag = true ↔
      some flag ∈ (takeOut readFlag (withoutFonts body)).2 := by
  have hvalues : flag ∈ (takeOut readFlag (withoutFonts body)).2.filterMap id ↔
      some flag ∈ (takeOut readFlag (withoutFonts body)).2 := by
    simp only [List.mem_filterMap, id, exists_eq_right]
  rw [← hvalues, extract_snd]
  cases flag <;> simp only [Attributes.sets, decide_eq_true_iff]

/-- The tags are those of the body, with the reserved one for a hidden note. -/
theorem mem_extract_tags {body name : Text} : name ∈ (Attributes.extract body).2.tags ↔
    name ∈ (takeOut readTag body).2 ∨
      name = hiddenTag ∧ (Attributes.extract body).2.isHidden = true := by
  rw [extract_snd]
  simp only [decide_eq_true_iff]
  split
  · rename_i hhidden
    rw [TagSet.mem_insert, TagSet.mem_ofList, and_iff_left hhidden, or_comm]
  · rename_i hhidden
    rw [TagSet.mem_ofList]
    exact (or_iff_left fun h => hhidden h.2).symm

/-! ### Texts without flags of a kind -/

/-- The fonts of a text without tags and colors are those in the text itself. -/
theorem withoutColors_of_not_occurs {t : Text} (htag : ¬Occurs readTag none t)
    (hcolor : ¬Occurs readColor none t) : withoutColors t = t := by
  have htags : (takeOut readTag t).1 = t := replaceFrom_of_not_occurs htag
  rw [withoutColors, htags]
  exact replaceFrom_of_not_occurs hcolor

theorem withoutFonts_of_not_occurs {t : Text} (htag : ¬Occurs readTag none t)
    (hcolor : ¬Occurs readColor none t) (hfont : ¬Occurs readFont none t) : withoutFonts t = t := by
  rw [withoutFonts, withoutColors_of_not_occurs htag hcolor]
  exact replaceFrom_of_not_occurs hfont

/-- Where no tag is set, there is none. -/
theorem not_occurs_readTag_of_tags {body : Text} (h : (Attributes.extract body).2.tags = ∅) :
    ¬Occurs readTag none body := by
  intro hocc
  obtain ⟨name, hname⟩ := List.exists_mem_of_ne_nil _ (found_ne_nil_of_occurs hocc)
  have hmem : name ∈ (Attributes.extract body).2.tags := mem_extract_tags.mpr (Or.inl hname)
  rw [h] at hmem
  exact TagSet.not_mem_empty hmem

/-- A text without tags and colors has a font to set exactly if it has an occurrence of one. -/
theorem fontFamily_ne_none_iff {t : Text} (htag : ¬Occurs readTag none t)
    (hcolor : ¬Occurs readColor none t) :
    (Attributes.extract t).2.fontFamily ≠ none ↔ Occurs readFont none t := by
  rw [extract_fontFamily, withoutColors_of_not_occurs htag hcolor]
  constructor
  · intro h
    by_contra hocc
    refine h ?_
    show (found (scanFrom readFont 0 0 none t)).head? = none
    rw [scanFrom_of_not_occurs hocc, found_map_char]
    rfl
  · intro hocc hnone
    exact found_ne_nil_of_occurs hocc (List.head?_eq_none_iff.mp hnone)

/-! ### The content of a draft -/

/-- Cleaning up changes no occurrence of a spelled reader. -/
theorem occurrences_tidyBody {α : Type} {read : Reader α} {word : Text → Prop}
    {atStart atEnd : Bool} (h : Spelled read word atStart atEnd) (t : Text) :
    occurrences read none (tidyBody t) = occurrences read none t :=
  h.gapLocal.occurrences_eq_of_runs_eq (runs_tidyBody t)

theorem occurs_tidyBody_iff {α : Type} {read : Reader α} {word : Text → Prop}
    {atStart atEnd : Bool} (h : Spelled read word atStart atEnd) (t : Text) :
    Occurs read none (tidyBody t) ↔ Occurs read none t := by
  rw [← not_iff_not, ← occurrences_eq_zero_iff, ← occurrences_eq_zero_iff, occurrences_tidyBody h]

/-- The draft that is made of what follows the keyword. -/
def Draft.ofRest (defaultTitle rest : Text) : Draft :=
  let body := (cutTitle rest).2
  let content := tidyBody (Attributes.extract body).1
  { Draft.bare ((cutTitle rest).1.getD defaultTitle) content with
    attributes := (Attributes.extract body).2, subCommand := SubCommand.ofBody? content }

theorem Draft.ofCommand?_eq (defaultTitle input : Text) :
    Draft.ofCommand? defaultTitle input =
      (afterNewNote? input).map (Draft.ofRest defaultTitle) := by
  unfold Draft.ofCommand?
  cases afterNewNote? input <;> rfl

/-- The content of a draft is what is left of the body of its command, cleaned up. -/
theorem Draft.content_of_ofCommand? {defaultTitle input : Text} {draft : Draft}
    (h : Draft.ofCommand? defaultTitle input = some draft) : ∃ rest,
      afterNewNote? input = some rest ∧
      draft.content = tidyBody (Attributes.extract (cutTitle rest).2).1 := by
  rw [Draft.ofCommand?_eq] at h
  obtain ⟨rest, hrest, rfl⟩ := Option.map_eq_some_iff.mp h
  refine ⟨rest, hrest, ?_⟩
  simp only [Draft.ofRest, Draft.bare]

/-- Every input with the keyword makes a draft. -/
theorem Draft.exists_ofCommand? (defaultTitle : Text) {input rest : Text}
    (h : afterNewNote? input = some rest) :
    ∃ draft, Draft.ofCommand? defaultTitle input = some draft := by
  refine ⟨Draft.ofRest defaultTitle rest, ?_⟩
  rw [Draft.ofCommand?_eq, h, Option.map_some]

/-- The content of a draft has a font to set exactly if what was left of the body has one. -/
theorem fontFamily_tidyBody_ne_none_iff (body : Text) :
    (Attributes.extract (tidyBody (Attributes.extract body).1)).2.fontFamily ≠ none ↔
      Occurs readFont none (Attributes.extract body).1 := by
  have htag : ¬Occurs readTag none (tidyBody (Attributes.extract body).1) := by
    rw [occurs_tidyBody_iff readTag_spelled]
    exact not_occurs_readTag_extract body
  have hcolor : ¬Occurs readColor none (tidyBody (Attributes.extract body).1) := by
    rw [occurs_tidyBody_iff readColor_spelled]
    exact not_occurs_readColor_extract body
  rw [fontFamily_ne_none_iff htag hcolor, occurs_tidyBody_iff readFont_spelled]

end Notebook
