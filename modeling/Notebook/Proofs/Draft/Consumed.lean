import Notebook.Proofs.Draft.Residue
import Notebook.Proofs.Draft.Words

/-!
# Tags, colors and flags proper are consumed (specification §3, §8)

The content of a draft holds no tag, no color and no flag proper, and taking flags out of it once
more sets none, whatever fonts are still in it. No pass behind the one for tags is to blame for a
flag, because none writes one:

- `WritesNoFlag` — a pass spells no flag that its text does not; `writesNoFlag_takeOut` and
  `writesNoFlag_tidyBody` say that the four passes behind the one for tags do not;
- `Consumed` — what is gone from a content;
- `Draft.flags_consumed` — it is gone from the content of every draft.
-/

namespace Notebook

open Text

/-! ### Passes that write no flag -/

/-- A pass writes no flag: every tag, color and flag proper is spelled in the text that it leaves at
most as often as in the text that it is given. -/
structure WritesNoFlag (pass : Text → Text) : Prop where
  tags : ∀ w, TagWord w → ∀ t, occurrences (readSpelling false false w) none (pass t) ≤
    occurrences (readSpelling false false w) none t
  colors : ∀ w, ColorWord w → ∀ t, occurrences (readSpelling true true w) none (pass t) ≤
    occurrences (readSpelling true true w) none t
  flags : ∀ w, FlagWord w → ∀ t, occurrences (readSpelling true true w) none (pass t) ≤
    occurrences (readSpelling true true w) none t

theorem writesNoFlag_takeOut {α : Type} {read : Reader α} (h : Detached read) :
    WritesNoFlag fun t => (takeOut read t).1 where
  tags _ hw t := occurrences_replaceFrom_le (readTag_spelled.single hw) h 0 none t
  colors _ hw t := occurrences_replaceFrom_le (readColor_spelled.single hw) h 0 none t
  flags _ hw t := occurrences_replaceFrom_le (readFlag_spelled.single hw) h 0 none t

theorem writesNoFlag_tidyBody : WritesNoFlag tidyBody where
  tags _ hw t := (occurrences_tidyBody (readTag_spelled.single hw) t).le
  colors _ hw t := (occurrences_tidyBody (readColor_spelled.single hw) t).le
  flags _ hw t := (occurrences_tidyBody (readFlag_spelled.single hw) t).le

/-- The passes behind the one for tags, in order: colors, fonts, flags proper, cleaning up. -/
def laterPasses : List (Text → Text) :=
  [fun t => (takeOut readColor t).1, fun t => (takeOut readFont t).1,
    fun t => (takeOut readFlag t).1, tidyBody]

/-- What is left of a body and cleaned up is what the later passes make of it without its tags. -/
theorem foldl_laterPasses (body : Text) :
    laterPasses.foldl (fun t pass => pass t) (takeOut readTag body).1 =
      tidyBody (Attributes.extract body).1 := by
  rw [extract_fst, withoutFonts, withoutColors]
  simp only [laterPasses, List.foldl_cons, List.foldl_nil]

theorem writesNoFlag_of_mem_laterPasses : ∀ pass ∈ laterPasses, WritesNoFlag pass := by
  intro pass hpass
  simp only [laterPasses, List.mem_cons, List.not_mem_nil, or_false] at hpass
  rcases hpass with rfl | rfl | rfl | rfl
  · exact writesNoFlag_takeOut readColor_detached
  · exact writesNoFlag_takeOut readFont_detached
  · exact writesNoFlag_takeOut readFlag_detached
  · exact writesNoFlag_tidyBody

/-! ### What is gone -/

/-- What is gone from a content: it has no tag, color or flag proper, and extracting from it sets
neither. -/
structure Consumed (content : Text) : Prop where
  no_tag : ¬Occurs readTag none content
  no_color : ¬Occurs readColor none content
  no_flag : ¬Occurs readFlag none content
  tags : (Attributes.extract content).2.tags = ∅
  color : (Attributes.extract content).2.color = none
  isPinned : (Attributes.extract content).2.isPinned = false
  isFavorite : (Attributes.extract content).2.isFavorite = false
  isPrivate : (Attributes.extract content).2.isPrivate = false
  isHidden : (Attributes.extract content).2.isHidden = false

/-- Without tags, colors and flags proper there is only a font to set. -/
theorem extract_snd_of_not_occurs {t : Text} (htag : ¬Occurs readTag none t)
    (hcolor : ¬Occurs readColor none t) (hflag : ¬Occurs readFlag none t) :
    (Attributes.extract t).2 = { fontFamily := (takeOut readFont t).2.head? } := by
  have hfonts : ¬Occurs readFlag none (takeOut readFont t).1 :=
    fun hocc => hflag (occurs_of_occurs_replaceFrom readFlag_spelled readFont_detached hocc)
  unfold Attributes.extract
  simp only [takeOut_of_not_occurs htag, takeOut_of_not_occurs hcolor,
    takeOut_of_not_occurs hfonts]
  rfl

theorem Consumed.of_not_occurs {t : Text} (htag : ¬Occurs readTag none t)
    (hcolor : ¬Occurs readColor none t) (hflag : ¬Occurs readFlag none t) : Consumed t := by
  have hextract := extract_snd_of_not_occurs htag hcolor hflag
  exact ⟨htag, hcolor, hflag, by rw [hextract], by rw [hextract], by rw [hextract],
    by rw [hextract], by rw [hextract], by rw [hextract]⟩

/-- **Tags, colors and flags proper are consumed**: the content of a draft, which the later passes
make of the body without its tags, has none of them, and no later pass writes one. -/
theorem Draft.flags_consumed {defaultTitle input : Text} {draft : Draft}
    (h : Draft.ofCommand? defaultTitle input = some draft) :
    Consumed draft.content ∧
    (∃ rest, afterNewNote? input = some rest ∧ draft.content =
      laterPasses.foldl (fun t pass => pass t) (takeOut readTag (cutTitle rest).2).1) ∧
    ∀ pass ∈ laterPasses, WritesNoFlag pass := by
  obtain ⟨rest, hrest, hcontent⟩ := Draft.content_of_ofCommand? h
  refine ⟨?_, ⟨rest, hrest, by rw [foldl_laterPasses, hcontent]⟩, writesNoFlag_of_mem_laterPasses⟩
  rw [hcontent]
  -- Cleaning up changes no occurrence, so it is enough that the passes before it leave none.
  apply Consumed.of_not_occurs
  · rw [occurs_tidyBody_iff readTag_spelled]
    exact not_occurs_readTag_extract _
  · rw [occurs_tidyBody_iff readColor_spelled]
    exact not_occurs_readColor_extract _
  · rw [occurs_tidyBody_iff readFlag_spelled]
    exact not_occurs_readFlag_extract _

/-- Flags that run into each other, and what stays of them. -/
theorem Draft.flags_consumed_neighbours :
    ∃ draft, Draft.ofCommand? untitled
        "@new-T || x##to-do-c:red is:is:pin f:A is:hide || f:B || y".toList = some draft ∧
      draft.content = "x :red is: || y".toList ∧ Consumed draft.content ∧
      occurrences (readSpelling true true "is:pin".toList) none (tidyBody draft.content) ≤
        occurrences (readSpelling true true "is:pin".toList) none draft.content := by
  have hdraft : ∃ draft, Draft.ofCommand? untitled
      "@new-T || x##to-do-c:red is:is:pin f:A is:hide || f:B || y".toList = some draft ∧
      draft.content = "x :red is: || y".toList := ⟨_, rfl, by decide⟩
  obtain ⟨draft, hdraft, hcontent⟩ := hdraft
  obtain ⟨hconsumed, -, hpasses⟩ := Draft.flags_consumed hdraft
  have hword : FlagWord "is:pin".toList :=
    ⟨'i', 's', "pin".toList, rfl, by decide, by decide, by unfold IsFlagWord; decide⟩
  exact ⟨draft, hdraft, hcontent, hconsumed,
    (hpasses tidyBody (by simp [laterPasses])).flags _ hword draft.content⟩

end Notebook
