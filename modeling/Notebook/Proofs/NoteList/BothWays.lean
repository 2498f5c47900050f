import Notebook.Proofs.NoteList.Grouping
import Notebook.Proofs.NoteList.Tidied

/-!
# Where both ways of reading agree

A note may be read as a whole and by blocks. Where all its items are numbered, or all are steps, and
they stand in one block, both ways find one list with the same items. Only the lines below the start
of an item are treated differently: they stay lines as a whole, and are put behind one another with
a space between them by blocks.

- `ListItem.onOneLine`, `NoteList.onOneLine` — an item and a list with the lines of every item put
  on one;
- `cutAtStarts_congr` — lines are cut at the same places if the same of them are starts;
- `IsGroup.itemOfBlockGroup_eq` — a group without blank lines makes the same item both ways, up to
  its lines;
- `NoteList.ofBlocks_eq_whole` — so does a note, if the block pass finds nothing else in it.
-/

namespace Notebook

open Text

/-- An item with the lines of its text trimmed and put on one, with a space between them. -/
def ListItem.onOneLine (item : ListItem) : ListItem :=
  { item with content := [' '].intercalate ((item.content.splitOn '\n').map trim) }

/-- A list with the lines of every item on one: the same kind, and as many items, at the same
positions and from the same lines. -/
def NoteList.onOneLine (list : NoteList) : NoteList :=
  { list with items := list.items.map ListItem.onOneLine }

namespace NoteList

/-! ### One block -/

/-- Lines are cut at the same places if the same of them are starts. -/
theorem cutAtStarts_congr {α : Type} {start? other? : Text → Option α} {ls : List Text}
    (h : ∀ l ∈ ls, start? l = other? l) : cutAtStarts start? ls = cutAtStarts other? ls := by
  have hcut := cut_cutAtStarts other? ls
  refine Cut.eq ⟨hcut.lines, fun l hl => ?_, fun group hgroup => ?_, fun group hgroup l hl => ?_⟩
  · rw [h l (hcut.lines ▸ List.mem_append_left _ hl)]
    exact hcut.before l hl
  · rw [h _ (hcut.mem_lines hgroup List.mem_cons_self)]
    exact hcut.start group hgroup
  · rw [h l (hcut.mem_lines hgroup (List.mem_cons_of_mem _ hl))]
    exact hcut.below group hgroup l hl

/-- A group without blank lines makes the same item both ways, up to its lines. -/
theorem IsGroup.itemOfBlockGroup_eq {group : LineGroup} (h : IsGroup group)
    (hbelow : ∀ l ∈ group.2.2, trim l ≠ []) (position : Nat) :
    itemOfBlockGroup position group = (itemOfGroup group).onOneLine := by
  have hkept : keptBelow group.2.2 = group.2.2.map trimEnd := by
    rw [keptBelow, dropBlankEnd_eq_rdropWhile, List.rdropWhile_eq_self_iff]
    intro hne hblank
    obtain ⟨m, hm, hlast⟩ := List.mem_map.mp (List.getLast_mem hne)
    rw [← hlast, blank_iff, trim_trimEnd] at hblank
    exact hbelow m hm hblank
  have hpieces : ((itemOfGroup group).content.splitOn '\n').map trim =
      group.1.title :: group.2.2.map trim := by
    have hends : trim ∘ trimEnd = trim := funext trim_trimEnd
    rw [h.splitOn_content, hkept, List.map_cons, List.map_map, hends,
      trim_eq_self_iff.mpr h.title.2.1]
  rw [itemOfBlockGroup, h.position_eq, ListItem.onOneLine, hpieces]
  rfl

/-- The groups of several lines, which are not blank and start nothing but ordered items. -/
theorem ofBlocksFrom_of_ordered {ls : List Text} {kind : ListKind} (hfeed : ∀ l ∈ ls, '\n' ∉ l)
    (hsolid : ∀ l ∈ ls, trim l ≠ [])
    (hany : ∀ l ∈ ls, ItemStart.any? (trim l) = ItemStart.ordered? (trim l))
    (hkind : ∀ l ∈ ls, ∀ start ∈ ItemStart.ordered? (trim l), start.kind = kind)
    (htwo : 2 ≤ (orderedItems ls).length) :
    ∃ list, ofItems? (orderedItems ls) = some list ∧ list.kind = kind ∧
      ofBlocksFrom none ls = [list.onOneLine] := by
  have hcut := cut_cutAtStarts (ItemStart.ordered? ∘ trim) ls
  have hcongr : cutAtStarts (ItemStart.any? ∘ trim) ls =
      cutAtStarts (ItemStart.ordered? ∘ trim) ls := cutAtStarts_congr hany
  rw [ofBlocksFrom_block hsolid, kindRuns, hcongr]
  unfold orderedItems at htwo ⊢
  generalize (cutAtStarts (ItemStart.ordered? ∘ trim) ls).1 = front at hcut
  generalize (cutAtStarts (ItemStart.ordered? ∘ trim) ls).2 = groups at hcut htwo ⊢
  have hkinds : ∀ group ∈ groups, group.1.kind = kind := fun group hgroup =>
    hkind _ (hcut.mem_lines hgroup List.mem_cons_self) _ (hcut.start group hgroup)
  -- Ordered items take their positions from their lines, whatever the run would number them.
  have hitems : itemsOfRun bulletPosition groups =
      (groups.map itemOfGroup).map ListItem.onOneLine := by
    refine List.ext_getElem (by simp [itemsOfRun]) fun i hi _ => ?_
    have hlt : i < groups.length := by
      rwa [itemsOfRun, List.length_mapIdx] at hi
    have hmem := List.getElem_mem hlt
    simp only [itemsOfRun, List.getElem_mapIdx, List.getElem_map]
    exact (hcut.isGroup hfeed hmem).itemOfBlockGroup_eq
      (fun l hl => hsolid l (hcut.mem_lines hmem (List.mem_cons_of_mem _ hl))) _
  rcases groups with _ | ⟨first, _ | ⟨second, more⟩⟩
  · simp at htwo
  · simp at htwo
  · refine ⟨_, rfl, hkinds first List.mem_cons_self, ?_⟩
    rw [splitBy_of_kind (List.cons_ne_nil _ _) hkinds, List.filterMap_cons, ofRun?, hitems]
    simp [NoteList.onOneLine]

/-! ### A note -/

/-- The lines of a note are those in front of the first ordered one, those from it to the last that
is not blank, and blank ones behind. -/
theorem exists_block (ls : List Text) : ∃ front back,
    ls = front ++ ((ls.dropWhile (!isOrderedLine ·)).rdropWhile blank ++ back) ∧
      (∀ l ∈ front, ItemStart.ordered? (trim l) = none) ∧ ∀ l ∈ back, trim l = [] := by
  refine ⟨ls.takeWhile (!isOrderedLine ·), (ls.dropWhile (!isOrderedLine ·)).rtakeWhile blank, ?_,
    fun l hl => ?_, fun l hl => blank_iff.mp (List.mem_rtakeWhile_imp hl)⟩
  · rw [List.rdropWhile_append_rtakeWhile, List.takeWhile_append_dropWhile]
  · simpa [isOrderedLine] using List.mem_takeWhile_imp hl

/-- **Both ways of reading agree** on a note whose items are all numbered or all steps, at least two
of them, and that has no blank line from the first of them to its last line that is not blank. The
block pass finds nothing but the list that the note is as a whole, with the lines of every item on
one. -/
theorem ofBlocks_eq_whole {content : Text} {kind : ListKind}
    (htwo : 2 ≤ (lines content).countP isOrderedLine)
    (hkind : ∀ l ∈ lines content, ∀ start ∈ ItemStart.ordered? (trim l), start.kind = kind)
    (hbullet : ∀ l ∈ lines content, ∀ start ∈ ItemStart.any? (trim l), start.kind ≠ .bullet)
    (hblank : ∀ l ∈ ((lines content).dropWhile (!isOrderedLine ·)).rdropWhile blank,
      blank l = false) :
    ∃ list, ofWhole? content = some list ∧ list.kind = kind ∧
      ofBlocks content = [list.onOneLine] := by
  have hany : ∀ l ∈ lines content, ItemStart.any? (trim l) = ItemStart.ordered? (trim l) :=
    fun l hl => ItemStart.any?_eq_ordered? (hbullet l hl)
  have hcount : (orderedItems (lines content)).length = (lines content).countP isOrderedLine := by
    rw [← length_wholeGroups]
    exact List.length_map _
  have hfeed : ∀ l ∈ lines content, '\n' ∉ l := fun l hl => not_mem_of_mem_lines hl
  rw [← hcount] at htwo
  rw [ofWhole?_eq_ofItems?, ofBlocks]
  obtain ⟨front, back, hlines, hfront, hback⟩ := exists_block (lines content)
  generalize ((lines content).dropWhile (!isOrderedLine ·)).rdropWhile blank = block at *
  -- What is in front of the block and behind it is passed over both ways.
  have hpassed : ∀ l ∈ front, ItemStart.any? (trim l) = none := by
    intro l hl
    rw [hany l (hlines ▸ List.mem_append_left _ hl)]
    exact hfront l hl
  have hof : ∀ l ∈ block, l ∈ lines content := by
    intro l hl
    rw [hlines]
    exact List.mem_append_right _ (List.mem_append_left _ hl)
  have hitems : orderedItems (lines content) = orderedItems block := by
    rw [hlines, orderedItems_none_append hfront, (orderedItems_append_blank hback block).2]
  have hblocks : ofBlocksFrom none (lines content) = ofBlocksFrom none block := by
    rw [hlines, ofBlocksFrom_none_append hpassed, ofBlocksFrom_append_blank hback]
  rw [hitems] at htwo ⊢
  rw [hblocks]
  refine ofBlocksFrom_of_ordered (fun l hl => hfeed l (hof l hl)) (fun l hl hnil => ?_)
    (fun l hl => hany l (hof l hl)) (fun l hl => hkind l (hof l hl)) htwo
  rw [← blank_iff, hblank l hl] at hnil
  cases hnil

/-- Two steps with lines below, between a headline and blank lines. -/
theorem ofBlocks_eq_whole_tea :
    let note := "Tea\n\n Step 1: boil  \n  water\nSTEP 3 - pour\n(slowly)\n\n \n".toList
    let list : NoteList := ⟨.step, [⟨1, "boil\n  water".toList, " Step 1: boil  ".toList⟩,
      ⟨3, "pour\n(slowly)".toList, "STEP 3 - pour".toList⟩]⟩
    (2 ≤ (lines note).countP isOrderedLine ∧
      (∀ l ∈ lines note, ∀ start ∈ ItemStart.ordered? (trim l), start.kind = .step) ∧
      (∀ l ∈ lines note, ∀ start ∈ ItemStart.any? (trim l), start.kind ≠ .bullet) ∧
      ∀ l ∈ ((lines note).dropWhile (!isOrderedLine ·)).rdropWhile blank, blank l = false) ∧
    ofWhole? note = some list ∧
      ofBlocks note = [⟨.step, [⟨1, "boil water".toList, " Step 1: boil  ".toList⟩,
        ⟨3, "pour (slowly)".toList, "STEP 3 - pour".toList⟩]⟩] := by
  intro note list
  have htwo : 2 ≤ (lines note).countP isOrderedLine := by decide
  have hkind : ∀ l ∈ lines note, ∀ start ∈ ItemStart.ordered? (trim l), start.kind = .step := by
    decide
  have hbullet : ∀ l ∈ lines note, ∀ start ∈ ItemStart.any? (trim l), start.kind ≠ .bullet := by
    decide
  have hblank : ∀ l ∈ ((lines note).dropWhile (!isOrderedLine ·)).rdropWhile blank,
      blank l = false := by decide
  have hlist : ofWhole? note = some list := by decide
  obtain ⟨whole, hwhole, -, hblocks⟩ := ofBlocks_eq_whole htwo hkind hbullet hblank
  -- The list is computed once, and the block pass is not run at all.
  obtain rfl : list = whole := Option.some.inj (hlist.symm.trans hwhole)
  refine ⟨⟨htwo, hkind, hbullet, hblank⟩, hlist, hblocks.trans ?_⟩
  decide

end NoteList

end Notebook
