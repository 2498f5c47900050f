import Notebook.Proofs.NoteList.Entry
import Notebook.Proofs.NoteList.Extraction

/-!
# Reading a list context

The context of an answer shows a list under a heading, as a numbered list. Reading it as a note
gives the items of the list back, at the same positions: the heading starts no item, and a line that
continued an item in the note is still no start of one.

- `NoteList.exists_entries` — the items of every list of a note are the entries of a numbered list,
  lines below their first included;
- `NoteList.ofText_listContext` — the context of the one list of a note has one list, which is
  numbered and has the same items.
-/

namespace Notebook

open Text

/-- What an answer takes from an item: the position it is asked for by, and what it says. -/
def ListItem.answer (item : ListItem) : Nat × Text := (item.position, item.content)

namespace NoteList

/-! ### Answers of a list -/

theorem itemAt?_singleton (list : NoteList) (position : Nat) :
    itemAt? [list] position = list.at? position := by
  rw [itemAt?, List.findSome?_singleton]

/-- What a look-up finds depends on the answers of the items only. -/
theorem map_content_at? (list : NoteList) (position : Nat) :
    (list.at? position).map (·.content) =
      ((list.items.map ListItem.answer).find? fun answer => answer.1 = position).map (·.2) := by
  rw [at?, List.find?_map, Option.map_map]
  rfl

theorem map_render_of_map_answer {items others : List ListItem}
    (h : items.map ListItem.answer = others.map ListItem.answer) :
    items.map ListItem.render = others.map ListItem.render := by
  have hrender : ListItem.render =
      (fun answer => Text.ofNat answer.1 ++ ". ".toList ++ answer.2) ∘ ListItem.answer := rfl
  rw [hrender, ← List.map_map, h, List.map_map]

/-! ### The items of a note as entries -/

/-- The entry that is read from a group of lines. -/
def entryOfGroup (group : ItemStart × Text × List Text) : Entry :=
  ⟨(itemOfGroup group).position, group.1.title, keptBelow group.2.2⟩

theorem answer_entryOfGroup (group : ItemStart × Text × List Text) :
    (entryOfGroup group).item.answer = (itemOfGroup group).answer := rfl

/-- The lines that are kept below a start start nothing themselves. -/
theorem IsGroup.valid_entry {group : ItemStart × Text × List Text} (h : IsGroup group) :
    (entryOfGroup group).Valid where
  position := h.position_range
  title := h.title
  no_feed := by
    intro l hl
    obtain ⟨m, hm, rfl⟩ := exists_of_mem_keptBelow hl
    exact not_mem_trimEnd (h.no_feed m (List.mem_cons_of_mem _ hm))
  no_blank_end := by
    intro l hl
    obtain ⟨m, -, rfl⟩ := exists_of_mem_keptBelow hl
    exact trimEnd_trimEnd m
  not_ordered := by
    intro l hl
    obtain ⟨m, hm, rfl⟩ := exists_of_mem_keptBelow hl
    -- The white space that was dropped at the end of the line is dropped again here.
    rw [trim_trimEnd]
    exact h.below m hm
  last := fun _ hl => not_blank_of_last_keptBelow hl

/-- An item of a block is an entry of one line. -/
theorem answer_oneLine (item : ListItem) :
    (Entry.oneLine item.position item.content).item.answer = item.answer := by
  show (item.position, (Entry.oneLine item.position item.content).content) = _
  rw [Entry.content_oneLine]
  rfl

/-- The items of every list of a note say what entries of a numbered list say. -/
theorem exists_entries {content : Text} {list : NoteList} (h : list ∈ ofText content) :
    ∃ entries : List Entry, (∀ e ∈ entries, e.Valid) ∧ 2 ≤ entries.length ∧
      (entries.map Entry.item).map ListItem.answer = list.items.map ListItem.answer := by
  cases hwhole : ofWhole? content with
  | some whole =>
    rw [ofText_eq_of_whole hwhole, List.mem_singleton] at h
    subst h
    obtain ⟨htwo, hitems, -⟩ := ofWhole?_eq_some hwhole
    refine ⟨(wholeGroups content).map entryOfGroup, ?_, ?_, ?_⟩
    · intro e he
      obtain ⟨group, hgroup, rfl⟩ := List.mem_map.mp he
      exact (isGroup_of_mem_wholeGroups hgroup).valid_entry
    · rwa [List.length_map]
    · simp [hitems, Function.comp_def, answer_entryOfGroup]
  -- The block pass leaves no line break in an item, so its content is one line.
  | none =>
    rw [ofText_eq_ofBlocks (ofWhole?_eq_none_iff.mp hwhole)] at h
    obtain ⟨hbuilt, htwo⟩ := built_ofBlocks h
    refine ⟨list.items.map fun item => Entry.oneLine item.position item.content, ?_, ?_, ?_⟩
    · intro e he
      obtain ⟨item, hitem, rfl⟩ := List.mem_map.mp he
      exact Entry.valid_oneLine (hbuilt.range item hitem) (hbuilt.contents item hitem)
    · rwa [List.length_map]
    · simp [Function.comp_def, answer_oneLine]

/-! ### The context of a list -/

/-- The line that a list stands under. -/
def headLine (kind : ListKind) : Text := '[' :: kind.heading ++ [']']

theorem headLine_not_ordered (kind : ListKind) :
    ItemStart.ordered? (trim (headLine kind)) = none := by
  cases kind <;> decide

theorem isLine_headLine (kind : ListKind) : IsLine (headLine kind) := by
  cases kind <;> exact ⟨by decide, by decide⟩

theorem listContext_singleton (list : NoteList) :
    listContext [list] = unlines ([headLine list.kind] ++ list.items.map ListItem.render) := by
  simp [listContext, NoteList.render, headLine]

/-- **The context of the one list of a note has one list**, which is numbered and has the same items
at the same positions. So a look-up finds the same there, whatever position is asked for. -/
theorem ofText_listContext {content : Text} {list : NoteList} (h : ofText content = [list]) :
    ∃ again, ofText (listContext [list]) = [again] ∧ again.kind = .numbered ∧
      again.items.map ListItem.answer = list.items.map ListItem.answer ∧
      ∀ position, (itemAt? (ofText (listContext [list])) position).map (·.content) =
        (itemAt? (ofText content) position).map (·.content) := by
  have hmem : list ∈ ofText content := h ▸ List.mem_singleton_self list
  -- The context shows answers only, so it is the same for the list and for the entries.
  obtain ⟨entries, hvalid, htwo, hanswers⟩ := exists_entries hmem
  have hcontext : listContext [list] =
      unlines ([headLine list.kind] ++ entries.map Entry.render) := by
    rw [listContext_singleton, ← map_render_of_map_answer hanswers, List.map_map]
    rfl
  have hfront : ∀ l ∈ [headLine list.kind], IsLine l := by
    intro l hl
    rw [List.mem_singleton.mp hl]
    exact isLine_headLine list.kind
  have hplain : ∀ l ∈ [headLine list.kind], ItemStart.ordered? (trim l) = none := by
    intro l hl
    rw [List.mem_singleton.mp hl]
    exact headLine_not_ordered list.kind
  have hagain : ofText (listContext [list]) = [⟨.numbered, entries.map Entry.item⟩] := by
    rw [hcontext]
    exact ofText_entries hvalid hfront hplain htwo
  refine ⟨_, hagain, rfl, hanswers, fun position => ?_⟩
  rw [hagain, h, itemAt?_singleton, itemAt?_singleton, map_content_at?, map_content_at?, hanswers]

/-- Two steps at one position, the second with several lines, one of which is almost a step. -/
theorem ofText_listContext_tea :
    let tea :=
      "Tea\n\nStep 02 - Warm the pot  \n STEP 2: Pour\n\n  - slowly\n\t\nstep 7 now\n\n".toList
    let list : NoteList := ⟨.step, [⟨2, "Warm the pot".toList, "Step 02 - Warm the pot  ".toList⟩,
      ⟨2, "Pour\n\n  - slowly\n\nstep 7 now".toList, " STEP 2: Pour".toList⟩]⟩
    ofText tea = [list] ∧ ∃ again, ofText (listContext [list]) = [again] ∧ again.kind = .numbered ∧
      again.items.map ListItem.answer =
        [(2, "Warm the pot".toList), (2, "Pour\n\n  - slowly\n\nstep 7 now".toList)] := by
  intro tea list
  have hlist : ofText tea = [list] := by decide
  obtain ⟨again, hagain, hkind, hanswers, -⟩ := ofText_listContext hlist
  exact ⟨hlist, again, hagain, hkind, hanswers⟩
end NoteList

end Notebook
