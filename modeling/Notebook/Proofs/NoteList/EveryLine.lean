import Mathlib.Data.List.Forall2
import Notebook.Proofs.NoteList.Whole

/-!
# Every line of a note in one item

A note that is read as a whole is cut at its ordered lines, and every item is read from one of them
and the lines up to the next. Nothing is lost, doubled or moved on the way: what the items have,
taken together and in their order, is what the note has from its first ordered line on, up to blank
lines and the white space at the ends of lines.

- `ListItem.ReadFrom` — what an item has from a group of lines;
- `ListItem.keptLines`, `solidLines` — the lines that an item keeps, and those of several that are
  not blank;
- `solidLines_keptLines` — a group and its item have the same lines that are not blank;
- `NoteList.ofWhole?_keeps_lines` — and so have a note and its items.
-/

namespace Notebook

open Text

/-! ### Lines and items -/

/-- What an item has from a group of lines: the position that is written in the first of them, that
line as it stands, and a text. The text is the title and below it the other lines, without the white
space at their ends, up to the last of them that is not blank. -/
structure ListItem.ReadFrom (item : ListItem) (group : ItemStart × Text × List Text) : Prop where
  position : group.1.position = some item.position
  rawLine : item.rawLine = group.2.1
  pieces : item.content.splitOn '\n' =
    group.1.title :: (group.2.2.map trimEnd).rdropWhile blank

/-- The lines of a note that an item keeps: the one it starts on, and those of its text below the
first. -/
def ListItem.keptLines (item : ListItem) : List Text :=
  item.rawLine :: (item.content.splitOn '\n').tail

/-- The lines that are not blank, without the white space at their ends. -/
def solidLines (ls : List Text) : List Text := (ls.map trimEnd).filter (!blank ·)

theorem solidLines_append (ls ms : List Text) :
    solidLines (ls ++ ms) = solidLines ls ++ solidLines ms := by
  rw [solidLines, List.map_append, List.filter_append]
  rfl

theorem solidLines_flatMap {α : Type} (f : α → List Text) (xs : List α) :
    solidLines (xs.flatMap f) = xs.flatMap fun x => solidLines (f x) := by
  induction xs with
  | nil => rfl
  | cons x xs ih => rw [List.flatMap_cons, solidLines_append, ih, List.flatMap_cons]

/-- Blank lines at the end are not among those that are not blank. -/
theorem filter_rdropWhile_blank (ls : List Text) :
    (ls.rdropWhile blank).filter (!blank ·) = ls.filter (!blank ·) := by
  have hdropped : (ls.rtakeWhile blank).filter (!blank ·) = [] := by
    refine List.filter_eq_nil_iff.mpr fun l hl => ?_
    simp [List.mem_rtakeWhile_imp hl]
  conv => rhs; rw [← List.rdropWhile_append_rtakeWhile (p := blank) (l := ls)]
  rw [List.filter_append, hdropped, List.append_nil]

namespace NoteList

/-! ### One group -/

theorem IsGroup.readFrom {group : ItemStart × Text × List Text} (h : IsGroup group) :
    (itemOfGroup group).ReadFrom group where
  position := h.position_eq
  rawLine := rfl
  pieces := by rw [h.splitOn_content, keptBelow, dropBlankEnd_eq_rdropWhile]

/-- An item keeps every line of the group it is read from that is not blank. -/
theorem solidLines_keptLines {item : ListItem} {group : ItemStart × Text × List Text}
    (h : item.ReadFrom group) : solidLines item.keptLines = solidLines (groupLines group) := by
  have hbelow : solidLines ((group.2.2.map trimEnd).rdropWhile blank) =
      solidLines group.2.2 := by
    have hends : ((group.2.2.map trimEnd).rdropWhile blank).map trimEnd =
        (group.2.2.map trimEnd).rdropWhile blank := by
      conv => rhs; rw [← List.map_id ((group.2.2.map trimEnd).rdropWhile blank)]
      refine List.map_congr_left fun l hl => ?_
      obtain ⟨m, -, rfl⟩ := List.mem_map.mp ((List.rdropWhile_prefix _ _).subset hl)
      exact trimEnd_trimEnd m
    rw [solidLines, hends, filter_rdropWhile_blank]
    rfl
  rw [ListItem.keptLines, h.pieces, h.rawLine, List.tail_cons, groupLines,
    ← List.singleton_append, solidLines_append, hbelow, ← solidLines_append]
  rfl

/-! ### A note -/

/-- The lines of a note from the first ordered one on are those of its groups. -/
theorem Cut.dropWhile_eq {ls front : List Text} {groups : List (ItemStart × Text × List Text)}
    (h : Cut (ItemStart.ordered? ∘ trim) ls front groups) :
    ls.dropWhile (!isOrderedLine ·) = groups.flatMap groupLines := by
  have hfront : ∀ l ∈ front, (!isOrderedLine l) = true := by
    intro l hl
    have hnone : ItemStart.ordered? (trim l) = none := h.before l hl
    rw [isOrderedLine, hnone]
    rfl
  rw [h.lines, List.dropWhile_append_of_pos hfront]
  cases groups with
  | nil => rfl
  | cons group groups =>
    have hstart : ItemStart.ordered? (trim group.2.1) = some group.1 :=
      h.start group List.mem_cons_self
    have hordered : isOrderedLine group.2.1 = true := by rw [isOrderedLine, hstart]; rfl
    exact List.dropWhile_cons_of_neg (by simp [hordered])

/-- **The items of a note that is read as a whole have all its lines** from the first ordered one
on. They start on its ordered lines, of which there are at least two; each has the position and the
title that are written in its line, with the lines up to the next ordered one below, and the first
decides the kind of the list. So every line that is not blank is kept in one item, and these lines
stand in the items, one behind the other, as in the note. -/
theorem ofWhole?_keeps_lines {content : Text} {list : NoteList}
    (h : ofWhole? content = some list) :
    (list.items.map (·.rawLine) = (lines content).filter isOrderedLine ∧
        2 ≤ list.items.length) ∧
      (∃ front groups, Cut (ItemStart.ordered? ∘ trim) (lines content) front groups ∧
        groups.head?.map (·.1.kind) = some list.kind ∧
        List.Forall₂ ListItem.ReadFrom list.items groups) ∧
      solidLines (list.items.flatMap ListItem.keptLines) =
        solidLines ((lines content).dropWhile (!isOrderedLine ·)) := by
  obtain ⟨htwo, hitems, -⟩ := ofWhole?_eq_some h
  have hcut := cut_cutAtStarts (ItemStart.ordered? ∘ trim) (lines content)
  have hread : List.Forall₂ ListItem.ReadFrom list.items (wholeGroups content) := by
    rw [hitems, List.forall₂_map_left_iff, List.forall₂_same]
    exact fun group hgroup => (isGroup_of_mem_wholeGroups hgroup).readFrom
  -- With fewer than two groups the note would not be read as a whole.
  have hkind : (wholeGroups content).head?.map (·.1.kind) = some list.kind := by
    match hgroups : wholeGroups content with
    | [] => simp [hgroups] at htwo
    | [_] => simp [hgroups] at htwo
    | first :: second :: more =>
      rw [ofWhole?_of_groups hgroups (List.cons_ne_nil _ _)] at h
      obtain rfl := Option.some.inj h
      rfl
  refine ⟨⟨?_, ?_⟩, ⟨_, _, hcut, hkind, hread⟩, ?_⟩
  · rw [← map_wholeGroups, hitems, List.map_map]
    rfl
  · rw [hitems, List.length_map]
    exact htwo
  · rw [hcut.dropWhile_eq, solidLines_flatMap, solidLines_flatMap, hitems, List.flatMap_map]
    refine List.flatMap_congr fun group hgroup => ?_
    exact solidLines_keptLines (isGroup_of_mem_wholeGroups hgroup).readFrom

/-- Two items with blank lines inside and at their ends, under a line that belongs to none. -/
theorem ofWhole?_keeps_lines_dough :
    let note := "Bread\n 2) Mix \n\n\twater  \n\nStep 02 - Knead\n\n".toList
    let list : NoteList := ⟨.numbered, [⟨2, "Mix\n\n\twater".toList, " 2) Mix ".toList⟩,
      ⟨2, "Knead".toList, "Step 02 - Knead".toList⟩]⟩
    ofWhole? note = some list ∧
      list.items.map (·.rawLine) = (lines note).filter isOrderedLine ∧
      (∃ front groups, Cut (ItemStart.ordered? ∘ trim) (lines note) front groups ∧
        List.Forall₂ ListItem.ReadFrom list.items groups) ∧
      solidLines ((lines note).dropWhile (!isOrderedLine ·)) =
        [" 2) Mix".toList, "\twater".toList, "Step 02 - Knead".toList] := by
  intro note list
  have hlist : ofWhole? note = some list := by decide
  obtain ⟨⟨hlines, -⟩, ⟨front, groups, hcut, -, hread⟩, hsolid⟩ := ofWhole?_keeps_lines hlist
  exact ⟨hlist, hlines, ⟨front, groups, hcut, hread⟩, by rw [← hsolid]; decide⟩

end NoteList

end Notebook
