import Notebook.Proofs.NoteList.Whole

/-!
# Entries of a numbered list

A numbered list is written with one entry below the other, each with its number in front.

- `Entry` — a position and the lines of a text; `Entry.render` writes it, `Entry.item` is the item
  that is read;
- `Entry.Valid` — what the lines must be like, so that the first starts an item and the others
  belong to it; `Entry.isGroup` says that they do, and `Entry.valid_oneLine` is about a line alone;
- `NoteList.ofText_entries` — entries that are written come back, as one numbered list.
-/

namespace Notebook

open Text

/-- An entry of a numbered list: its position, its first line without the number, and the lines
below. -/
structure Entry where
  position : Nat
  title : Text
  below : List Text

namespace Entry

/-- What an entry says. -/
def content (e : Entry) : Text := unlines (e.title :: e.below)

/-- An entry with its number in front. -/
def render (e : Entry) : Text := Text.ofNat e.position ++ ". ".toList ++ e.content

/-- The first line of an entry, with the number. -/
def firstLine (e : Entry) : Text := Text.ofNat e.position ++ ". ".toList ++ e.title

/-- The lines of an entry. -/
def rows (e : Entry) : List Text := e.firstLine :: e.below

/-- The item that an entry is read as. -/
def item (e : Entry) : ListItem := ⟨e.position, e.content, e.firstLine⟩

/-- The lines of an entry as a group, with the start of the first. -/
def group (e : Entry) : ItemStart × Text × List Text :=
  (⟨.numbered, some e.position, e.title⟩, e.firstLine, e.below)

/-- What the lines of an entry must be like. -/
structure Valid (e : Entry) : Prop where
  position : 1 ≤ e.position ∧ e.position ≤ maxPosition
  title : e.title ≠ [] ∧ Bare e.title ∧ '\n' ∉ e.title
  no_feed : ∀ l ∈ e.below, '\n' ∉ l
  no_blank_end : ∀ l ∈ e.below, trimEnd l = l
  not_ordered : ∀ l ∈ e.below, ItemStart.ordered? (trim l) = none
  last : ∀ l ∈ e.below.getLast?, blank l = false

theorem render_eq_unlines (e : Entry) : e.render = unlines e.rows := by
  show Text.ofNat e.position ++ ". ".toList ++ unlines (e.title :: e.below) = _
  rw [← unlines_append_cons]
  rfl

/-! ### Entries of one line -/

/-- An entry of one line. -/
def oneLine (position : Nat) (t : Text) : Entry := ⟨position, t, []⟩

@[simp] theorem content_oneLine (position : Nat) (t : Text) :
    (oneLine position t).content = t := unlines_singleton t

theorem rows_oneLine (position : Nat) (t : Text) :
    (oneLine position t).rows = [(oneLine position t).render] := by
  rw [render, content_oneLine]
  rfl

theorem valid_oneLine {position : Nat} {t : Text}
    (hposition : 1 ≤ position ∧ position ≤ maxPosition)
    (ht : t ≠ [] ∧ Bare t ∧ '\n' ∉ t) : (oneLine position t).Valid where
  position := hposition
  title := ht
  no_feed := nofun
  no_blank_end := nofun
  not_ordered := nofun
  last := nofun

/-! ### A valid entry is a group -/

section Valid

variable {e : Entry} (h : e.Valid)

include h

theorem bare_firstLine : Bare e.firstLine where
  head := by
    intro c hc
    rw [firstLine, List.append_assoc, List.head?_append_of_ne_nil _ (ofNat_ne_nil _)] at hc
    exact isBlank_of_isDigit (isDigit_of_mem_ofNat (List.mem_of_mem_head? hc))
  last := by
    intro c hc
    rw [firstLine, List.getLast?_append_of_ne_nil _ h.title.1] at hc
    exact h.title.2.1.last c hc

theorem isLine_of_mem_rows {l : Text} (hl : l ∈ e.rows) : IsLine l := by
  rcases List.mem_cons.mp hl with rfl | hl
  · refine IsLine.of_trimEnd ?_ (trimEnd_eq_self (bare_firstLine h).last)
    have hdigits : '\n' ∉ Text.ofNat e.position := by
      intro hmem
      have hdigit := isDigit_of_mem_ofNat hmem
      revert hdigit
      decide
    simp [firstLine, hdigits, h.title.2.2]
  · exact IsLine.of_trimEnd (h.no_feed l hl) (h.no_blank_end l hl)

theorem isGroup : NoteList.IsGroup e.group where
  start := by
    show ItemStart.ordered? (trim e.firstLine) = _
    rw [trim_eq_self_iff.mpr (bare_firstLine h)]
    exact ItemStart.ordered?_render h.position.1 h.position.2 h.title.2.1
  below := h.not_ordered
  no_feed := fun _ hl => (isLine_of_mem_rows h hl).no_feed

/-- The last line of an entry is not empty. -/
theorem not_nil_of_last_rows : [] ∉ e.rows.getLast? := by
  by_cases hnil : e.below = []
  · rw [rows, hnil, List.getLast?_singleton, Option.mem_some_iff]
    simp [firstLine]
  · rw [rows, List.getLast?_cons_of_ne_nil hnil]
    intro hlast
    have hblank := h.last [] hlast
    cases hblank

theorem itemOfGroup_group : NoteList.itemOfGroup e.group = e.item := by
  have hkept : NoteList.keptBelow e.below = e.below :=
    NoteList.keptBelow_eq_self h.no_blank_end h.last
  show ListItem.mk e.position (unlines (e.title :: NoteList.keptBelow e.below)) e.firstLine = _
  rw [hkept]
  rfl

end Valid

end Entry

/-! ### A list of entries -/

namespace NoteList

section Entries

variable {entries : List Entry} (h : ∀ e ∈ entries, e.Valid)

include h

theorem isGroup_of_mem_entries {group : ItemStart × Text × List Text}
    (hgroup : group ∈ entries.map Entry.group) : IsGroup group := by
  obtain ⟨e, he, rfl⟩ := List.mem_map.mp hgroup
  exact Entry.isGroup (h e he)

theorem map_itemOfGroup_entries :
    (entries.map Entry.group).map itemOfGroup = entries.map Entry.item := by
  rw [List.map_map]
  exact List.map_congr_left fun e he => Entry.itemOfGroup_group (h e he)

/-- Entries stand on the lines that they are written on. -/
theorem lines_entries {front : List Text} (hfront : ∀ l ∈ front, IsLine l) (hne : entries ≠ []) :
    lines (unlines (front ++ entries.map Entry.render)) = front ++ entries.flatMap Entry.rows := by
  have hrows : ∀ e ∈ entries, e.rows ≠ [] := fun _ _ => List.cons_ne_nil _ _
  have hsame : unlines (front ++ entries.map Entry.render) =
      unlines (front ++ entries.flatMap Entry.rows) := by
    rw [unlines_append_flatMap front hrows, funext Entry.render_eq_unlines]
  -- A last line that is empty would be lost, but an entry never ends in one.
  rw [hsame]
  refine lines_unlines ?_ ?_
  · intro l hl
    rcases List.mem_append.mp hl with hl | hl
    · exact hfront l hl
    · obtain ⟨e, he, hl⟩ := List.mem_flatMap.mp hl
      exact Entry.isLine_of_mem_rows (h e he) hl
  · obtain ⟨before, e, rfl⟩ := (List.eq_nil_or_concat entries).resolve_left hne
    have he : e ∈ before.concat e := by simp
    rw [List.concat_eq_append, List.flatMap_append, List.flatMap_singleton, ← List.append_assoc,
      List.getLast?_append_of_ne_nil _ (hrows e he)]
    exact Entry.not_nil_of_last_rows (h e he)

/-- **Entries that are written come back**, as one numbered list, whatever lines without numbers
stand in front of them. -/
theorem ofText_entries {front : List Text} (hfront : ∀ l ∈ front, IsLine l)
    (hplain : ∀ l ∈ front, ItemStart.ordered? (trim l) = none) (htwo : 2 ≤ entries.length) :
    ofText (unlines (front ++ entries.map Entry.render)) =
      [⟨.numbered, entries.map Entry.item⟩] := by
  have hne : entries ≠ [] := by
    rintro rfl
    simp at htwo
  have hgroups : ∀ group ∈ entries.map Entry.group, IsGroup group :=
    fun _ hgroup => isGroup_of_mem_entries h hgroup
  -- The groups of the lines are the entries, since only the first line of an entry starts an item.
  have hcut : Cut (ItemStart.ordered? ∘ trim) (front ++ entries.flatMap Entry.rows) front
      (entries.map Entry.group) := by
    refine ⟨?_, hplain, fun g hg => (hgroups g hg).start, fun g hg => (hgroups g hg).below⟩
    rw [List.flatMap_map]
    rfl
  have hwhole : wholeGroups (unlines (front ++ entries.map Entry.render)) =
      entries.map Entry.group := by
    rw [wholeGroups, lines_entries h hfront hne, hcut.eq]
  obtain ⟨first, more, rfl⟩ := List.exists_cons_of_ne_nil hne
  have hmore : more.map Entry.group ≠ [] := by
    rintro hnil
    rw [List.map_eq_nil_iff.mp hnil] at htwo
    simp at htwo
  rw [ofText, ofWhole?_of_groups hwhole hmore]
  show [NoteList.mk .numbered (((first :: more).map Entry.group).map itemOfGroup)] = _
  rw [map_itemOfGroup_entries h]

end Entries

end NoteList

end Notebook
