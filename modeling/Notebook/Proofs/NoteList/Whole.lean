import Mathlib.Data.List.Basic
import Notebook.NoteList.Extraction
import Notebook.Proofs.NoteList.ItemStart

/-!
# Reading a note as a whole (specification §4.3, pass A)

A note with at least two ordered lines, which start a numbered item or a step, is one list. It is
cut at these lines, and each of them makes an item with the lines up to the next.

- `NoteList.Cut` — how lines are cut at those that start an item; `cut_cutAtStarts` and `Cut.eq` say
  that there is one way to do so, which `cutAtStarts` finds;
- `NoteList.ofWhole?_eq_some`, `ofWhole?_eq_none_iff` — when a note is read as a whole, and the list
  that it is then;
- `NoteList.keptBelow`, `IsGroup.position_range`, `IsGroup.title`, `IsGroup.splitOn_content` — what
  the item of a group has from its lines.
-/

namespace Notebook

open Text

namespace NoteList

/-! ### Cutting at starts -/

section Cut

variable {α : Type} {start? : Text → Option α} {ls before : List Text}
  {groups : List (α × Text × List Text)}

/-- The lines of a group: the one that starts it, and those below. -/
def groupLines (group : α × Text × List Text) : List Text := group.2.1 :: group.2.2

/-- Lines are cut at those that start an item: `before` are those in front of the first, and every
group is one of them with those below it up to the next. -/
structure Cut (start? : Text → Option α) (ls before : List Text)
    (groups : List (α × Text × List Text)) : Prop where
  lines : ls = before ++ groups.flatMap groupLines
  before : ∀ l ∈ before, start? l = none
  start : ∀ group ∈ groups, start? group.2.1 = some group.1
  below : ∀ group ∈ groups, ∀ l ∈ group.2.2, start? l = none

/-- The lines of the groups are lines that were cut. -/
theorem Cut.mem_lines (h : Cut start? ls before groups) {group : α × Text × List Text}
    (hgroup : group ∈ groups) {l : Text} (hl : l ∈ groupLines group) : l ∈ ls := by
  rw [h.lines]
  exact List.mem_append_right _ (List.mem_flatMap.mpr ⟨group, hgroup, hl⟩)

theorem cutAtStarts_cons_none {line : Text} (h : start? line = none) (rest : List Text) :
    cutAtStarts start? (line :: rest) =
      (line :: (cutAtStarts start? rest).1, (cutAtStarts start? rest).2) := by
  simp [cutAtStarts, h]

theorem cutAtStarts_cons_some {line : Text} {a : α} (h : start? line = some a)
    (rest : List Text) : cutAtStarts start? (line :: rest) =
      ([], (a, line, (cutAtStarts start? rest).1) :: (cutAtStarts start? rest).2) := by
  simp [cutAtStarts, h]

theorem cut_cutAtStarts (start? : Text → Option α) (ls : List Text) :
    Cut start? ls (cutAtStarts start? ls).1 (cutAtStarts start? ls).2 := by
  induction ls with
  | nil => exact ⟨rfl, nofun, nofun, nofun⟩
  | cons line rest ih =>
    cases hline : start? line with
    | none =>
      rw [cutAtStarts_cons_none hline]
      exact ⟨congrArg (line :: ·) ih.lines, List.forall_mem_cons.mpr ⟨hline, ih.before⟩, ih.start,
        ih.below⟩
    | some a =>
      rw [cutAtStarts_cons_some hline]
      exact ⟨congrArg (line :: ·) ih.lines, nofun, List.forall_mem_cons.mpr ⟨hline, ih.start⟩,
        List.forall_mem_cons.mpr ⟨ih.before, ih.below⟩⟩

/-- Lines that start nothing belong to what is above them. -/
theorem cutAtStarts_append (h : ∀ l ∈ before, start? l = none) (rest : List Text) :
    cutAtStarts start? (before ++ rest) =
      (before ++ (cutAtStarts start? rest).1, (cutAtStarts start? rest).2) := by
  induction before with
  | nil => rfl
  | cons line before ih =>
    rw [List.cons_append, cutAtStarts_cons_none (h line List.mem_cons_self),
      ih fun l hl => h l (List.mem_cons_of_mem _ hl)]
    rfl

/-- There is one way only to cut lines at those that start an item. -/
theorem Cut.eq (h : Cut start? ls before groups) : cutAtStarts start? ls = (before, groups) := by
  obtain ⟨rfl, hbefore, hstart, hbelow⟩ := h
  have hgroups : cutAtStarts start? (groups.flatMap groupLines) = ([], groups) := by
    clear hbefore
    induction groups with
    | nil => rfl
    | cons group groups ih =>
      obtain ⟨a, line, below⟩ := group
      have hmore := ih (fun g hg => hstart g (List.mem_cons_of_mem _ hg))
        (fun g hg => hbelow g (List.mem_cons_of_mem _ hg))
      have hline : start? line = some a := hstart _ List.mem_cons_self
      -- The lines below go to this start, since the next one is the first of the other groups.
      show cutAtStarts start? (line :: (below ++ groups.flatMap groupLines)) = _
      rw [cutAtStarts_cons_some hline, cutAtStarts_append (hbelow _ List.mem_cons_self), hmore,
        List.append_nil]
  rw [cutAtStarts_append hbefore, hgroups, List.append_nil]

/-- The groups are headed by the lines that start an item, in order. -/
theorem map_cutAtStarts (start? : Text → Option α) (ls : List Text) :
    (cutAtStarts start? ls).2.map (·.2.1) = ls.filter fun l => (start? l).isSome := by
  induction ls with
  | nil => rfl
  | cons line rest ih =>
    cases hline : start? line with
    | none => simp [cutAtStarts_cons_none hline, ih, hline]
    | some a => simp [cutAtStarts_cons_some hline, ih, hline]

end Cut

/-! ### The one list of a note -/

/-- Whether a line starts a numbered item or a step. -/
def isOrderedLine (line : Text) : Bool := (ItemStart.ordered? (trim line)).isSome

/-- The groups of lines that a note is cut into as a whole. -/
def wholeGroups (content : Text) : List (ItemStart × Text × List Text) :=
  (cutAtStarts (ItemStart.ordered? ∘ trim) (lines content)).2

theorem map_wholeGroups (content : Text) :
    (wholeGroups content).map (·.2.1) = (lines content).filter isOrderedLine :=
  map_cutAtStarts _ _

theorem length_wholeGroups (content : Text) :
    (wholeGroups content).length = (lines content).countP isOrderedLine := by
  rw [List.countP_eq_length_filter, ← map_wholeGroups, List.length_map]

/-- A group of a note is an ordered line and others below it. -/
structure IsGroup (group : ItemStart × Text × List Text) : Prop where
  start : ItemStart.ordered? (trim group.2.1) = some group.1
  below : ∀ l ∈ group.2.2, ItemStart.ordered? (trim l) = none
  no_feed : ∀ l ∈ groupLines group, '\n' ∉ l

theorem Cut.isGroup {ls before : List Text} {groups : List (ItemStart × Text × List Text)}
    (h : Cut (ItemStart.ordered? ∘ trim) ls before groups) (hls : ∀ l ∈ ls, '\n' ∉ l)
    {group : ItemStart × Text × List Text} (hgroup : group ∈ groups) : IsGroup group :=
  ⟨h.start group hgroup, h.below group hgroup, fun l hl => hls l (h.mem_lines hgroup hl)⟩

theorem isGroup_of_mem_wholeGroups {content : Text} {group : ItemStart × Text × List Text}
    (h : group ∈ wholeGroups content) : IsGroup group :=
  (cut_cutAtStarts (ItemStart.ordered? ∘ trim) (lines content)).isGroup
    (fun _ hl => not_mem_of_mem_lines hl) h

/-- A note that is read as a whole is the list of its groups. -/
theorem ofWhole?_eq_some {content : Text} {list : NoteList} (h : ofWhole? content = some list) :
    2 ≤ (wholeGroups content).length ∧ list.items = (wholeGroups content).map itemOfGroup ∧
      ∃ group ∈ wholeGroups content, list.kind = group.1.kind := by
  unfold ofWhole? at h
  split at h
  · rename_i first second more hgroups
    obtain rfl := Option.some.inj h
    have hgroups : wholeGroups content = first :: second :: more := hgroups
    rw [hgroups]
    exact ⟨by simp, rfl, first, List.mem_cons_self, rfl⟩
  · cases h

theorem ofWhole?_eq_none_iff {content : Text} :
    ofWhole? content = none ↔ (lines content).countP isOrderedLine < 2 := by
  rw [← length_wholeGroups]
  unfold ofWhole?
  split
  · rename_i first second more hgroups
    have hgroups : wholeGroups content = first :: second :: more := hgroups
    simp [hgroups]
  · rename_i hfew
    refine iff_of_true rfl ?_
    by_contra hlength
    -- With two groups or more the first branch would have been taken.
    match hgroups : wholeGroups content with
    | [] => simp [hgroups] at hlength
    | [_] => simp [hgroups] at hlength
    | first :: second :: more => exact hfew first second more hgroups

/-- A note with at least two ordered lines is read as a whole, as the list of its groups. -/
theorem ofWhole?_of_groups {content : Text} {first : ItemStart × Text × List Text}
    {more : List (ItemStart × Text × List Text)} (h : wholeGroups content = first :: more)
    (hmore : more ≠ []) :
    ofWhole? content = some ⟨first.1.kind, (first :: more).map itemOfGroup⟩ := by
  obtain ⟨second, more, rfl⟩ := List.exists_cons_of_ne_nil hmore
  have hgroups : (cutAtStarts (ItemStart.ordered? ∘ trim) (lines content)).2 =
      first :: second :: more := h
  rw [ofWhole?, hgroups]

/-! ### The item of a group -/

theorem dropBlankEnd_eq_rdropWhile (ls : List Text) : dropBlankEnd ls = ls.rdropWhile blank := by
  refine eq_rdropWhile rfl (fun l rest => ?_) ls
  rw [dropBlankEnd]
  cases dropBlankEnd rest <;> rfl

/-- The lines below the start of an item, as they are kept. -/
def keptBelow (below : List Text) : List Text := dropBlankEnd (below.map trimEnd)

/-- A kept line is one of those below without the white space at its end. -/
theorem exists_of_mem_keptBelow {below : List Text} {l : Text} (h : l ∈ keptBelow below) :
    ∃ m ∈ below, l = trimEnd m := by
  rw [keptBelow, dropBlankEnd_eq_rdropWhile] at h
  obtain ⟨m, hm, rfl⟩ := List.mem_map.mp ((List.rdropWhile_prefix _ _).subset h)
  exact ⟨m, hm, rfl⟩

/-- The last of the kept lines is not blank. -/
theorem not_blank_of_last_keptBelow {below : List Text} {l : Text}
    (h : l ∈ (keptBelow below).getLast?) : blank l = false := by
  rw [keptBelow, dropBlankEnd_eq_rdropWhile] at h
  have hne : (below.map trimEnd).rdropWhile blank ≠ [] := by
    intro hnil
    simp [hnil] at h
  have hlast := List.rdropWhile_last_not blank _ hne
  rw [List.getLast?_eq_getLast_of_ne_nil hne, Option.mem_some_iff] at h
  simpa [h] using hlast

/-- Lines without white space at their ends, of which the last is not blank, are kept as they
are. -/
theorem keptBelow_eq_self {below : List Text} (h : ∀ l ∈ below, trimEnd l = l)
    (hlast : ∀ l ∈ below.getLast?, blank l = false) : keptBelow below = below := by
  have hmap : below.map trimEnd = below := by
    conv => rhs; rw [← List.map_id below]
    exact List.map_congr_left h
  rw [keptBelow, hmap, dropBlankEnd_eq_rdropWhile, List.rdropWhile_eq_self_iff]
  intro hne
  simp [hlast _ (List.getLast?_eq_getLast_of_ne_nil hne)]

section Group

variable {group : ItemStart × Text × List Text} (h : IsGroup group)

include h

/-- An item of a group has the position that its start says. -/
theorem IsGroup.position_eq : group.1.position = some (itemOfGroup group).position := by
  obtain ⟨hstart, hkind⟩ := ItemStart.takenFrom_of_ordered? h.start
  cases hposition : group.1.position with
  | none => exact absurd (hstart.bullet.mpr hposition) hkind
  | some n => simp [itemOfGroup, hposition]

theorem IsGroup.position_range :
    1 ≤ (itemOfGroup group).position ∧ (itemOfGroup group).position ≤ maxPosition := by
  obtain ⟨hstart, -⟩ := ItemStart.takenFrom_of_ordered? h.start
  exact hstart.position _ h.position_eq

theorem IsGroup.title : group.1.title ≠ [] ∧ Bare group.1.title ∧ '\n' ∉ group.1.title := by
  obtain ⟨hstart, -⟩ := ItemStart.takenFrom_of_ordered? h.start
  exact ⟨hstart.title_ne_nil (bare_trim _), hstart.bare_title,
    hstart.not_mem_title (not_mem_trim (h.no_feed _ List.mem_cons_self))⟩

/-- At its line feeds, the text of the item falls into the title and the kept lines. -/
theorem IsGroup.splitOn_content :
    (itemOfGroup group).content.splitOn '\n' = group.1.title :: keptBelow group.2.2 := by
  have hpieces : ∀ l ∈ group.1.title :: keptBelow group.2.2, '\n' ∉ l := by
    refine List.forall_mem_cons.mpr ⟨h.title.2.2, fun l hl => ?_⟩
    obtain ⟨m, hm, rfl⟩ := exists_of_mem_keptBelow hl
    exact not_mem_trimEnd (h.no_feed m (List.mem_cons_of_mem _ hm))
  exact List.splitOn_intercalate '\n' hpieces (List.cons_ne_nil _ _)

end Group

end NoteList

end Notebook
