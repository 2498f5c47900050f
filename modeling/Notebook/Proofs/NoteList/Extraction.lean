import Notebook.Proofs.NoteList.Blocks
import Notebook.Proofs.NoteList.Whole

/-!
# What lists a note has

The block pass knows numbered items and steps too, but it is run only on notes with fewer than two
ordered lines. A list that it finds has at least two items, and each of them starts on a line of its
own of the list's kind, so there is nothing left for it to find but bullets.

- `NoteList.WellFormed` — what is true of every list that a note has;
- `NoteList.ofText_wellFormed` — a note has one numbered list or one list of steps, or else nothing
  but lists of bullets.
-/

namespace Notebook

open Text

namespace NoteList

/-! ### Either kind of note -/

theorem ofText_eq_of_whole {content : Text} {list : NoteList} (h : ofWhole? content = some list) :
    ofText content = [list] := by
  rw [ofText, h]

theorem ofText_eq_ofBlocks {content : Text} (h : (lines content).countP isOrderedLine < 2) :
    ofText content = ofBlocks content := by
  rw [ofText, ofWhole?_eq_none_iff.mpr h]

theorem built_ofBlocks {content : Text} {list : NoteList} (h : list ∈ ofBlocks content) :
    Built list ∧ 2 ≤ list.items.length := by
  have hnone : ∀ l ∈ (none : Option NoteList), Built l := nofun
  exact built_ofBlocksFrom (fun _ hl => not_mem_of_mem_lines hl) hnone list h

theorem rawLines_ofBlocks_sublist (content : Text) :
    (rawLines (ofBlocks content)).Sublist (lines content) :=
  rawLines_ofBlocksFrom_sublist none (lines content)

/-! ### No ordered list from blocks -/

/-- The items of a list that is not of bullets start on ordered lines. -/
theorem Built.isOrderedLine {list : NoteList} (h : Built list) (hkind : list.kind ≠ .bullet)
    {item : ListItem} (hitem : item ∈ list.items) : isOrderedLine item.rawLine = true := by
  obtain ⟨start, hstart, hlist⟩ := h.starts item hitem
  have hordered := ItemStart.ordered?_of_any? hstart (hlist ▸ hkind)
  simp [NoteList.isOrderedLine, hordered]

/-- A list that is not of bullets needs as many ordered lines as it has items. -/
theorem length_le_countP_of_mem_ofBlocks {content : Text} {list : NoteList}
    (hmem : list ∈ ofBlocks content) (hkind : list.kind ≠ .bullet) :
    list.items.length ≤ (lines content).countP isOrderedLine := by
  have hall : ∀ l ∈ list.items.map (·.rawLine), isOrderedLine l = true := by
    intro l hl
    obtain ⟨item, hitem, rfl⟩ := List.mem_map.mp hl
    exact (built_ofBlocks hmem).1.isOrderedLine hkind hitem
  -- The lines of one list are among the lines of all lists, and these among the lines of the note.
  have hlist : (list.items.map (·.rawLine)).Sublist (rawLines (ofBlocks content)) :=
    (List.sublist_flatten_of_mem (List.mem_map_of_mem hmem)).map _
  calc list.items.length
      = (list.items.map (·.rawLine)).countP isOrderedLine := by
        rw [List.countP_eq_length.mpr hall, List.length_map]
    _ ≤ (lines content).countP isOrderedLine :=
        (hlist.trans (rawLines_ofBlocks_sublist content)).countP_le

theorem kind_of_mem_ofBlocks {content : Text} (hfew : (lines content).countP isOrderedLine < 2)
    {list : NoteList} (hmem : list ∈ ofBlocks content) : list.kind = .bullet := by
  by_contra hkind
  have htwo := (built_ofBlocks hmem).2
  have hcount := length_le_countP_of_mem_ofBlocks hmem hkind
  omega

/-! ### Well-formed lists -/

/-- What is true of every list that a note has. -/
structure WellFormed (list : NoteList) : Prop where
  two_items : 2 ≤ list.items.length
  positions : ∀ item ∈ list.items, 1 ≤ item.position
  contents : ∀ item ∈ list.items, ∃ c ∈ item.content, isBlank c = false
  bullets : list.kind = .bullet → list.items.length < Nat.pow 2 32 →
    list.items.map (·.position) = List.range' 1 list.items.length

theorem exists_not_blank_of_bare {t : Text} (h : Bare t) (hne : t ≠ []) :
    ∃ c ∈ t, isBlank c = false := by
  obtain ⟨c, rest, rfl⟩ := List.exists_cons_of_ne_nil hne
  exact ⟨c, List.mem_cons_self, h.head c rfl⟩

theorem Built.wellFormed {list : NoteList} (h : Built list) (htwo : 2 ≤ list.items.length) :
    WellFormed list := by
  refine ⟨htwo, fun item hitem => (h.range item hitem).1, fun item hitem => ?_, fun hkind hlt => ?_⟩
  · obtain ⟨hne, hbare, -⟩ := h.contents item hitem
    exact exists_not_blank_of_bare hbare hne
  · rw [h.bullets hkind, List.range'_eq_map_range]
    refine List.map_congr_left fun i hi => ?_
    have hi : i < list.items.length := List.mem_range.mp hi
    have hmax : maxPosition = Nat.pow 2 32 - 1 := rfl
    unfold bulletPosition
    omega

theorem IsGroup.not_blank {group : ItemStart × Text × List Text} (h : IsGroup group) :
    ∃ c ∈ (itemOfGroup group).content, isBlank c = false := by
  obtain ⟨hne, hbare, -⟩ := h.title
  obtain ⟨c, hc, hblank⟩ := exists_not_blank_of_bare hbare hne
  exact ⟨c, mem_unlines List.mem_cons_self hc, hblank⟩

theorem wellFormed_of_whole {content : Text} {list : NoteList} (h : ofWhole? content = some list) :
    WellFormed list ∧ (list.kind = .numbered ∨ list.kind = .step) := by
  obtain ⟨htwo, hitems, first, hfirst, hkind⟩ := ofWhole?_eq_some h
  have hgroup : ∀ item ∈ list.items, ∃ group, IsGroup group ∧ item = itemOfGroup group := by
    intro item hitem
    rw [hitems] at hitem
    obtain ⟨group, hmem, rfl⟩ := List.mem_map.mp hitem
    exact ⟨group, isGroup_of_mem_wholeGroups hmem, rfl⟩
  -- The kind is that of an ordered start, and so nothing is claimed of bullets.
  have hbullet : list.kind ≠ .bullet := by
    rw [hkind]
    exact (ItemStart.takenFrom_of_ordered? (isGroup_of_mem_wholeGroups hfirst).start).2
  refine ⟨⟨?_, ?_, ?_, fun h => absurd h hbullet⟩, ?_⟩
  · rw [hitems, List.length_map]
    exact htwo
  · intro item hitem
    obtain ⟨group, hg, rfl⟩ := hgroup item hitem
    exact hg.position_range.1
  · intro item hitem
    obtain ⟨group, hg, rfl⟩ := hgroup item hitem
    exact hg.not_blank
  · cases hkind : list.kind with
    | numbered => exact Or.inl rfl
    | step => exact Or.inr rfl
    | bullet => exact absurd hkind hbullet

theorem rawLines_of_whole_sublist {content : Text} {list : NoteList}
    (h : ofWhole? content = some list) : (rawLines [list]).Sublist (lines content) := by
  obtain ⟨-, hitems, -⟩ := ofWhole?_eq_some h
  have hlines : rawLines [list] = (lines content).filter isOrderedLine := by
    rw [← map_wholeGroups, rawLines, List.flatMap_singleton, hitems, List.map_map]
    rfl
  rw [hlines]
  exact List.filter_sublist

/-! ### The lists of a note -/

/-- A note with at least two ordered lines is one ordered list. -/
theorem ofText_of_many {content : Text} (h : 2 ≤ (lines content).countP isOrderedLine) :
    ∃ list, ofText content = [list] ∧ (list.kind = .numbered ∨ list.kind = .step) ∧
      WellFormed list ∧ (rawLines [list]).Sublist (lines content) := by
  have hne : ofWhole? content ≠ none := by
    rw [Ne, ofWhole?_eq_none_iff]
    omega
  obtain ⟨list, hwhole⟩ := Option.ne_none_iff_exists'.mp hne
  obtain ⟨hlist, hkind⟩ := wellFormed_of_whole hwhole
  exact ⟨list, ofText_eq_of_whole hwhole, hkind, hlist, rawLines_of_whole_sublist hwhole⟩

/-- A note with fewer ordered lines has lists of bullets only. -/
theorem ofText_of_few {content : Text} (h : (lines content).countP isOrderedLine < 2) :
    (∀ list ∈ ofText content, list.kind = .bullet ∧ WellFormed list) ∧
      (rawLines (ofText content)).Sublist (lines content) := by
  rw [ofText_eq_ofBlocks h]
  refine ⟨fun list hlist => ?_, rawLines_ofBlocks_sublist content⟩
  obtain ⟨hbuilt, htwo⟩ := built_ofBlocks hlist
  exact ⟨kind_of_mem_ofBlocks h hlist, hbuilt.wellFormed htwo⟩

/-- **A note has one numbered list or one list of steps, which is so just if two of its lines or
more are ordered, or else nothing but lists of bullets.** All lists are well-formed, and the lines
that their items start on are lines of the note in its order, each taken once. -/
theorem ofText_wellFormed (content : Text) :
    ((∃ list, ofText content = [list] ∧ (list.kind = .numbered ∨ list.kind = .step)) ↔
        2 ≤ (lines content).countP isOrderedLine) ∧
      ((∃ list, ofText content = [list] ∧ (list.kind = .numbered ∨ list.kind = .step)) ∨
        ∀ list ∈ ofText content, list.kind = .bullet) ∧
      (∀ list ∈ ofText content, WellFormed list) ∧
      (rawLines (ofText content)).Sublist (lines content) := by
  -- With fewer ordered lines there are only bullets, which are in no ordered list.
  by_cases hmany : 2 ≤ (lines content).countP isOrderedLine
  · obtain ⟨list, hlist, hkind, hwellFormed, hlines⟩ := ofText_of_many hmany
    rw [hlist]
    have hone : ∃ l, [list] = [l] ∧ (l.kind = .numbered ∨ l.kind = .step) := ⟨list, rfl, hkind⟩
    refine ⟨iff_of_true hone hmany, Or.inl hone, ?_, hlines⟩
    intro l hl
    rw [List.mem_singleton.mp hl]
    exact hwellFormed
  · obtain ⟨hlists, hlines⟩ := ofText_of_few (not_le.mp hmany)
    refine ⟨iff_of_false ?_ hmany, Or.inr fun list hlist => (hlists list hlist).1,
      fun list hlist => (hlists list hlist).2, hlines⟩
    rintro ⟨list, hlist, hkind⟩
    have hbullet := (hlists list (by simp [hlist])).1
    simp [hbullet] at hkind

/-- One ordered line makes no list, and does not join the bullets above it. -/
example : (NoteList.ofText "- a\n- b\n1. c\n\n* d\nmore\n\u2022 e".toList).map
    (fun list => list.items.map (·.content)) =
      [["a".toList, "b".toList], ["d more".toList, "e".toList]] := by decide

end NoteList

end Notebook
