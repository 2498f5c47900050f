import Mathlib.Data.List.SplitBy
import Notebook.Proofs.NoteList.Blocks
import Notebook.Proofs.NoteList.Whole
import Notebook.Proofs.Text.Gap

/-!
# The block pass as a grouping (specification §4.3, pass B)

The block pass goes through the lines of a note one by one, with an open list that it may close in
three ways. What it finds can be said without it: cut the lines into blocks at the blank ones, cut
every block into groups at the lines that start an item, cut the groups into runs of one kind, and
make a list of every run with at least two of them.

- `NoteList.kindRuns`, `NoteList.runs` — the runs of a block and of several;
- `NoteList.ofRun?` — the list that a run makes;
- `NoteList.openList` — the list that is open behind a run; `ofBlocksFrom_grows` and
  `ofBlocksFrom_opens` say what one group more does, and `ofBlocksFrom_groups` what all of them do;
- `NoteList.ofBlocks_grouping` — the pass finds the lists of the runs, and two texts with two line
  feeds between them have the lists of the one and then those of the other.
-/

namespace Notebook

open Text

namespace NoteList

/-! ### The grouping -/

/-- A group of lines: the start that the first of them is, that line, and those below it. -/
abbrev LineGroup := ItemStart × Text × List Text

/-- The groups of a block, in maximal runs of one kind. The lines in front of the first group belong
to none. -/
def kindRuns (block : List Text) : List (List LineGroup) :=
  (cutAtStarts (ItemStart.any? ∘ trim) block).2.splitBy fun g h => g.1.kind = h.1.kind

/-- The runs of lines: those of their blocks, which blank lines separate. -/
def runs (ls : List Text) : List (List LineGroup) :=
  (ls.splitOnP fun l => trim l = []).flatMap kindRuns

/-- The item of a group: its content is the title and the trimmed lines below with spaces between
them, and it has `position` unless its start says another. -/
def itemOfBlockGroup (position : Nat) (group : LineGroup) : ListItem where
  position := group.1.position.getD position
  content := [' '].intercalate (group.1.title :: group.2.2.map trim)
  rawLine := group.2.1

/-- The items of a run. The `i`-th bullet, counted from zero, gets the position `count i`. -/
def itemsOfRun (count : Nat → Nat) (run : List LineGroup) : List ListItem :=
  run.mapIdx fun i group => itemOfBlockGroup (count i) group

/-- The list that a run makes, if it has at least two groups. -/
def ofRun? (count : Nat → Nat) : List LineGroup → Option NoteList
  | first :: second :: more => some ⟨first.1.kind, itemsOfRun count (first :: second :: more)⟩
  | _ => none

/-- The lists of a note, run by run. -/
def grouped (count : Nat → Nat) (content : Text) : List NoteList :=
  (runs (lines content)).filterMap (ofRun? count)

/-! ### One group -/

/-- A group of a block: a line that starts an item, and lines below it that are neither blank nor
start another. -/
structure IsBlockGroup (group : LineGroup) : Prop where
  start : ItemStart.any? (trim group.2.1) = some group.1
  below : ∀ l ∈ group.2.2, trim l ≠ [] ∧ ItemStart.any? (trim l) = none

/-- The list that is open behind a run. -/
def openList (kind : ListKind) (run : List LineGroup) : NoteList :=
  ⟨kind, itemsOfRun bulletPosition run⟩

theorem continueLastItem_append (line : Text) (items : List ListItem) (item : ListItem) :
    continueLastItem line (items ++ [item]) =
      items ++ [{ item with content := item.content ++ ' ' :: line }] := by
  induction items with
  | nil => rfl
  | cons first items ih =>
    cases items with
    | nil => rfl
    | cons second items => exact congrArg (first :: ·) ih

/-- The lines below a start continue its item, with a space before each. -/
theorem ofBlocksFrom_below {below : List Text}
    (h : ∀ l ∈ below, trim l ≠ [] ∧ ItemStart.any? (trim l) = none) (kind : ListKind)
    (items : List ListItem) (item : ListItem) (rest : List Text) :
    ofBlocksFrom (some ⟨kind, items ++ [item]⟩) (below ++ rest) =
      ofBlocksFrom (some ⟨kind, items ++
        [{ item with content := [' '].intercalate (item.content :: below.map trim) }]⟩) rest := by
  induction below generalizing item with
  | nil =>
    have hsingle : [' '].intercalate [item.content] = item.content := by simp
    rw [List.map_nil, hsingle]
    rfl
  | cons line below ih =>
    obtain ⟨hne, hstart⟩ := h line List.mem_cons_self
    have hreads : Reads line (some ⟨kind, items ++ [item]⟩) []
        (some (continueLast ⟨kind, items ++ [item]⟩ (trim line))) := .continues hne hstart
    -- The first line is joined by the pass and the others by the induction.
    have hjoin : [' '].intercalate ((item.content ++ ' ' :: trim line) :: below.map trim) =
        [' '].intercalate (item.content :: trim line :: below.map trim) := by
      cases below with
      | nil => simp
      | cons l below => simp
    rw [List.cons_append, hreads.pass, List.nil_append, continueLast, continueLastItem_append,
      ih fun l hl => h l (List.mem_cons_of_mem _ hl), hjoin, List.map_cons]

/-- Adding the start of a group to the list behind a run, and then the lines below, gives the list
behind the run with the group. -/
theorem ofBlocksFrom_push {group : LineGroup} (h : IsBlockGroup group) (kind : ListKind)
    (run : List LineGroup) (rest : List Text) :
    ofBlocksFrom (some ((openList kind run).push group.1 group.2.1)) (group.2.2 ++ rest) =
      ofBlocksFrom (some (openList kind (run ++ [group]))) rest := by
  have hlength : (itemsOfRun bulletPosition run).length = run.length := List.length_mapIdx
  have hitems : itemsOfRun bulletPosition (run ++ [group]) =
      itemsOfRun bulletPosition run ++ [itemOfBlockGroup (bulletPosition run.length) group] :=
    List.mapIdx_concat
  rw [openList, push, hlength]
  dsimp only
  rw [ofBlocksFrom_below h.below, openList, hitems]
  rfl

/-- **A group of the open list's kind** goes to the list. -/
theorem ofBlocksFrom_grows {group : LineGroup} (h : IsBlockGroup group) (run : List LineGroup)
    (rest : List Text) :
    ofBlocksFrom (some (openList group.1.kind run)) (groupLines group ++ rest) =
      ofBlocksFrom (some (openList group.1.kind (run ++ [group]))) rest := by
  have hreads : Reads group.2.1 (some (openList group.1.kind run)) []
      (some ((openList group.1.kind run).push group.1 group.2.1)) := .grows h.start rfl
  rw [groupLines, List.cons_append, hreads.pass, List.nil_append, ofBlocksFrom_push h]

/-- **A group of another kind** closes the open list and opens one. -/
theorem ofBlocksFrom_opens {group : LineGroup} (h : IsBlockGroup group)
    {current : Option NoteList} (hkind : ∀ list ∈ current, list.kind ≠ group.1.kind)
    (rest : List Text) :
    ofBlocksFrom current (groupLines group ++ rest) =
      close current ++ ofBlocksFrom (some (openList group.1.kind [group])) rest := by
  have hreads : Reads group.2.1 current (close current)
      (some ((openList group.1.kind []).push group.1 group.2.1)) := .opens h.start hkind
  rw [groupLines, List.cons_append, hreads.pass, ofBlocksFrom_push h]
  rfl

/-! ### All groups -/

/-- A run that ends makes its list, if it makes one. -/
theorem close_openList {kind : ListKind} {run : List LineGroup} (hne : run ≠ [])
    (hkind : ∀ group ∈ run, group.1.kind = kind) :
    close (some (openList kind run)) = [run].filterMap (ofRun? bulletPosition) := by
  match run with
  | [] => exact absurd rfl hne
  | [group] => rfl
  | first :: second :: more =>
    have hlength : 2 ≤ (openList kind (first :: second :: more)).items.length := by
      rw [openList, itemsOfRun, List.length_mapIdx]
      simp
    rw [close, if_pos hlength, List.filterMap_cons, ofRun?, hkind first List.mem_cons_self]
    rfl

/-- Groups of one kind are one run. -/
theorem splitBy_of_kind {kind : ListKind} {run : List LineGroup} (hne : run ≠ [])
    (hkind : ∀ group ∈ run, group.1.kind = kind) :
    (run.splitBy fun g h => g.1.kind = h.1.kind) = [run] := by
  refine List.splitBy_of_isChain hne (List.Pairwise.isChain ?_)
  refine List.pairwise_of_forall_mem_list fun g hg h hh => ?_
  simp [hkind g hg, hkind h hh]

/-- **What the block pass makes of groups**, behind a run of one kind: the groups of that kind in
front go to the run, and what is behind makes runs of its own. -/
theorem ofBlocksFrom_groups {groups : List LineGroup}
    (hgroups : ∀ group ∈ groups, IsBlockGroup group) {kind : ListKind} {run : List LineGroup}
    (hne : run ≠ []) (hkind : ∀ group ∈ run, group.1.kind = kind) :
    ofBlocksFrom (some (openList kind run)) (groups.flatMap groupLines) =
      ((run ++ groups).splitBy fun g h => g.1.kind = h.1.kind).filterMap
        (ofRun? bulletPosition) := by
  induction groups generalizing kind run with
  | nil =>
    rw [List.append_nil, splitBy_of_kind hne hkind, ← close_openList hne hkind]
    rfl
  | cons group groups ih =>
    have hgroup := hgroups group List.mem_cons_self
    have hmore : ∀ g ∈ groups, IsBlockGroup g := fun g hg => hgroups g (List.mem_cons_of_mem _ hg)
    rw [List.flatMap_cons]
    by_cases hsame : group.1.kind = kind
    · have hkind' : ∀ g ∈ run ++ [group], g.1.kind = kind := by
        intro g hg
        rcases List.mem_append.mp hg with hg | hg
        · exact hkind g hg
        · rw [List.mem_singleton.mp hg, hsame]
      subst hsame
      rw [ofBlocksFrom_grows hgroup, ih hmore (by simp) hkind', List.append_assoc]
      rfl
    · -- The run ends here: its list is closed, and this is where the groups are split.
      have hother : ∀ list ∈ some (openList kind run), list.kind ≠ group.1.kind := by
        intro list hlist
        obtain rfl := Option.some.inj hlist
        exact fun heq => hsame heq.symm
      have hcut : ∀ g ∈ run.getLast?, decide (g.1.kind = group.1.kind) = false := by
        intro g hg
        rw [hkind g (List.mem_of_getLast? hg)]
        exact decide_eq_false fun heq => hsame heq.symm
      rw [ofBlocksFrom_opens hgroup hother, List.splitBy_append_cons groups hcut,
        splitBy_of_kind hne hkind, List.filterMap_append, close_openList hne hkind,
        ih hmore (List.cons_ne_nil group []) (by simp)]
      rfl

/-- Without blank lines, the block pass finds the lists of the runs of one block. -/
theorem ofBlocksFrom_block {block : List Text} (h : ∀ l ∈ block, trim l ≠ []) :
    ofBlocksFrom none block = (kindRuns block).filterMap (ofRun? bulletPosition) := by
  have hcut := cut_cutAtStarts (ItemStart.any? ∘ trim) block
  unfold kindRuns
  generalize (cutAtStarts (ItemStart.any? ∘ trim) block).1 = before at hcut
  generalize (cutAtStarts (ItemStart.any? ∘ trim) block).2 = groups at hcut
  have hgroups : ∀ group ∈ groups, IsBlockGroup group := by
    intro group hgroup
    refine ⟨hcut.start group hgroup, fun l hl => ⟨h l ?_, hcut.below group hgroup l hl⟩⟩
    exact hcut.mem_lines hgroup (List.mem_cons_of_mem _ hl)
  rw [hcut.lines, ofBlocksFrom_none_append hcut.before]
  -- The first group opens a list, and the others go on from there.
  cases groups with
  | nil => rfl
  | cons group groups =>
    have hmore : ∀ g ∈ groups, IsBlockGroup g := fun g hg => hgroups g (List.mem_cons_of_mem _ hg)
    rw [List.flatMap_cons, ofBlocksFrom_opens (hgroups group List.mem_cons_self) (by simp),
      ofBlocksFrom_groups hmore (List.cons_ne_nil group []) (by simp)]
    rfl

/-! ### All blocks -/

/-- **The block pass finds the lists of the runs**, block by block. -/
theorem ofBlocksFrom_runs (ls : List Text) :
    ofBlocksFrom none ls = (runs ls).filterMap (ofRun? bulletPosition) := by
  induction ls using pieces_induction fun l => trim l = [] with
  | solid block hblock =>
    rw [runs, List.splitOnP_eq_singleton hblock, List.flatMap_singleton]
    exact ofBlocksFrom_block fun l hl => of_decide_eq_false (hblock l hl)
  | split block line rest hblock hline ih =>
    rw [ofBlocksFrom_append_cons (of_decide_eq_true hline), ih,
      ofBlocksFrom_block fun l hl => of_decide_eq_false (hblock l hl), runs, runs,
      List.splitOnP_append_cons block rest hline, List.splitOnP_eq_singleton hblock,
      List.singleton_append, List.flatMap_cons, List.filterMap_append]

/-- In a run shorter than the positions reach, the bullets are just counted. -/
theorem ofRun?_of_short {run : List LineGroup} (h : run.length < Nat.pow 2 32) :
    ofRun? bulletPosition run = ofRun? (· + 1) run := by
  have hmax : maxPosition = Nat.pow 2 32 - 1 := rfl
  have hitems : itemsOfRun bulletPosition run = itemsOfRun (· + 1) run := by
    refine List.ext_getElem (by simp [itemsOfRun]) fun i hi _ => ?_
    have hlt : i < run.length := by
      rwa [itemsOfRun, List.length_mapIdx] at hi
    have hcount : bulletPosition i = i + 1 := by
      unfold bulletPosition
      omega
    simp only [itemsOfRun, List.getElem_mapIdx, hcount]
  match run with
  | [] => rfl
  | [_] => rfl
  | first :: second :: more => rw [ofRun?, ofRun?, hitems]

/-- **The block pass is a grouping.** It finds exactly the lists of the runs, in their order, with
bullets counted as far as positions reach, and so simply counted in runs that are shorter. In
particular what is above an empty line and what is below it are read apart. -/
theorem ofBlocks_grouping :
    (∀ content, ofBlocks content = grouped bulletPosition content) ∧
    (∀ content, (∀ run ∈ runs (lines content), run.length < Nat.pow 2 32) →
      ofBlocks content = grouped (· + 1) content) ∧
    (∀ front back, front.getLast? ≠ some '\r' →
      ofBlocks (front ++ "\n\n".toList ++ back) = ofBlocks front ++ ofBlocks back) := by
  have hall : ∀ content, ofBlocks content = grouped bulletPosition content :=
    fun content => ofBlocksFrom_runs (lines content)
  refine ⟨hall, fun content hshort => ?_, fun front back hfront => ?_⟩
  · rw [hall]
    exact List.filterMap_congr fun run hrun => ofRun?_of_short (hshort run hrun)
  · obtain ⟨blanks, hblanks, hlines⟩ := exists_lines_between hfront back
    have htrim : ∀ l ∈ blanks, trim l = [] := fun l hl => by rw [hblanks l hl, trim_nil]
    -- The first line feed ends the last line in front, and the second one makes a blank line.
    have htext : front ++ "\n\n".toList ++ back = front ++ '\n' :: '\n' :: back :=
      List.append_assoc front _ back
    show ofBlocksFrom none (lines _) = ofBlocksFrom none (lines front) ++ _
    rw [htext, hlines, ← List.append_assoc, ofBlocksFrom_append_cons trim_nil,
      ofBlocksFrom_append_blank htrim]
    rfl

/-- Bullets, of which one goes on below, and numbers right behind them make two lists; a bullet and
a number in another block make none. -/
theorem ofBlocks_grouping_packing :
    let front := "Trip\n- tent\n  and pegs\n* stove\n4. north\n2. south".toList
    let back := "- rope\n3: west".toList
    (∀ run ∈ runs (lines front), run.length < Nat.pow 2 32) ∧ front.getLast? ≠ some '\r' ∧
      ofBlocks front = grouped bulletPosition front ∧
      ofBlocks (front ++ "\n\n".toList ++ back) =
        [⟨.bullet, [⟨1, "tent and pegs".toList, "- tent".toList⟩,
            ⟨2, "stove".toList, "* stove".toList⟩]⟩,
          ⟨.numbered, [⟨4, "north".toList, "4. north".toList⟩,
            ⟨2, "south".toList, "2. south".toList⟩]⟩] := by
  intro front back
  obtain ⟨hall, hcounted, happend⟩ := ofBlocks_grouping
  have hshort : ∀ run ∈ runs (lines front), run.length < Nat.pow 2 32 := by decide
  have hend : front.getLast? ≠ some '\r' := by decide
  have hback : ofBlocks back = [] := by
    rw [hall]
    decide
  refine ⟨hshort, hend, hall front, ?_⟩
  rw [happend front back hend, hcounted front hshort, hback]
  decide

end NoteList

end Notebook
