import Mathlib.Data.List.Basic
import Notebook.NoteList.Extraction
import Notebook.Proofs.NoteList.ItemStart

/-!
# Reading a note by blocks (specification §4.3, pass B)

The block pass goes through the lines of a note with at most one list open.

- `NoteList.Reads` — what a line can do: it closes the open list, opens another, adds an item to the
  open list or continues its last item; `exists_reads` says that every line does one of these, and
  `Reads.pass` that a pass does nothing else;
- `NoteList.ofBlocksFrom_append_cons` — what is above a blank line and what is below it are read
  apart;
- `NoteList.Built` — what is true of an open list, whatever lines have been read;
- `Reads.built`, `built_ofBlocksFrom` — every line keeps it true, so it is true of every list found;
- `Reads.rawLines_sublist`, `rawLines_ofBlocksFrom_sublist` — no line makes more than one item, and
  the items stand in the order of their lines.
-/

namespace Notebook

open Text

namespace NoteList

/-! ### What a line does -/

/-- What a line does below the open list, if one is open: the lists that it closes, and the list
that is open then. -/
inductive Reads (line : Text) : Option NoteList → List NoteList → Option NoteList → Prop
  | blank {current : Option NoteList} : trim line = [] → Reads line current (close current) none
  | opens {current : Option NoteList} {start : ItemStart} :
      ItemStart.any? (trim line) = some start → (∀ list ∈ current, list.kind ≠ start.kind) →
      Reads line current (close current) (some (push ⟨start.kind, []⟩ start line))
  | grows {list : NoteList} {start : ItemStart} :
      ItemStart.any? (trim line) = some start → list.kind = start.kind →
      Reads line (some list) [] (some (list.push start line))
  | continues {current : Option NoteList} : trim line ≠ [] → ItemStart.any? (trim line) = none →
      Reads line current [] (current.map (·.continueLast (trim line)))

/-- What a line does is all that a pass does with it, whatever lines are below. -/
theorem Reads.pass {line : Text} {current next : Option NoteList} {closed : List NoteList}
    (h : Reads line current closed next) (rest : List Text) :
    ofBlocksFrom current (line :: rest) = closed ++ ofBlocksFrom next rest := by
  have hstarts : ∀ start, ItemStart.any? (trim line) = some start → trim line ≠ [] := by
    intro start hstart hnil
    rw [hnil] at hstart
    cases hstart
  cases h with
  | blank hblank => simp [ofBlocksFrom, hblank]
  | opens hstart hkind =>
    cases current with
    | none => simp [ofBlocksFrom, hstarts _ hstart, hstart, close]
    | some list => simp [ofBlocksFrom, hstarts _ hstart, hstart, hkind list rfl]
  | grows hstart hkind => simp [ofBlocksFrom, hstarts _ hstart, hstart, hkind]
  | continues hne hstart => simp [ofBlocksFrom, hne, hstart]

/-- A pass reads its first line, and goes on below the list that is open then. -/
theorem exists_reads (current : Option NoteList) (line : Text) (rest : List Text) :
    ∃ closed next, Reads line current closed next ∧
      ofBlocksFrom current (line :: rest) = closed ++ ofBlocksFrom next rest := by
  suffices ∃ closed next, Reads line current closed next by
    obtain ⟨closed, next, hreads⟩ := this
    exact ⟨closed, next, hreads, hreads.pass rest⟩
  by_cases hblank : trim line = []
  · exact ⟨_, _, .blank hblank⟩
  · cases hstart : ItemStart.any? (trim line) with
    | none => exact ⟨_, _, .continues hblank hstart⟩
    | some start =>
      cases current with
      | none => exact ⟨_, _, .opens hstart nofun⟩
      | some list =>
        by_cases hkind : list.kind = start.kind
        · exact ⟨_, _, .grows hstart hkind⟩
        · exact ⟨_, _, .opens hstart (by simpa using hkind)⟩

/-- A blank line closes the open list, and what is below it is read with none open. -/
theorem ofBlocksFrom_append_cons {line : Text} (h : trim line = []) (current : Option NoteList)
    (ls rest : List Text) :
    ofBlocksFrom current (ls ++ line :: rest) =
      ofBlocksFrom current ls ++ ofBlocksFrom none rest := by
  induction ls generalizing current with
  | nil => exact (Reads.blank h).pass rest
  | cons first ls ih =>
    obtain ⟨closed, next, hreads, hpass⟩ := exists_reads current first ls
    rw [List.cons_append, hreads.pass, ih, hpass, List.append_assoc]

/-- Lines that start nothing, blank or not, are passed over when no list is open. -/
theorem ofBlocksFrom_none_append {before : List Text}
    (h : ∀ l ∈ before, ItemStart.any? (trim l) = none) (rest : List Text) :
    ofBlocksFrom none (before ++ rest) = ofBlocksFrom none rest := by
  induction before with
  | nil => rfl
  | cons line before ih =>
    have hreads : Reads line none [] none := by
      by_cases hblank : trim line = []
      · exact .blank hblank
      · exact .continues hblank (h line List.mem_cons_self)
    rw [List.cons_append, hreads.pass, List.nil_append]
    exact ih fun l hl => h l (List.mem_cons_of_mem _ hl)

/-- Blank lines are such lines. -/
theorem ofBlocksFrom_blank_append {front : List Text} (h : ∀ l ∈ front, trim l = [])
    (ls : List Text) : ofBlocksFrom none (front ++ ls) = ofBlocksFrom none ls := by
  refine ofBlocksFrom_none_append (fun l hl => ?_) ls
  rw [h l hl]
  rfl

/-- Blank lines at the end close the open list, as the end does. -/
theorem ofBlocksFrom_append_blank {back : List Text} (h : ∀ l ∈ back, trim l = [])
    (current : Option NoteList) (ls : List Text) :
    ofBlocksFrom current (ls ++ back) = ofBlocksFrom current ls := by
  cases back with
  | nil => rw [List.append_nil]
  | cons l back =>
    have hrest := ofBlocksFrom_blank_append (fun m hm => h m (List.mem_cons_of_mem _ hm)) []
    rw [List.append_nil] at hrest
    rw [ofBlocksFrom_append_cons (h l List.mem_cons_self), hrest]
    exact List.append_nil _

theorem mem_close {current : Option NoteList} {list : NoteList} :
    list ∈ close current ↔ current = some list ∧ 2 ≤ list.items.length := by
  cases current with
  | none => simp [close]
  | some l =>
    by_cases h : 2 ≤ l.items.length
    · simp only [close, if_pos h, List.mem_singleton, Option.some.injEq]
      constructor
      · rintro rfl
        exact ⟨rfl, h⟩
      · rintro ⟨rfl, -⟩
        rfl
    · simp only [close, if_neg h, List.not_mem_nil, Option.some.injEq, false_iff]
      rintro ⟨rfl, h'⟩
      exact h h'

/-! ### Continuing the last item -/

/-- Every item of a list whose last item is continued was there, if not as long. -/
theorem mem_continueLastItem {line : Text} {items : List ListItem} {item : ListItem}
    (h : item ∈ continueLastItem line items) : item ∈ items ∨
      ∃ old ∈ items, item = { old with content := old.content ++ ' ' :: line } := by
  induction items using continueLastItem.induct with
  | case1 => exact Or.inl h
  | case2 last =>
    rw [continueLastItem, List.mem_singleton] at h
    exact Or.inr ⟨last, List.mem_singleton_self last, h⟩
  | case3 first next more ih =>
    rw [continueLastItem] at h
    rcases List.mem_cons.mp h with rfl | h
    · exact Or.inl List.mem_cons_self
    · rcases ih h with hmem | ⟨old, hold, heq⟩
      · exact Or.inl (List.mem_cons_of_mem _ hmem)
      · exact Or.inr ⟨old, List.mem_cons_of_mem _ hold, heq⟩

/-- Continuing an item changes nothing but its content. -/
theorem map_continueLastItem {α : Type} {f : ListItem → α}
    (hf : ∀ item content, f { item with content } = f item) (line : Text)
    (items : List ListItem) : (continueLastItem line items).map f = items.map f := by
  induction items using continueLastItem.induct with
  | case1 => rfl
  | case2 last => simp [continueLastItem, hf]
  | case3 first next more ih => simpa [continueLastItem] using ih

/-! ### What is true of an open list -/

/-- The position of the `i`-th bullet of a list, counted from zero. -/
def bulletPosition (i : Nat) : Nat := min (i + 1) maxPosition

/-- What is true of an open list: its items start on lines of its kind, and have positions in range
and contents of one trimmed line; bullets are counted. -/
structure Built (list : NoteList) : Prop where
  starts : ∀ item ∈ list.items, ∃ start,
    ItemStart.any? (trim item.rawLine) = some start ∧ start.kind = list.kind
  range : ∀ item ∈ list.items, 1 ≤ item.position ∧ item.position ≤ maxPosition
  contents : ∀ item ∈ list.items,
    item.content ≠ [] ∧ Bare item.content ∧ '\n' ∉ item.content
  bullets : list.kind = .bullet →
    list.items.map (·.position) = (List.range list.items.length).map bulletPosition

theorem built_empty (kind : ListKind) : Built ⟨kind, []⟩ := ⟨nofun, nofun, nofun, fun _ => rfl⟩

theorem bulletPosition_range (i : Nat) :
    1 ≤ bulletPosition i ∧ bulletPosition i ≤ maxPosition := by
  have hmax : 1 ≤ maxPosition := by decide
  unfold bulletPosition
  omega

theorem Built.push {list : NoteList} (h : Built list) {start : ItemStart} {line : Text}
    (hstart : ItemStart.any? (trim line) = some start) (hkind : list.kind = start.kind)
    (hline : '\n' ∉ line) : Built (list.push start line) := by
  have htaken := ItemStart.takenFrom_of_any? hstart
  have hbullet : start.kind = .bullet →
      start.position.getD (min (list.items.length + 1) maxPosition) =
        bulletPosition list.items.length := by
    intro hbullet
    rw [htaken.bullet.mp hbullet]
    rfl
  have hall : ∀ {p : ListItem → Prop}, (∀ item ∈ list.items, p item) →
      p ⟨start.position.getD (min (list.items.length + 1) maxPosition), start.title, line⟩ →
      ∀ item ∈ (list.push start line).items, p item := by
    intro p hitems hnew item hitem
    rcases List.mem_append.mp hitem with hitem | hitem
    · exact hitems item hitem
    · rw [List.mem_singleton.mp hitem]
      exact hnew
  -- The items that were there are as they were, so each part is about the new one only.
  refine ⟨hall h.starts ⟨start, hstart, hkind.symm⟩, hall h.range ?_, hall h.contents ?_, ?_⟩
  · cases hposition : start.position with
    | none =>
      rw [hposition] at hbullet
      rw [hbullet (htaken.bullet.mpr hposition)]
      exact bulletPosition_range _
    | some n => exact htaken.position n hposition
  · exact ⟨htaken.title_ne_nil (bare_trim line), htaken.bare_title,
      htaken.not_mem_title (not_mem_trim hline)⟩
  · intro hlist
    have hcount := h.bullets hlist
    simp only [NoteList.push, List.map_append, List.map_singleton, List.length_append,
      List.length_singleton, List.range_succ, hcount, hbullet (hkind ▸ hlist)]

/-- A trimmed text goes on being trimmed with a space and another one behind it. -/
theorem bare_append_space {u v : Text} (hu : Bare u) (hv : Bare v) (hune : u ≠ []) (hvne : v ≠ []) :
    Bare (u ++ ' ' :: v) where
  head := by
    intro c hc
    rw [List.head?_append_of_ne_nil _ hune] at hc
    exact hu.head c hc
  last := by
    intro c hc
    rw [List.getLast?_append_of_ne_nil _ (List.cons_ne_nil _ _),
      List.getLast?_cons_of_ne_nil hvne] at hc
    exact hv.last c hc

theorem Built.continueLast {list : NoteList} (h : Built list) {line : Text} (hne : line ≠ [])
    (hbare : Bare line) (hline : '\n' ∉ line) : Built (list.continueLast line) := by
  have hold : ∀ item ∈ (list.continueLast line).items, item ∈ list.items ∨
      ∃ old ∈ list.items, item = { old with content := old.content ++ ' ' :: line } :=
    fun item hitem => mem_continueLastItem hitem
  refine ⟨?_, ?_, ?_, ?_⟩
  · intro item hitem
    rcases hold item hitem with hitem | ⟨old, hmem, rfl⟩
    · exact h.starts item hitem
    · exact h.starts old hmem
  · intro item hitem
    rcases hold item hitem with hitem | ⟨old, hmem, rfl⟩
    · exact h.range item hitem
    · exact h.range old hmem
  · intro item hitem
    rcases hold item hitem with hitem | ⟨old, hmem, rfl⟩
    · exact h.contents item hitem
    · obtain ⟨hcontent, hbare', hfeed⟩ := h.contents old hmem
      refine ⟨by simp, bare_append_space hbare' hbare hcontent hne, ?_⟩
      simp [hfeed, hline]
  · intro hkind
    -- Continuing an item changes no position, so bullets stay numbered as they were.
    have hpositions :=
      map_continueLastItem (f := ListItem.position) (fun _ _ => rfl) line list.items
    have hlength : (list.continueLast line).items.length = list.items.length := by
      have hmapped := congrArg List.length hpositions
      rwa [List.length_map, List.length_map] at hmapped
    rw [hlength, ← h.bullets hkind]
    exact hpositions

/-- A line closes and leaves open only lists that are built. -/
theorem Reads.built {line : Text} {current next : Option NoteList} {closed : List NoteList}
    (h : Reads line current closed next) (hline : '\n' ∉ line)
    (hcurrent : ∀ list ∈ current, Built list) :
    (∀ list ∈ closed, Built list ∧ 2 ≤ list.items.length) ∧ ∀ list ∈ next, Built list := by
  -- Whichever way a list is closed, it was open before and has two items.
  have hclose : ∀ list ∈ close current, Built list ∧ 2 ≤ list.items.length := by
    intro list hlist
    obtain ⟨hopen, htwo⟩ := mem_close.mp hlist
    exact ⟨hcurrent list hopen, htwo⟩
  cases h with
  | blank => exact ⟨hclose, nofun⟩
  | opens hstart =>
    refine ⟨hclose, ?_⟩
    rintro list hlist
    obtain rfl := Option.some.inj hlist
    exact (built_empty _).push hstart rfl hline
  | grows hstart hkind =>
    refine ⟨nofun, ?_⟩
    rintro list hlist
    obtain rfl := Option.some.inj hlist
    exact (hcurrent _ rfl).push hstart hkind hline
  | continues hne =>
    refine ⟨nofun, ?_⟩
    intro list hlist
    obtain ⟨old, hold, rfl⟩ := Option.map_eq_some_iff.mp hlist
    exact (hcurrent old hold).continueLast hne (bare_trim line) (not_mem_trim hline)

/-- **Every list that the block pass finds is built, and has at least two items.** -/
theorem built_ofBlocksFrom {ls : List Text} (hls : ∀ l ∈ ls, '\n' ∉ l)
    {current : Option NoteList} (h : ∀ list ∈ current, Built list) :
    ∀ list ∈ ofBlocksFrom current ls, Built list ∧ 2 ≤ list.items.length := by
  induction ls generalizing current with
  | nil =>
    intro list hlist
    obtain ⟨hopen, htwo⟩ := mem_close.mp hlist
    exact ⟨h list hopen, htwo⟩
  | cons line rest ih =>
    -- The lists that the line closes are done; the one that is open then goes on being built.
    obtain ⟨closed, next, hreads, hpass⟩ := exists_reads current line rest
    obtain ⟨hclosed, hnext⟩ := hreads.built (hls line List.mem_cons_self) h
    rw [hpass]
    intro list hlist
    rcases List.mem_append.mp hlist with hlist | hlist
    · exact hclosed list hlist
    · exact ih (fun l hl => hls l (List.mem_cons_of_mem _ hl)) hnext list hlist

/-! ### The lines that items start on -/

/-- The lines that the items of several lists start on. -/
def rawLines (lists : List NoteList) : List Text := (lists.flatMap (·.items)).map (·.rawLine)

theorem rawLines_append (as bs : List NoteList) :
    rawLines (as ++ bs) = rawLines as ++ rawLines bs := by
  simp [rawLines]

theorem rawLines_close_sublist (current : Option NoteList) :
    (rawLines (close current)).Sublist (rawLines current.toList) := by
  cases current with
  | none => exact List.Sublist.refl _
  | some list =>
    by_cases h : 2 ≤ list.items.length
    · simp [close, h]
    · simp [close, h, rawLines]

/-- A line adds itself at most to the lines that items start on. -/
theorem Reads.rawLines_sublist {line : Text} {current next : Option NoteList}
    {closed : List NoteList} (h : Reads line current closed next) :
    (rawLines closed ++ rawLines next.toList).Sublist (rawLines current.toList ++ [line]) := by
  cases h with
  | blank =>
    rw [Option.toList_none]
    exact (rawLines_close_sublist current).append (List.nil_sublist _)
  | opens => exact (rawLines_close_sublist current).append (List.Sublist.refl [line])
  | grows => simp [rawLines, NoteList.push]
  | continues =>
    cases current with
    | none => exact List.nil_sublist _
    | some list =>
      -- Continuing an item leaves its raw line as it is.
      have hsame : rawLines [list.continueLast (trim line)] = rawLines [list] := by
        simpa [rawLines, NoteList.continueLast] using
          map_continueLastItem (f := ListItem.rawLine) (fun _ _ => rfl) (trim line) list.items
      show (rawLines [] ++ rawLines [list.continueLast (trim line)]).Sublist _
      rw [hsame]
      exact List.sublist_append_left _ _

/-- The items of the lists that a pass finds start on lines of the open list and lines read, each
on its own and in this order. -/
theorem rawLines_ofBlocksFrom_sublist (current : Option NoteList) (ls : List Text) :
    (rawLines (ofBlocksFrom current ls)).Sublist (rawLines current.toList ++ ls) := by
  induction ls generalizing current with
  | nil =>
    rw [List.append_nil]
    exact rawLines_close_sublist current
  | cons line rest ih =>
    obtain ⟨closed, next, hreads, hpass⟩ := exists_reads current line rest
    rw [hpass, rawLines_append, List.append_cons]
    have hrest : (rawLines closed ++ rawLines (ofBlocksFrom next rest)).Sublist
        (rawLines closed ++ (rawLines next.toList ++ rest)) :=
      (List.Sublist.refl _).append (ih next)
    rw [← List.append_assoc] at hrest
    exact hrest.trans (hreads.rawLines_sublist.append (List.Sublist.refl rest))

end NoteList

end Notebook
