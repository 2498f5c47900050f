import Notebook.Proofs.NoteList.Extraction
import Notebook.Proofs.NoteList.TidyStart

/-!
# The lists of a tidy body

Cleaning up a body without separators changes the white space at the edges of its lines and inside
them, and takes blank lines off its ends. Neither pass over the lines depends on any of this, so the
lists of the tidy body are those of the body: as many, of the same kinds, with items at the same
positions, of which only the white space is different.

- `NoteList.ofLines` — the lists of a note, from its lines;
- `ofLines_between_blanks` — blank lines in front and behind make no difference;
- `ListItem.tidied`, `NoteList.tidied` — an item and a list, tidied line by line;
- `Reads.tidied`, `ofLines_map_tidyLine` — tidying the lines of a note tidies its lists;
- `NoteList.ofText_tidyBody` — so does cleaning up its body.
-/

namespace Notebook

open Text

/-! ### Tidied items and lists -/

/-- A text with every line tidied. -/
def tidyEachLine (t : Text) : Text := unlines ((lines t).map tidyLine)

/-- An item with every line of its text tidied, and the line it starts on as well. -/
def ListItem.tidied (item : ListItem) : ListItem :=
  { item with content := tidyEachLine item.content, rawLine := tidyLine item.rawLine }

/-- A list with its items tidied. -/
def NoteList.tidied (list : NoteList) : NoteList :=
  { list with items := list.items.map ListItem.tidied }

theorem tidyEachLine_unlines {ls : List Text} (h : ∀ l ∈ ls, IsLine l) (hlast : [] ∉ ls.getLast?) :
    tidyEachLine (unlines ls) = unlines (ls.map tidyLine) := by
  rw [tidyEachLine, lines_unlines h hlast]

/-- A text of one line without white space at its edges is squeezed. -/
theorem tidyEachLine_of_bare {t : Text} (hne : t ≠ []) (h : Bare t) (hfeed : '\n' ∉ t) :
    tidyEachLine t = squeeze t := by
  rw [tidyEachLine, lines_of_no_feed hne hfeed, List.map_singleton, unlines_singleton,
    tidyLine_of_bare h]

namespace NoteList

/-- Tidying moves no item. -/
theorem at?_tidied (list : NoteList) (position : Nat) :
    list.tidied.at? position = (list.at? position).map ListItem.tidied := by
  rw [NoteList.at?, tidied, List.find?_map]
  rfl

theorem itemAt?_tidied (lists : List NoteList) (position : Nat) :
    itemAt? (lists.map tidied) position = (itemAt? lists position).map ListItem.tidied := by
  induction lists with
  | nil => rfl
  | cons list lists ih =>
    unfold itemAt? at ih ⊢
    rw [List.map_cons, List.findSome?_cons, List.findSome?_cons, at?_tidied, ih]
    cases list.at? position <;> rfl

/-! ### The lists of lines -/

/-- The items of the groups that lines are cut into at the ordered ones, with their kinds. -/
def orderedItems (ls : List Text) : List (ListKind × ListItem) :=
  (cutAtStarts (ItemStart.ordered? ∘ trim) ls).2.map fun group =>
    (group.1.kind, itemOfGroup group)

/-- The one list that items make, if there are at least two. Its kind is that of the first. -/
def ofItems? : List (ListKind × ListItem) → Option NoteList
  | first :: second :: more => some ⟨first.1, (first :: second :: more).map (·.2)⟩
  | _ => none

/-- The lists of a note with these lines. -/
def ofLines (ls : List Text) : List NoteList :=
  match ofItems? (orderedItems ls) with
  | some list => [list]
  | none => ofBlocksFrom none ls

/-- As a whole, a note is read as the items of its lines. -/
theorem ofWhole?_eq_ofItems? (content : Text) :
    ofWhole? content = ofItems? (orderedItems (lines content)) := by
  unfold ofWhole? orderedItems
  rcases (cutAtStarts (ItemStart.ordered? ∘ trim) (lines content)).2 with
    _ | ⟨first, _ | ⟨second, more⟩⟩
  · rfl
  · rfl
  · simp [ofItems?]

/-- The lists of a note depend on its lines only. -/
theorem ofText_eq_ofLines (content : Text) : ofText content = ofLines (lines content) := by
  rw [ofText, ofLines, ofWhole?_eq_ofItems?]
  rfl

/-! ### Blank lines at the ends -/

theorem blank_iff {l : Text} : blank l = true ↔ trim l = [] := by
  rw [blank, List.all_eq_true, trim_eq_nil_iff]

theorem ordered?_of_blank {l : Text} (h : trim l = []) : ItemStart.ordered? (trim l) = none := by
  rw [h]
  rfl

/-- Blank lines at the end are not kept. -/
theorem keptBelow_of_blank {ls : List Text} (h : ∀ l ∈ ls, trim l = []) : keptBelow ls = [] := by
  rw [keptBelow, dropBlankEnd_eq_rdropWhile, List.rdropWhile_eq_nil_iff]
  intro l hl
  obtain ⟨m, hm, rfl⟩ := List.mem_map.mp hl
  have hblank : ∀ c ∈ m, isBlank c = true := trim_eq_nil_iff.mp (h m hm)
  rw [trimEnd_eq_nil hblank]
  rfl

theorem keptBelow_cons {l : Text} {below others : List Text}
    (h : keptBelow below = keptBelow others) :
    keptBelow (l :: below) = keptBelow (l :: others) := by
  unfold keptBelow at h ⊢
  rw [List.map_cons, List.map_cons, dropBlankEnd, dropBlankEnd, h]

/-- The lines in front of the first ordered one. -/
def unordered (ls : List Text) : List Text := (cutAtStarts (ItemStart.ordered? ∘ trim) ls).1

theorem orderedItems_cons_none {line : Text} (h : ItemStart.ordered? (trim line) = none)
    (ls : List Text) : orderedItems (line :: ls) = orderedItems ls ∧
      unordered (line :: ls) = line :: unordered ls := by
  have hline : (ItemStart.ordered? ∘ trim) line = none := h
  unfold orderedItems unordered
  rw [cutAtStarts_cons_none hline]
  exact ⟨rfl, rfl⟩

theorem orderedItems_cons_some {line : Text} {start : ItemStart}
    (h : ItemStart.ordered? (trim line) = some start) (ls : List Text) :
    orderedItems (line :: ls) =
        (start.kind, itemOfGroup (start, line, unordered ls)) :: orderedItems ls ∧
      unordered (line :: ls) = [] := by
  have hline : (ItemStart.ordered? ∘ trim) line = some start := h
  unfold orderedItems unordered
  rw [cutAtStarts_cons_some hline]
  exact ⟨rfl, rfl⟩

/-- Lines in front of the first ordered one make no difference. -/
theorem orderedItems_none_append {front : List Text}
    (h : ∀ l ∈ front, ItemStart.ordered? (trim l) = none) (ls : List Text) :
    orderedItems (front ++ ls) = orderedItems ls := by
  have hfront : ∀ l ∈ front, (ItemStart.ordered? ∘ trim) l = none := h
  rw [orderedItems, cutAtStarts_append hfront]
  rfl

/-- The item of a group depends on the lines that are kept. -/
theorem itemOfGroup_congr (start : ItemStart) (line : Text) {below others : List Text}
    (h : keptBelow below = keptBelow others) :
    itemOfGroup (start, line, below) = itemOfGroup (start, line, others) := by
  show ListItem.mk _ (unlines (start.title :: keptBelow below)) line = _
  rw [h]
  rfl

/-- Blank lines behind others go to the last group, and its item does not keep them. -/
theorem orderedItems_append_blank {back : List Text} (h : ∀ l ∈ back, trim l = [])
    (ls : List Text) : keptBelow (unordered (ls ++ back)) = keptBelow (unordered ls) ∧
      orderedItems (ls ++ back) = orderedItems ls := by
  -- The lines in front of the first start are followed together with the items, since a start turns
  -- the lines collected so far into those below it.
  induction ls with
  | nil =>
    have hcut : cutAtStarts (ItemStart.ordered? ∘ trim) (back ++ []) = (back ++ [], []) :=
      cutAtStarts_append (fun l hl => ordered?_of_blank (h l hl)) []
    rw [List.append_nil] at hcut
    rw [List.nil_append, unordered, orderedItems, hcut, keptBelow_of_blank h]
    exact ⟨rfl, rfl⟩
  | cons line ls ih =>
    obtain ⟨hbefore, hitems⟩ := ih
    rw [List.cons_append]
    cases hline : ItemStart.ordered? (trim line) with
    | none =>
      obtain ⟨hmore, hmoreBefore⟩ := orderedItems_cons_none hline (ls ++ back)
      obtain ⟨hthis, hthisBefore⟩ := orderedItems_cons_none hline ls
      rw [hmore, hmoreBefore, hthis, hthisBefore]
      exact ⟨keptBelow_cons hbefore, hitems⟩
    | some start =>
      obtain ⟨hmore, hmoreBefore⟩ := orderedItems_cons_some hline (ls ++ back)
      obtain ⟨hthis, hthisBefore⟩ := orderedItems_cons_some hline ls
      rw [hmore, hmoreBefore, hthis, hthisBefore, hitems, itemOfGroup_congr start line hbefore]
      exact ⟨rfl, rfl⟩

/-- **Blank lines in front and behind make no difference.** -/
theorem ofLines_between_blanks {front back : List Text} (hfront : ∀ l ∈ front, trim l = [])
    (hback : ∀ l ∈ back, trim l = []) (ls : List Text) :
    ofLines (front ++ (ls ++ back)) = ofLines ls := by
  rw [ofLines, ofLines, orderedItems_none_append fun l hl => ordered?_of_blank (hfront l hl),
    (orderedItems_append_blank hback ls).2, ofBlocksFrom_blank_append hfront,
    ofBlocksFrom_append_blank hback]

/-! ### Tidy lines, as a whole -/

theorem blank_tidyLine (line : Text) : blank (tidyLine line) = blank line := by
  rw [Bool.eq_iff_iff, blank_iff, blank_iff, trim_tidyLine, tidyLine_eq_nil_iff]

theorem dropBlankEnd_map {f : Text → Text} (h : ∀ l, blank (f l) = blank l) (ls : List Text) :
    dropBlankEnd (ls.map f) = (dropBlankEnd ls).map f := by
  induction ls with
  | nil => rfl
  | cons l ls ih =>
    rw [List.map_cons, dropBlankEnd, dropBlankEnd, ih]
    cases dropBlankEnd ls with
    | nil =>
      show (if blank (f l) = true then [] else [f l]) =
        (if blank l = true then [] else [l]).map f
      rw [h]
      split <;> rfl
    | cons m more => rfl

theorem keptBelow_map_tidyLine (below : List Text) :
    keptBelow (below.map tidyLine) = (keptBelow below).map tidyLine := by
  have hend : trimEnd ∘ tidyLine = tidyLine :=
    funext fun line => trimEnd_eq_self (bare_tidyLine line).last
  have htidy : tidyLine ∘ trimEnd = tidyLine := funext tidyLine_trimEnd
  rw [keptBelow, keptBelow, List.map_map, hend, ← dropBlankEnd_map blank_tidyLine, List.map_map,
    htidy]

/-- Lines are cut at the same places when each starts the same before and after a change. -/
theorem cutAtStarts_map {α : Type} {start? : Text → Option α} {f : Text → Text} {g : α → α}
    (h : ∀ l, start? (f l) = (start? l).map g) (ls : List Text) :
    cutAtStarts start? (ls.map f) = ((cutAtStarts start? ls).1.map f,
      (cutAtStarts start? ls).2.map fun (a, line, below) => (g a, f line, below.map f)) := by
  induction ls with
  | nil => rfl
  | cons line ls ih =>
    have hchanged := h line
    rw [List.map_cons]
    cases hline : start? line with
    | none =>
      rw [hline, Option.map_none] at hchanged
      rw [cutAtStarts_cons_none hline, cutAtStarts_cons_none hchanged, ih]
      rfl
    | some a =>
      rw [hline, Option.map_some] at hchanged
      rw [cutAtStarts_cons_some hline, cutAtStarts_cons_some hchanged, ih]
      rfl

/-- A group with its lines tidied. -/
def tidyGroup : ItemStart × Text × List Text → ItemStart × Text × List Text
  | (start, line, below) => (start.squeezed, tidyLine line, below.map tidyLine)

/-- The lines of the item of a group are tidied with those of the group. -/
theorem IsGroup.itemOfGroup_tidyGroup {group : ItemStart × Text × List Text} (h : IsGroup group) :
    itemOfGroup (tidyGroup group) = (itemOfGroup group).tidied := by
  obtain ⟨hne, hbare, hfeed⟩ := h.title
  have hlines : ∀ l ∈ group.1.title :: keptBelow group.2.2, IsLine l := by
    refine List.forall_mem_cons.mpr ⟨.of_trimEnd hfeed (trimEnd_eq_self hbare.last), ?_⟩
    intro l hl
    obtain ⟨m, hm, rfl⟩ := exists_of_mem_keptBelow hl
    exact .of_trimEnd (not_mem_trimEnd (h.no_feed m (List.mem_cons_of_mem _ hm)))
      (trimEnd_trimEnd m)
  -- The last line that is kept is not blank, so writing the lines and reading them loses none.
  have hlast : [] ∉ (group.1.title :: keptBelow group.2.2).getLast? := by
    cases hkept : keptBelow group.2.2 with
    | nil =>
      intro hnil
      exact hne (Option.some.inj hnil)
    | cons l kept =>
      rw [List.getLast?_cons_cons, ← hkept]
      intro hnil
      cases not_blank_of_last_keptBelow hnil
  have hcontent : tidyEachLine (itemOfGroup group).content =
      unlines (squeeze group.1.title :: keptBelow (group.2.2.map tidyLine)) := by
    show tidyEachLine (unlines (group.1.title :: keptBelow group.2.2)) = _
    rw [tidyEachLine_unlines hlines hlast, List.map_cons, keptBelow_map_tidyLine,
      tidyLine_of_bare hbare]
  rw [ListItem.tidied, hcontent]
  rfl

theorem orderedItems_map_tidyLine (content : Text) :
    orderedItems ((lines content).map tidyLine) =
      (orderedItems (lines content)).map fun (kind, item) => (kind, item.tidied) := by
  have hcut : cutAtStarts (ItemStart.ordered? ∘ trim) ((lines content).map tidyLine) = _ :=
    cutAtStarts_map ItemStart.ordered?_tidyLine (lines content)
  rw [orderedItems, hcut, orderedItems, List.map_map, List.map_map]
  refine List.map_congr_left fun group hgroup => ?_
  have hitem := (isGroup_of_mem_wholeGroups hgroup).itemOfGroup_tidyGroup
  exact congrArg (group.1.kind, ·) hitem

theorem ofItems?_map_tidied (items : List (ListKind × ListItem)) :
    ofItems? (items.map fun (kind, item) => (kind, item.tidied)) =
      (ofItems? items).map tidied := by
  match items with
  | [] => rfl
  | [_] => rfl
  | first :: second :: more => simp [ofItems?, tidied]

/-! ### Tidy lines, by blocks -/

theorem tidied_push {list : NoteList} {start : ItemStart} {line : Text}
    (htitle : start.title ≠ []) (hbare : Bare start.title) (hfeed : '\n' ∉ start.title) :
    (list.push start line).tidied = list.tidied.push start.squeezed (tidyLine line) := by
  simp only [push, tidied, List.map_append, List.map_singleton, ListItem.tidied, List.length_map,
    ItemStart.squeezed, tidyEachLine_of_bare htitle hbare hfeed]

theorem map_tidied_continueLastItem {line : Text} (hline : Bare line) (hne : line ≠ [])
    (hfeed : '\n' ∉ line) {items : List ListItem}
    (h : ∀ item ∈ items, item.content ≠ [] ∧ Bare item.content ∧ '\n' ∉ item.content) :
    (continueLastItem line items).map ListItem.tidied =
      continueLastItem (squeeze line) (items.map ListItem.tidied) := by
  induction items using continueLastItem.induct with
  | case1 => rfl
  | case2 item =>
    obtain ⟨hcontent, hbare, hcontentFeed⟩ := h item (List.mem_singleton_self item)
    -- Both parts are on one line and bare, so squeezing them keeps the one space between them.
    have hlonger : tidyEachLine (item.content ++ ' ' :: line) =
        tidyEachLine item.content ++ ' ' :: squeeze line := by
      rw [tidyEachLine_of_bare (by simp) (bare_append_space hbare hline hcontent hne)
          (by simp [hcontentFeed, hfeed]),
        tidyEachLine_of_bare hcontent hbare hcontentFeed,
        squeeze_append_space hbare hline hcontent]
    simp [continueLastItem, ListItem.tidied, hlonger]
  | case3 first second more ih =>
    have hmore := ih fun item hitem => h item (List.mem_cons_of_mem _ hitem)
    rw [continueLastItem, List.map_cons, hmore]
    rfl

theorem Built.tidied_continueLast {list : NoteList} (h : Built list) {line : Text}
    (hne : trim line ≠ []) (hfeed : '\n' ∉ line) :
    (list.continueLast (trim line)).tidied =
      list.tidied.continueLast (trim (tidyLine line)) := by
  have hitems := map_tidied_continueLastItem (bare_trim line) hne (not_mem_trim hfeed) h.contents
  rw [trim_tidyLine, NoteList.continueLast, NoteList.tidied, hitems]
  rfl

theorem map_tidied_close (current : Option NoteList) :
    (close current).map tidied = close (current.map tidied) := by
  cases current with
  | none => rfl
  | some list =>
    rw [Option.map_some, close, close, tidied, List.length_map]
    split <;> rfl

/-- **What a line does, the tidy line does**, with tidied lists. -/
theorem Reads.tidied {line : Text} {current next : Option NoteList} {closed : List NoteList}
    (h : Reads line current closed next) (hcurrent : ∀ list ∈ current, Built list)
    (hfeed : '\n' ∉ line) :
    Reads (tidyLine line) (current.map NoteList.tidied) (closed.map NoteList.tidied)
      (next.map NoteList.tidied) := by
  have hany := ItemStart.any?_tidyLine line
  have hpush : ∀ {list : NoteList} {start : ItemStart}, ItemStart.any? (trim line) = some start →
      (list.push start line).tidied = list.tidied.push start.squeezed (tidyLine line) := by
    intro list start hstart
    have htaken := ItemStart.takenFrom_of_any? hstart
    exact tidied_push (htaken.title_ne_nil (bare_trim line)) htaken.bare_title
      (htaken.not_mem_title (not_mem_trim hfeed))
  -- Tidying keeps whether a line is blank and what it starts, and so what it does.
  cases h with
  | blank hblank =>
    rw [map_tidied_close]
    exact .blank (by rw [trim_tidyLine, tidyLine_eq_nil_iff, hblank])
  | @opens _ start hstart hkind =>
    rw [hstart, Option.map_some] at hany
    rw [map_tidied_close, Option.map_some, hpush hstart]
    refine .opens hany fun list hlist => ?_
    obtain ⟨old, hold, rfl⟩ := Option.map_eq_some_iff.mp hlist
    exact hkind old hold
  | @grows list start hstart hkind =>
    rw [hstart, Option.map_some] at hany
    rw [Option.map_some, Option.map_some, hpush hstart]
    exact .grows hany hkind
  | continues hne hstart =>
    rw [hstart, Option.map_none] at hany
    have hnext : (current.map (·.continueLast (trim line))).map NoteList.tidied =
        (current.map NoteList.tidied).map (·.continueLast (trim (tidyLine line))) := by
      cases current with
      | none => rfl
      | some list => exact congrArg some ((hcurrent list rfl).tidied_continueLast hne hfeed)
    rw [hnext]
    exact .continues (by rwa [trim_tidyLine, Ne, tidyLine_eq_nil_iff]) hany

theorem ofBlocksFrom_map_tidyLine {ls : List Text} (hls : ∀ l ∈ ls, '\n' ∉ l)
    {current : Option NoteList} (h : ∀ list ∈ current, Built list) :
    ofBlocksFrom (current.map tidied) (ls.map tidyLine) = (ofBlocksFrom current ls).map tidied := by
  induction ls generalizing current with
  | nil => exact (map_tidied_close current).symm
  | cons line ls ih =>
    have hfeed : '\n' ∉ line := hls line List.mem_cons_self
    obtain ⟨closed, next, hreads, hpass⟩ := exists_reads current line ls
    rw [List.map_cons, (hreads.tidied h hfeed).pass, hpass, List.map_append,
      ih (fun l hl => hls l (List.mem_cons_of_mem _ hl)) (hreads.built hfeed h).2]

/-! ### Tidy bodies -/

/-- **Tidying the lines of a note tidies its lists.** -/
theorem ofLines_map_tidyLine (content : Text) :
    ofLines ((lines content).map tidyLine) = (ofText content).map tidied := by
  have hnone : ∀ list ∈ (none : Option NoteList), Built list := nofun
  have hblocks : ofBlocksFrom none ((lines content).map tidyLine) =
      (ofBlocksFrom none (lines content)).map tidied :=
    ofBlocksFrom_map_tidyLine (fun l hl => not_mem_of_mem_lines hl) hnone
  rw [ofText_eq_ofLines, ofLines, ofLines, orderedItems_map_tidyLine, ofItems?_map_tidied, hblocks]
  cases ofItems? (orderedItems (lines content)) <;> rfl

/-- **Cleaning up a body tidies its lists**, and does nothing else to them: there are as many, of
the same kinds, and their items have the same positions, so every position is answered with the
tidied item. -/
theorem ofText_tidyBody {content : Text} (h : '|' ∉ content) :
    ofText (tidyBody content) = (ofText content).map tidied ∧
      ∀ position, itemAt? (ofText (tidyBody content)) position =
        (itemAt? (ofText content) position).map ListItem.tidied := by
  have hlists : ofText (tidyBody content) = (ofText content).map tidied := by
    obtain ⟨front, back, hlines, hfront, hback⟩ := exists_blank_ends content
    have hblank : ∀ {ls : List Text}, (∀ l ∈ ls, l = []) → ∀ l ∈ ls, trim l = [] :=
      fun hnil l hl => by rw [hnil l hl]; rfl
    calc ofText (tidyBody content)
        = ofLines ((lines (trim content)).map tidyLine) := by
          rw [ofText_eq_ofLines, lines_tidyBody h]
      _ = ofLines ((lines content).map tidyLine) := by
          rw [hlines, ofLines_between_blanks (hblank hfront) (hblank hback)]
      _ = (ofText content).map tidied := ofLines_map_tidyLine content
  refine ⟨hlists, fun position => ?_⟩
  rw [hlists, itemAt?_tidied]

/-- A list with tabs, a second paragraph and blank lines around it. -/
theorem ofText_tidyBody_shopping :
    let shopping := "\n 1)\toat   milk \n\n\u3000 or none\n\n 2. tea\u00A0bags\t\n ".toList
    '|' ∉ shopping ∧ ofText (tidyBody shopping) =
      [⟨.numbered, [⟨1, "oat milk\n\nor none".toList, "1) oat milk".toList⟩,
        ⟨2, "tea bags".toList, "2. tea bags".toList⟩]⟩] := by
  intro shopping
  have hbar : '|' ∉ shopping := by decide +kernel
  refine ⟨hbar, (ofText_tidyBody hbar).1.trans ?_⟩
  decide +kernel

end NoteList

end Notebook
