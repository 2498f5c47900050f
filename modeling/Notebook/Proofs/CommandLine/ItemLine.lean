import Notebook.CommandLine.Report
import Notebook.Proofs.NoteList.Extraction
import Notebook.Proofs.Text.Width

/-!
# The lines of a list's items (specification §10.5)

What an item says is put on one line and cut to the room that the indent and the position leave. The
room is all that is left of `lineWidth`, so the line is too wide by as much as the text is that was
cut. All of it is for any display that `Widths.Lawful` holds of:

- `ListItem.width_mark_le` — a position takes ten columns at most, so there is always room;
- `ListItem.width_line` — the width of a line is that of its parts;
- `ListItem.line_fits` — what is cut, where, and when it fits;
- `NoteList.width_le_of_mem_report` — the lines of a printed list.
-/

namespace Notebook

open Text

/-- What an item says, on one line. -/
def ListItem.oneLine (item : ListItem) : Text :=
  item.content.map fun c => if c = '\n' then ' ' else c

/-- The room that is left for what an item says. -/
def ListItem.room (w : Widths) (item : ListItem) : Nat :=
  lineWidth - (w.text indent + w.text item.mark)

namespace ListItem

/-! ### The parts of a line -/

/-- What stands in front of an item is of ASCII and has no line break in it. -/
theorem ascii_of_mem_front {item : ListItem} :
    ∀ c ∈ indent ++ item.mark, c.toNat < 0x80 ∧ c ≠ '\n' := by
  intro c hc
  simp only [indent, mark, List.mem_append, List.mem_cons, List.not_mem_nil, or_false] at hc
  rcases hc with (rfl | rfl) | hdigit | rfl | rfl
  · decide
  · decide
  · have hrange := toNat_of_isDigit (isDigit_of_mem_ofNat hdigit)
    refine ⟨by omega, ?_⟩
    rintro rfl
    exact absurd hrange.1 (by decide)
  · decide
  · decide

section Parts

variable {w : Widths} (hw : w.Lawful)

include hw

/-- A part of what stands in front of an item takes as many columns as it has characters. -/
theorem width_of_front {item : ListItem} {t : Text} (h : t.Sublist (indent ++ item.mark)) :
    w.text t = t.length := by
  refine hw.ascii t (fun c hc => (ascii_of_mem_front c (h.subset hc)).1) fun hbreak => ?_
  have hfeed : '\n' ∈ t := hbreak.subset (by decide)
  exact (ascii_of_mem_front _ (h.subset hfeed)).2 rfl

theorem width_indent (item : ListItem) : w.text indent = 2 :=
  width_of_front hw (List.sublist_append_left indent item.mark)

theorem width_mark (item : ListItem) : w.text item.mark = item.mark.length :=
  width_of_front hw (List.sublist_append_right indent item.mark)

/-- A position has ten digits at most. -/
theorem width_mark_le {item : ListItem} (h : item.position ≤ maxPosition) :
    w.text item.mark ≤ 12 := by
  have hdigits : (Text.ofNat item.position).length ≤ 10 := by
    refine (Nat.length_toDigits_le_iff (by decide) (by decide)).mpr ?_
    have hmax : maxPosition < 10 ^ 10 := by decide
    omega
  rw [width_mark hw, mark, List.length_append]
  simp only [List.length_cons, List.length_nil]
  omega

theorem one_le_room {item : ListItem} (h : item.position ≤ maxPosition) :
    1 ≤ item.room w ∧ w.text indent + w.text item.mark + item.room w = lineWidth := by
  have hmark := width_mark_le hw h
  have hindent := width_indent hw item
  have hline : lineWidth = 100 := rfl
  unfold room
  omega

/-- The width of a line without colors is that of its parts. -/
theorem width_line (item : ListItem) :
    w.text (item.line w false) = w.text indent + w.text item.mark + w.text (item.summary w) := by
  -- The blank at the end of the mark keeps the item apart from it.
  have hmark : item.mark = Text.ofNat item.position ++ ['.'] ++ [' '] := by simp [mark]
  have hline : item.line w false =
      indent ++ (Text.ofNat item.position ++ ['.']) ++ ' ' :: item.summary w := by
    simp [line, Paint.apply, mark]
  have hfront : (indent ++ (Text.ofNat item.position ++ ['.'])).Sublist (indent ++ item.mark) := by
    rw [hmark]
    exact (List.sublist_append_left _ _).append_left indent
  rw [hline, hw.apart ' ' (by decide), width_of_front hw hfront, width_indent hw item,
    width_mark hw, hmark]
  have hindent : indent.length = 2 := rfl
  simp only [List.length_append, List.length_singleton]
  omega

/-- The room is what the line has left, so the line is as much too wide as what was cut. -/
theorem width_line_add_room {item : ListItem} (h : item.position ≤ maxPosition) :
    w.text (item.line w false) + item.room w = lineWidth + w.text (item.summary w) := by
  have hroom := (one_le_room hw h).2
  have hline := width_line hw item
  omega

end Parts

/-! ### What is printed -/

/-- **Printed items.** Of a text that does not fit a width is kept what leaves a column free if each
character is measured by itself. It is cut as it should be exactly if that leaves the column free as
a text too, and the characters of the whole by themselves would not have fitted; it is too wide by
no more than what is kept is wider than its characters. So it is cut as it should be if no beginning
of the text is wider than its characters, and a text of ASCII is exactly if it fits or has no
control among the characters that the width has room for. The line of an item fits exactly if
what the item says, cut like this, fits the room that it is cut to. -/
theorem line_fits {w : Widths} (hw : w.Lawful) (t : Text) {width : Nat} (hwidth : 1 ≤ width)
    (item : ListItem) (hposition : item.position ≤ maxPosition) :
    (∃ rest, Cut w width t (t.takeColumns w (width - 1)) rest) ∧
    (FitsWidth w width t (truncate w width t) ↔
      (width < w.text t →
        w.text (t.takeColumns w (width - 1)) < width ∧ width ≤ w.columnSum t)) ∧
    w.text (truncate w width t) ≤ width +
      (w.text (t.takeColumns w (width - 1)) - w.columnSum (t.takeColumns w (width - 1))) ∧
    ((∀ kept, kept <+: t → w.text kept ≤ w.columnSum kept) →
      FitsWidth w width t (truncate w width t)) ∧
    ((∀ c ∈ t, c.toNat < 0x80) → ¬['\r', '\n'] <:+: t →
      (FitsWidth w width t (truncate w width t) ↔
        t.length ≤ width ∨ ∀ c ∈ t.take width, isControl c = false)) ∧
    (1 ≤ item.room w ∧ item.summary w = truncate w (item.room w) item.oneLine) ∧
    (w.text (item.line w false) ≤ lineWidth ↔ w.text (item.summary w) ≤ item.room w) := by
  have hline := width_line_add_room hw hposition
  refine ⟨exists_cut w hwidth t, fitsWidth_truncate_iff hw hwidth t,
    width_truncate_le hw hwidth t, fitsWidth_truncate hw hwidth,
    fitsWidth_truncate_ascii_iff hw hwidth, ⟨(one_le_room hw hposition).1, rfl⟩, ?_⟩
  omega

/-- Nine tabs are not cut as they should be to five columns, and nine letters are; an item of the
tabs has a line that fits. -/
theorem line_fits_tabs :
    let w := Widths.plain
    let tabs : Text := List.replicate 9 '\t'
    let letters : Text := List.replicate 9 'a'
    (w.Lawful ∧ 1 ≤ 5 ∧ 1 ≤ maxPosition) ∧
    (¬FitsWidth w 5 tabs (truncate w 5 tabs) ∧ FitsWidth w 5 letters (truncate w 5 letters)) ∧
    w.text (ListItem.line w false ⟨1, tabs, tabs⟩) ≤ lineWidth := by
  intro w tabs letters
  have hw : w.Lawful := Widths.plain_lawful
  have hwidth : 1 ≤ 5 := by decide
  have hposition : 1 ≤ maxPosition := by decide
  have hascii : ∀ d : Char, d.toNat < 0x80 → d ≠ '\r' →
      (∀ c ∈ List.replicate 9 d, c.toNat < 0x80) ∧ ¬['\r', '\n'] <:+: List.replicate 9 d := by
    refine fun d hd hreturn => ⟨fun c hc => ?_, fun hbreak => ?_⟩
    · rwa [List.eq_of_mem_replicate hc]
    · exact hreturn (List.eq_of_mem_replicate (hbreak.subset List.mem_cons_self)).symm
  obtain ⟨htab, htabBreak⟩ := hascii '\t' (by decide) (by decide)
  obtain ⟨hletter, hletterBreak⟩ := hascii 'a' (by decide) (by decide)
  obtain ⟨-, -, -, -, htabs, -, hline⟩ := line_fits hw tabs hwidth ⟨1, tabs, tabs⟩ hposition
  obtain ⟨-, -, -, -, hletters, -⟩ := line_fits hw letters hwidth ⟨1, tabs, tabs⟩ hposition
  refine ⟨⟨hw, hwidth, hposition⟩, ⟨fun hfits => ?_, ?_⟩, hline.mpr (by decide)⟩
  · rcases (htabs htab htabBreak).mp hfits with hlength | hseen
    · exact absurd hlength (by decide)
    · exact absurd (hseen '\t' List.mem_cons_self) (by decide)
  · refine (hletters hletter hletterBreak).mpr (Or.inr fun c hc => ?_)
    rw [List.eq_of_mem_replicate (List.mem_of_mem_take hc)]
    decide

/-- Tabs that are too wide get an ellipsis, but none of them is cut off. A list whose first item has
sixty words between tabs is printed on a line of more than a hundred columns. -/
theorem tabs_are_kept :
    let w := Widths.plain
    let tabs : Text := List.replicate 9 '\t'
    w.Lawful ∧ 5 < w.text tabs ∧ truncate w 5 tabs = tabs ++ ['…'] ∧
      5 < w.text (truncate w 5 tabs) ∧
    ∃ list ∈ NoteList.ofText
        ("1. ".toList ++ ['\t'].intercalate (List.replicate 60 ['a']) ++ "\n2. b".toList),
      ∃ item ∈ list.items, lineWidth < w.text (item.line w false) := by
  intro w tabs
  have hwide : 5 < w.text tabs := by decide
  have hkept : truncate w 5 tabs = tabs ++ ['…'] :=
    (truncate_eq_append_iff (by decide) hwide).mpr (by decide)
  refine ⟨Widths.plain_lawful, hwide, hkept, ?_, by decide +kernel⟩
  rw [hkept]
  decide

end ListItem

namespace NoteList

/-- The positions of printed items are in the range of positions. -/
theorem position_le_of_mem_ofText {content : Text} {list : NoteList} (hlist : list ∈ ofText content)
    {item : ListItem} (hitem : item ∈ list.items) : item.position ≤ maxPosition := by
  cases hwhole : ofWhole? content with
  | some whole =>
    rw [ofText_eq_of_whole hwhole] at hlist
    obtain rfl := List.mem_singleton.mp hlist
    obtain ⟨-, hitems, -⟩ := ofWhole?_eq_some hwhole
    rw [hitems] at hitem
    obtain ⟨group, hgroup, rfl⟩ := List.mem_map.mp hitem
    exact (isGroup_of_mem_wholeGroups hgroup).position_range.2
  | none =>
    rw [ofText_eq_ofBlocks (ofWhole?_eq_none_iff.mp hwhole)] at hlist
    exact ((built_ofBlocks hlist).1.range item hitem).2

/-- Below its heading, a list of a note is printed on lines that fit, if no item has a beginning
that is wider than its characters. -/
theorem width_le_of_mem_report {w : Widths} (hw : w.Lawful) {content : Text} {list : NoteList}
    (hlist : list ∈ ofText content)
    (hplain : ∀ item ∈ list.items, ∀ kept, kept <+: item.oneLine →
      w.text kept ≤ w.columnSum kept) :
    ∀ line ∈ (list.report w false).tail, w.text line ≤ lineWidth := by
  intro line hline
  obtain ⟨item, hitem, rfl⟩ := List.mem_map.mp hline
  have hposition := position_le_of_mem_ofText hlist hitem
  have hroom := (ListItem.one_le_room hw hposition).1
  have hsummary : w.text (item.summary w) ≤ item.room w :=
    (fitsWidth_truncate hw hroom (hplain item hitem)).fits
  have hwidth := ListItem.width_line_add_room hw hposition
  omega

end NoteList

end Notebook
