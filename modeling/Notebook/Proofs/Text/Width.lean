import Mathlib.Data.List.Infix
import Notebook.Text.Truncate

/-!
# The two measures of a cut text

Whether a text fits is measured on the text as a whole, and what is kept of it is measured character
by character. The two need not agree: a control takes a column in a text but has no width of its
own. This module says where a text is cut, for any display, and when that is where it should be cut:

- `Widths.Lawful` — what is known of a display;
- `Widths.columnSum` — the columns of a text, character by character;
- `Text.Cut`, `Text.exists_cut` — where a text is cut; `Text.truncate_eq_append_iff` says when
  nothing is cut off;
- `Text.FitsWidth`, `Text.fitsWidth_truncate_iff` — when it is cut as it should be;
- `Text.width_truncate_le` — how much too wide it can be;
- `Text.fitsWidth_truncate` — that it is as it should be, if no beginning of the text is wider than
  its characters;
- `Text.fitsWidth_truncate_ascii_iff` — when it is for a text of ASCII: if the text fits or has no
  control before the width is used up;
- `Widths.plain` — the display that shows every character in a column of its own.
-/

namespace Notebook

/-- A control: there is nothing to be seen of it by itself. -/
def isControl (c : Char) : Bool := c.toNat < 0x20 || (0x7F ≤ c.toNat && c.toNat < 0xA0)

namespace Widths

/-- What is known of a display. Nothing is said of what characters beyond ASCII take, but for the
ellipsis, and nothing of how many columns they share. -/
structure Lawful (w : Widths) : Prop where
  /-- A control has no width by itself. -/
  control : ∀ c, isControl c = true → w.char? c = none
  /-- What can be seen of ASCII takes a column. -/
  printable : ∀ c : Char, c.toNat < 0x80 → isControl c = false → w.char? c = some 1
  /-- In a text of ASCII every character takes a column, controls as well, where no line break is
  written with two of them. -/
  ascii : ∀ t : Text, (∀ c ∈ t, c.toNat < 0x80) → ¬['\r', '\n'] <:+: t → w.text t = t.length
  /-- A blank and an ellipsis take a column and share none with what stands on either side. -/
  apart : ∀ c ∈ [' ', '…'], ∀ t u, w.text (t ++ c :: u) = w.text t + 1 + w.text u

/-- The columns of the characters of a text, each by itself. -/
def columnSum (w : Widths) : Text → Nat
  | [] => 0
  | c :: t => w.own c + columnSum w t

variable (w : Widths)

@[simp] theorem columnSum_nil : w.columnSum [] = 0 := rfl

@[simp] theorem columnSum_cons (c : Char) (t : Text) :
    w.columnSum (c :: t) = w.own c + w.columnSum t := rfl

@[simp] theorem columnSum_append (t u : Text) :
    w.columnSum (t ++ u) = w.columnSum t + w.columnSum u := by
  induction t with
  | nil => simp
  | cons c t ih => rw [List.cons_append, columnSum_cons, columnSum_cons, ih, Nat.add_assoc]

namespace Lawful

variable {w} (hw : w.Lawful)

include hw

theorem text_nil : w.text [] = 0 := hw.ascii [] nofun (by decide)

theorem text_append_ellipsis (t : Text) : w.text (t ++ ['…']) = w.text t + 1 := by
  rw [hw.apart '…' (by decide) t [], hw.text_nil]

/-- A character of ASCII takes a column by itself if there is anything to be seen of it. -/
theorem own_of_ascii {c : Char} (hc : c.toNat < 0x80) :
    w.own c = if isControl c = false then 1 else 0 := by
  by_cases hcontrol : isControl c = true
  · rw [own, hw.control c hcontrol, if_neg (by rw [hcontrol]; decide), Option.getD_none]
  · rw [Bool.not_eq_true] at hcontrol
    rw [own, hw.printable c hc hcontrol, if_pos hcontrol, Option.getD_some]

theorem columnSum_of_ascii {t : Text} (ht : ∀ c ∈ t, c.toNat < 0x80) :
    w.columnSum t = t.countP (isControl · = false) := by
  induction t with
  | nil => rfl
  | cons c rest ih =>
    obtain ⟨hc, hrest⟩ := List.forall_mem_cons.mp ht
    rw [columnSum_cons, List.countP_cons, ih hrest, hw.own_of_ascii hc, Nat.add_comm]
    simp only [decide_eq_true_eq]

end Lawful

end Widths

namespace Text

variable {w : Widths} {width : Nat} {t kept rest : Text}

/-! ### Where a text is cut -/

/-- Where a text is cut to a width: what is kept leaves a column free, and with one character more
it would not. -/
structure Cut (w : Widths) (width : Nat) (t kept rest : Text) : Prop where
  split : t = kept ++ rest
  room : w.columnSum kept < width
  longest : ∀ c ∈ rest.head?, width ≤ w.columnSum (kept ++ [c])

theorem exists_takeColumns (w : Widths) (room : Nat) (t : Text) :
    ∃ rest, t = t.takeColumns w room ++ rest ∧ w.columnSum (t.takeColumns w room) ≤ room ∧
      ∀ c ∈ rest.head?, room < w.columnSum (t.takeColumns w room ++ [c]) := by
  -- What has been kept takes its columns from the room that the recursion goes on with.
  induction t generalizing room with
  | nil => exact ⟨[], rfl, Nat.zero_le _, nofun⟩
  | cons c t ih =>
    by_cases hfits : w.own c ≤ room
    · have htake : takeColumns w room (c :: t) = c :: takeColumns w (room - w.own c) t :=
        if_pos hfits
      obtain ⟨rest, hsplit, hroom, hlongest⟩ := ih (room - w.own c)
      refine ⟨rest, ?_, ?_, fun d hd => ?_⟩
      · rw [htake, List.cons_append, ← hsplit]
      · rw [htake, Widths.columnSum_cons]
        omega
      · have := hlongest d hd
        rw [htake, List.cons_append, Widths.columnSum_cons]
        omega
    · have htake : takeColumns w room (c :: t) = [] := if_neg hfits
      refine ⟨c :: t, by rw [htake]; rfl, by rw [htake]; exact Nat.zero_le _, fun d hd => ?_⟩
      obtain rfl := Option.some.inj hd
      rw [htake, List.nil_append, Widths.columnSum_cons]
      omega

/-- What is kept of a text is what leaves a column free if each character is measured by itself. -/
theorem exists_cut (w : Widths) (hwidth : 1 ≤ width) (t : Text) :
    ∃ rest, Cut w width t (t.takeColumns w (width - 1)) rest := by
  obtain ⟨rest, hsplit, hroom, hlongest⟩ := exists_takeColumns w (width - 1) t
  refine ⟨rest, hsplit, by omega, fun c hc => ?_⟩
  have := hlongest c hc
  omega

theorem truncate_of_lt (h : width < w.text t) :
    truncate w width t = t.takeColumns w (width - 1) ++ ['…'] := if_neg (Nat.not_le.mpr h)

namespace Cut

variable (h : Cut w width t kept rest)

include h

theorem kept_prefix : kept <+: t := ⟨rest, h.split.symm⟩

/-- Nothing is cut off only if the characters by themselves would have fitted. -/
theorem rest_eq_nil_iff : rest = [] ↔ w.columnSum t < width := by
  constructor
  · rintro rfl
    rw [h.split, List.append_nil]
    exact h.room
  · intro hsum
    by_contra hne
    obtain ⟨c, more, rfl⟩ := List.exists_cons_of_ne_nil hne
    have hlongest := h.longest c rfl
    rw [h.split, Widths.columnSum_append, Widths.columnSum_cons] at hsum
    rw [Widths.columnSum_append, Widths.columnSum_cons, Widths.columnSum_nil] at hlongest
    omega

end Cut

/-- Of a text that does not fit nothing is cut off exactly if its characters by themselves would
have fitted. -/
theorem truncate_eq_append_iff (hwidth : 1 ≤ width) (hwide : width < w.text t) :
    truncate w width t = t ++ ['…'] ↔ w.columnSum t < width := by
  obtain ⟨rest, hcut⟩ := exists_cut w hwidth t
  rw [truncate_of_lt hwide, ← hcut.rest_eq_nil_iff, List.append_left_inj]
  constructor
  · intro hkept
    have hsplit := hcut.split
    rw [hkept] at hsplit
    exact List.self_eq_append_right.mp hsplit
  · rintro rfl
    exact (hcut.split.trans (List.append_nil _)).symm

/-! ### Where it should be cut -/

/-- What a text that is cut to a width should be: no wider, and the text itself if that fits, or
else a beginning of it that is not all of it, and an ellipsis. -/
structure FitsWidth (w : Widths) (width : Nat) (t cut : Text) : Prop where
  fits : w.text cut ≤ width
  same : w.text t ≤ width → cut = t
  shorter : width < w.text t → ∃ kept rest, t = kept ++ rest ∧ rest ≠ [] ∧ cut = kept ++ ['…']

/-- A text is cut as it should be exactly if it fits, or what is kept of it fits with the ellipsis
and the characters of the whole by themselves would not. -/
theorem fitsWidth_truncate_iff (hw : w.Lawful) (hwidth : 1 ≤ width) (t : Text) :
    FitsWidth w width t (truncate w width t) ↔ (width < w.text t →
      w.text (t.takeColumns w (width - 1)) < width ∧ width ≤ w.columnSum t) := by
  obtain ⟨rest, hcut⟩ := exists_cut w hwidth t
  have hcutWidth : width < w.text t →
      w.text (truncate w width t) = w.text (t.takeColumns w (width - 1)) + 1 := by
    intro hwide
    rw [truncate_of_lt hwide, hw.text_append_ellipsis]
  constructor
  · intro h hwide
    -- The ellipsis at the end of both tells what is kept, and that tells what is cut off.
    obtain ⟨kept, rest', hsplit, hne, hkept⟩ := h.shorter hwide
    have hsame : t.takeColumns w (width - 1) = kept :=
      List.append_cancel_right ((truncate_of_lt hwide).symm.trans hkept)
    have hrest : rest = rest' := by
      have := hcut.split
      rw [hsame, hsplit] at this
      exact (List.append_cancel_left this).symm
    have hfits := h.fits
    have hnot := hcut.rest_eq_nil_iff.not.mp (hrest ▸ hne)
    rw [hcutWidth hwide] at hfits
    omega
  · intro h
    refine ⟨?_, fun hfits => if_pos hfits, fun hwide => ?_⟩
    · rcases Nat.lt_or_ge width (w.text t) with hwide | hfits
      · rw [hcutWidth hwide]
        exact (h hwide).1
      · rwa [truncate, if_pos hfits]
    · refine ⟨_, rest, hcut.split, ?_, truncate_of_lt hwide⟩
      rw [Ne, hcut.rest_eq_nil_iff]
      exact Nat.not_lt.mpr (h hwide).2

/-- A cut text is too wide by no more than what is kept is wider than its characters by
themselves. -/
theorem width_truncate_le (hw : w.Lawful) (hwidth : 1 ≤ width) (t : Text) :
    w.text (truncate w width t) ≤ width +
      (w.text (t.takeColumns w (width - 1)) - w.columnSum (t.takeColumns w (width - 1))) := by
  rcases Nat.lt_or_ge width (w.text t) with hwide | hfits
  · obtain ⟨rest, hcut⟩ := exists_cut w hwidth t
    have hroom := hcut.room
    rw [truncate_of_lt hwide, hw.text_append_ellipsis]
    omega
  · rw [truncate, if_pos hfits]
    exact Nat.le_add_right_of_le hfits

/-- A text is cut as it should be if no beginning of it is wider than its characters by
themselves. -/
theorem fitsWidth_truncate (hw : w.Lawful) (hwidth : 1 ≤ width)
    (h : ∀ kept, kept <+: t → w.text kept ≤ w.columnSum kept) :
    FitsWidth w width t (truncate w width t) := by
  refine (fitsWidth_truncate_iff hw hwidth t).mpr fun hwide => ?_
  obtain ⟨rest, hcut⟩ := exists_cut w hwidth t
  have hkept := h _ hcut.kept_prefix
  have hroom := hcut.room
  have ht := h t (List.prefix_refl t)
  omega

/-! ### Texts of ASCII -/

/-- A text of ASCII is cut as it should be exactly if it fits, or if there is no control among the
characters that the width has room for. -/
theorem fitsWidth_truncate_ascii_iff (hw : w.Lawful) (hwidth : 1 ≤ width)
    (hascii : ∀ c ∈ t, c.toNat < 0x80) (hbreak : ¬['\r', '\n'] <:+: t) :
    FitsWidth w width t (truncate w width t) ↔
      t.length ≤ width ∨ ∀ c ∈ t.take width, isControl c = false := by
  obtain ⟨rest, hcut⟩ := exists_cut w hwidth t
  rw [fitsWidth_truncate_iff hw hwidth]
  generalize t.takeColumns w (width - 1) = kept at hcut ⊢
  have hseen : ∀ u, u <+: t → w.columnSum u = u.countP (isControl · = false) := fun u hu =>
    hw.columnSum_of_ascii fun c hc => hascii c (hu.subset hc)
  rw [hw.ascii t hascii hbreak,
    hw.ascii kept (fun c hc => hascii c (hcut.kept_prefix.subset hc))
      fun hin => hbreak (hin.trans hcut.kept_prefix.isInfix)]
  constructor
  · intro h
    refine or_iff_not_imp_left.mpr fun hwide => ?_
    obtain ⟨hshort, hsum⟩ := h (Nat.lt_of_not_le hwide)
    -- With the next character the kept ones come to the width, so each of them takes a column.
    have hne : rest ≠ [] := hcut.rest_eq_nil_iff.not.mpr (Nat.not_lt.mpr hsum)
    obtain ⟨c, more, rfl⟩ := List.exists_cons_of_ne_nil hne
    have hstart : kept ++ [c] <+: t := ⟨more, by rw [hcut.split, List.append_assoc]; rfl⟩
    have hlongest := hcut.longest c rfl
    rw [hseen _ hstart] at hlongest
    have hcount : (kept ++ [c]).countP (isControl · = false) ≤ (kept ++ [c]).length :=
      List.countP_le_length
    have hlength : (kept ++ [c]).length = kept.length + 1 := List.length_append
    have htake : t.take width = kept ++ [c] := by
      rw [List.prefix_iff_eq_take.mp hstart, show (kept ++ [c]).length = width by omega]
    rw [htake]
    have hall : (kept ++ [c]).countP (isControl · = false) = (kept ++ [c]).length := by omega
    simpa using List.countP_eq_length.mp hall
  · rintro (hfits | hplain) hwide
    · omega
    have hwhole : (t.take width).countP (isControl · = false) = width := by
      rw [List.countP_eq_length.mpr (by simpa using hplain), List.length_take]
      omega
    have hcount : ∀ {u v : Text}, u <+: v →
        u.countP (isControl · = false) ≤ v.countP (isControl · = false) :=
      fun hu => hu.sublist.countP_le
    refine ⟨?_, ?_⟩
    · -- Otherwise the kept characters would have all those that the width has room for.
      by_contra hlong
      have hstart : t.take width <+: kept :=
        List.prefix_of_prefix_length_le (List.take_prefix width t) hcut.kept_prefix
          (by rw [List.length_take]; omega)
      have hkept := hcount hstart
      have hroom := hcut.room
      rw [hseen kept hcut.kept_prefix] at hroom
      omega
    · rw [hseen t (List.prefix_refl t)]
      exact hwhole ▸ hcount (List.take_prefix width t)

end Text

/-! ### The plain display -/

/-- The display that shows every character in a column of its own. No lawful display shows ASCII
otherwise, where no line break is written with two characters. -/
def Widths.plain : Widths where
  char? c := if isControl c then none else some 1
  text := List.length

theorem Widths.plain_lawful : plain.Lawful where
  control c hc := if_pos hc
  printable c _ hc := by
    have hnot : ¬isControl c = true := by rw [hc]; decide
    exact if_neg hnot
  ascii _ _ _ := rfl
  apart c _ t u := by
    show (t ++ c :: u).length = t.length + 1 + u.length
    rw [List.length_append, List.length_cons]
    omega

end Notebook
