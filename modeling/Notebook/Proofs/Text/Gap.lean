import Mathlib.Data.List.TakeWhile
import Notebook.Text.Basic
import Notebook.Text.Fold
import Notebook.Text.Word

/-!
# Gaps and runs

White space and the bar of separators are the *gaps* of a body: no flag reaches across one that is
white space, and cleaning up touches nothing else. What stands between gaps are the *runs* of a
text. More generally, a text falls into pieces at the characters with any property.

- `isGap`, `isWord_of_isGap`, `foldCase_of_isGap` — a gap is no part of a word, and no spelling of
  a letter;
- `Text.pieces`, `pieces_append` — the pieces of a text, and how a character between them splits
  them; `pieces_induction` is the induction along them;
- `Text.SamePieces` — texts with the same pieces behind whatever else stands in front of them, which
  is what to prove by induction when a text is rewritten character by character;
- `Text.runs` — the pieces between gaps.
-/

namespace Notebook

/-- White space, or the bar that separators are made of. -/
def isGap (c : Char) : Bool := isBlank c || c == '|'

theorem isGap_of_isBlank {c : Char} (h : isBlank c = true) : isGap c = true := by
  rw [isGap, h, Bool.true_or]

theorem not_isBlank_of_not_isGap {c : Char} (h : isGap c = false) : isBlank c = false :=
  (Bool.or_eq_false_iff.mp h).1

/-- The characters of white space, one by one. -/
def blankChars : List Char :=
  [9, 10, 11, 12, 13, 0x20, 0x85, 0xA0, 0x1680, 0x2000, 0x2001, 0x2002, 0x2003, 0x2004, 0x2005,
    0x2006, 0x2007, 0x2008, 0x2009, 0x200A, 0x2028, 0x2029, 0x202F, 0x205F, 0x3000].map Char.ofNat

theorem mem_blankChars {c : Char} (h : isBlank c = true) : c ∈ blankChars := by
  have hc : c = Char.ofNat c.toNat := (Char.ofNat_toNat c).symm
  rw [hc, blankChars]
  refine List.mem_map_of_mem ?_
  simp only [isBlank, Bool.or_eq_true, Bool.and_eq_true, decide_eq_true_eq, beq_iff_eq] at h
  simp only [List.mem_cons, List.not_mem_nil, or_false]
  omega

/-- A property of every gap is one of twenty-six characters. -/
theorem forall_gap {p : Char → Bool} (h : ('|' :: blankChars).all p = true) {c : Char}
    (hc : isGap c = true) : p c = true := by
  refine List.all_eq_true.mp h c ?_
  rcases Bool.or_eq_true_iff.mp hc with hblank | hbar
  · exact List.mem_cons_of_mem _ (mem_blankChars hblank)
  · rw [beq_iff_eq.mp hbar]
    exact List.mem_cons_self

/-- A gap is no part of a word. -/
theorem isWord_of_isGap {c : Char} (h : isGap c = true) : isWord c = false := by
  simpa using forall_gap (p := fun c => !isWord c) (by decide +kernel) h

/-- What is part of a word is no gap. -/
theorem not_isGap_of_isWord {c : Char} (h : isWord c = true) : isGap c = false := by
  cases hgap : isGap c with
  | false => rfl
  | true =>
    rw [isWord_of_isGap hgap] at h
    cases h

theorem not_isBlank_of_isWord {c : Char} (h : isWord c = true) : isBlank c = false :=
  not_isBlank_of_not_isGap (not_isGap_of_isWord h)

theorem not_isBlank_of_isDecimalDigit {c : Char} (h : isDecimalDigit c = true) :
    isBlank c = false :=
  not_isBlank_of_isWord (isWord_of_isDecimalDigit h)

/-- A gap is no letter in another case. -/
theorem foldCase_of_isGap {c : Char} (h : isGap c = true) : foldCase c = c := by
  simpa using forall_gap (p := fun c => foldCase c == c) (by decide +kernel) h

namespace Text

/-! ### Pieces -/

/-- The longest pieces of a text without a character that satisfies `p`. -/
def pieces (p : Char → Bool) (t : Text) : List Text := (t.splitOnP p).filter (!·.isEmpty)

section Pieces

variable {p : Char → Bool}

/-- A character between pieces splits a text into what has the pieces before it and what has those
behind it. -/
theorem pieces_append {g : Char} (hg : p g = true) (u v : Text) :
    pieces p (u ++ g :: v) = pieces p u ++ pieces p v := by
  unfold pieces
  rw [List.splitOnP_append_cons u v hg, List.filter_append]

/-- A text without such a character is one piece, if it is not empty. -/
theorem pieces_of_solid {t : Text} (h : ∀ c ∈ t, p c = false) :
    pieces p t = [t].filter (!·.isEmpty) := by
  unfold pieces
  rw [List.splitOnP_eq_singleton h]

theorem pieces_nil : pieces p [] = [] := pieces_of_solid (List.forall_mem_nil _)

theorem pieces_cons {g : Char} (hg : p g = true) (t : Text) : pieces p (g :: t) = pieces p t := by
  have h := pieces_append hg [] t
  rwa [pieces_nil] at h

/-- What stands in front of the first piece belongs to none. -/
theorem pieces_gaps_append {gaps t : Text} (h : ∀ c ∈ gaps, p c = true) :
    pieces p (gaps ++ t) = pieces p t := by
  induction gaps with
  | nil => rfl
  | cons g gaps ih =>
    rw [List.cons_append, pieces_cons (h g List.mem_cons_self)]
    exact ih fun c hc => h c (List.mem_cons_of_mem _ hc)

/-- Nor does what stands behind the last. -/
theorem pieces_append_gaps {t gaps : Text} (h : ∀ c ∈ gaps, p c = true) :
    pieces p (t ++ gaps) = pieces p t := by
  cases gaps with
  | nil => rw [List.append_nil]
  | cons g gaps =>
    have hgaps : pieces p (gaps ++ []) = pieces p [] :=
      pieces_gaps_append fun c hc => h c (List.mem_cons_of_mem _ hc)
    rw [List.append_nil, pieces_nil] at hgaps
    rw [pieces_append (h g List.mem_cons_self), hgaps, List.append_nil]

/-- Induction along the pieces of a text, or of any list: one without what stands between pieces, or
a piece, one thing between and the rest. -/
theorem pieces_induction {α : Type} (p : α → Bool) {motive : List α → Prop}
    (solid : ∀ t, (∀ c ∈ t, p c = false) → motive t)
    (split : ∀ u g v, (∀ c ∈ u, p c = false) → p g = true → motive v → motive (u ++ g :: v))
    (t : List α) : motive t := by
  have hsplit : t = t.takeWhile (!p ·) ++ t.dropWhile (!p ·) :=
    List.takeWhile_append_dropWhile.symm
  have hsolid : ∀ c ∈ t.takeWhile (!p ·), p c = false := fun c hc => by
    simpa using List.mem_takeWhile_imp hc
  -- The longest start without a separating element is the first piece.
  match hrest : t.dropWhile (!p ·) with
  | [] =>
    rw [hrest, List.append_nil] at hsplit
    rw [hsplit]
    exact solid _ hsolid
  | g :: v =>
    have hlt : v.length < t.length := by
      have := congrArg List.length hsplit
      rw [hrest, List.length_append, List.length_cons] at this
      omega
    have hg : p g = true := by
      have := List.head?_dropWhile_not (!p ·) t
      rw [hrest] at this
      simpa using this
    rw [hsplit, hrest]
    exact split _ g v hsolid hg (pieces_induction p solid split v)
  termination_by t.length

/-- Read backwards, a text has its pieces backwards. -/
theorem pieces_reverse (p : Char → Bool) (t : Text) :
    pieces p t.reverse = ((pieces p t).map List.reverse).reverse := by
  have hsolid : ∀ u : Text, (∀ c ∈ u, p c = false) →
      pieces p u.reverse = ((pieces p u).map List.reverse).reverse := by
    intro u hu
    have hreverse : ∀ c ∈ u.reverse, p c = false := fun c hc => hu c (List.mem_reverse.mp hc)
    rw [pieces_of_solid hreverse, pieces_of_solid hu]
    cases u <;> simp
  induction t using pieces_induction p with
  | solid t ht => exact hsolid t ht
  | split u g v hu hg ih =>
    rw [List.reverse_append, List.reverse_cons, List.append_assoc, List.singleton_append,
      pieces_append hg, ih, hsolid u hu, pieces_append hg, List.map_append, List.reverse_append]

/-- Two texts that have the same pieces, whatever stands in front of both. -/
def SamePieces (p : Char → Bool) (t t' : Text) : Prop :=
  ∀ front, pieces p (front ++ t) = pieces p (front ++ t')

namespace SamePieces

variable {t t' : Text}

theorem refl (t : Text) : SamePieces p t t := fun _ => rfl

theorem pieces_eq (h : SamePieces p t t') : pieces p t = pieces p t' := h []

/-- The same character in front changes nothing. -/
theorem cons (c : Char) (h : SamePieces p t t') : SamePieces p (c :: t) (c :: t') := by
  intro front
  rw [List.append_cons, List.append_cons front c t']
  exact h (front ++ [c])

/-- Behind a character between pieces it is enough that the pieces are the same, and any such
character does. -/
theorem gap {g g' : Char} (hg : p g = true) (hg' : p g' = true) (h : pieces p t = pieces p t') :
    SamePieces p (g :: t) (g' :: t') := by
  intro front
  rw [pieces_append hg, pieces_append hg', h]

end SamePieces

end Pieces

/-! ### Runs -/

/-- The longest pieces of a text without a gap. -/
def runs (t : Text) : List Text := (t.splitOnP isGap).filter (!·.isEmpty)

theorem runs_eq_pieces (t : Text) : runs t = pieces isGap t := rfl

end Text

end Notebook
