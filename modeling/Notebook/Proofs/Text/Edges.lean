import Mathlib.Data.List.DropRight
import Notebook.Text.Basic

/-!
# White space at the edges of a text

What the grammars need to know about `Text.trim`:

- `Text.Bare` — a text with no white space at its edges; `trim_eq_self_iff` says that these are the
  texts that trimming leaves alone, and `bare_trim` that trimming makes one of any text;
- `trim_isInfix` — trimming only takes characters away, and only at the edges;
- `exists_trim_split`, `trim_blanks_append_blanks` — a text is what trimming leaves of it with white
  space around it, and that is all there is to trimming;
- `trimStart_append`, `trim_concat_blank` — a bare text with something behind it;
- `exists_longest_start`, `takeWhile_longest_start` — the longest start of characters of a kind.
-/

namespace Notebook

namespace Text

/-- A text that neither starts nor ends with white space. -/
structure Bare (t : Text) : Prop where
  head : ∀ c ∈ t.head?, isBlank c = false
  last : ∀ c ∈ t.getLast?, isBlank c = false

/-- A property of the last characters of two texts is one of the last character of both together. -/
theorem forall_last_append {p : Char → Prop} {u v : Text} (hu : ∀ c ∈ u.getLast?, p c)
    (hv : ∀ c ∈ v.getLast?, p c) : ∀ c ∈ (u ++ v).getLast?, p c := by
  by_cases hne : v = []
  · rwa [hne, List.append_nil]
  · rwa [List.getLast?_append_of_ne_nil _ hne]

/-- What is left behind the longest start of characters of a kind begins with another kind. -/
theorem head_dropWhile (p : Char → Bool) (t : Text) : ∀ c ∈ (t.dropWhile p).head?, p c = false := by
  intro c hc
  have hnot := List.head?_dropWhile_not p t
  rw [Option.mem_def] at hc
  rw [hc] at hnot
  simpa using hnot

/-! ### Dropping at the end -/

/-- Dropping at the end by recursion from the start is the library's `rdropWhile`, whose laws carry
over. -/
theorem eq_rdropWhile {α : Type} {p : α → Bool} {f : List α → List α} (hnil : f [] = [])
    (hcons : ∀ a l, f (a :: l) =
      match f l with
      | [] => if p a then [] else [a]
      | b :: kept => a :: b :: kept) (l : List α) : f l = l.rdropWhile p := by
  induction l with
  | nil => exact hnil
  | cons a rest ih =>
    have hsplit : (a :: rest).rdropWhile p =
        ((rest.reverse.dropWhile p ++ [a]).dropWhile p).reverse := by
      rw [List.rdropWhile, List.reverse_cons, List.dropWhile_append, List.dropWhile_append,
        List.dropWhile_idempotent]
    have hrest : rest.reverse.dropWhile p = (rest.rdropWhile p).reverse := by
      rw [List.rdropWhile, List.reverse_reverse]
    rw [hcons, ih, hsplit, hrest]
    -- The first element is dropped only if everything behind it is.
    cases hr : rest.rdropWhile p with
    | nil => by_cases ha : p a <;> simp [ha]
    | cons b kept =>
      have hb : (b :: kept).reverse.dropWhile p = (b :: kept).reverse := by
        rw [← hr, ← hrest, List.dropWhile_idempotent]
      rw [List.dropWhile_append, hb]
      simp

theorem dropEndWhile_eq_rdropWhile (p : Char → Bool) (t : Text) :
    dropEndWhile p t = t.rdropWhile p := by
  refine eq_rdropWhile rfl (fun c rest => ?_) t
  rw [dropEndWhile]
  cases dropEndWhile p rest <;> rfl

section DropEnd

variable {p : Char → Bool} {t : Text}

/-- What does not end in a character that would be dropped stays. -/
theorem dropEndWhile_eq_self (h : ∀ c ∈ t.getLast?, p c = false) : dropEndWhile p t = t := by
  rw [dropEndWhile_eq_rdropWhile, List.rdropWhile_eq_self_iff]
  intro ht
  simp [h _ (List.getLast?_eq_getLast_of_ne_nil ht)]

/-- What is left does not end in one. -/
theorem last_dropEndWhile (p : Char → Bool) (t : Text) :
    ∀ c ∈ (dropEndWhile p t).getLast?, p c = false := by
  intro c hc
  rw [dropEndWhile_eq_rdropWhile] at hc
  have hne : t.rdropWhile p ≠ [] := by
    rintro h
    rw [h] at hc
    simp at hc
  rw [List.getLast?_eq_getLast_of_ne_nil hne, Option.mem_some_iff] at hc
  have := List.rdropWhile_last_not p _ hne
  rw [hc] at this
  simpa using this

theorem dropEndWhile_append {back : Text} (h : ∀ c ∈ back, p c = true) :
    dropEndWhile p (t ++ back) = dropEndWhile p t := by
  have hback : ∀ c ∈ back.reverse, p c = true := by simpa using h
  simp only [dropEndWhile_eq_rdropWhile, List.rdropWhile, List.reverse_append,
    List.dropWhile_append_of_pos hback]

/-- Only such characters are dropped. -/
theorem exists_dropEndWhile_split (p : Char → Bool) (t : Text) :
    ∃ back, t = dropEndWhile p t ++ back ∧ ∀ c ∈ back, p c = true := by
  refine ⟨t.rtakeWhile p, ?_, fun c hc => List.mem_rtakeWhile_imp hc⟩
  rw [dropEndWhile_eq_rdropWhile, List.rdropWhile_append_rtakeWhile]

end DropEnd

/-! ### Trimming -/

theorem trimStart_eq_self {t : Text} (h : ∀ c ∈ t.head?, isBlank c = false) : trimStart t = t := by
  cases t with
  | nil => rfl
  | cons c rest =>
    have hc : isBlank c = false := h c rfl
    exact List.dropWhile_cons_of_neg (by simp [hc])

theorem trimEnd_eq_self {t : Text} (h : ∀ c ∈ t.getLast?, isBlank c = false) : trimEnd t = t :=
  dropEndWhile_eq_self h

theorem trim_suffix_prefix (t : Text) : ∃ u, u <:+ t ∧ trim t <+: u := by
  refine ⟨trimStart t, List.dropWhile_suffix _, ?_⟩
  rw [trim, trimEnd, dropEndWhile_eq_rdropWhile]
  exact List.rdropWhile_prefix _ _

/-- Trimming takes characters away at the edges only. -/
theorem trim_isInfix (t : Text) : trim t <:+: t := by
  obtain ⟨u, hu, ht⟩ := trim_suffix_prefix t
  exact ht.isInfix.trans hu.isInfix

theorem mem_of_mem_trim {t : Text} {c : Char} (h : c ∈ trim t) : c ∈ t := (trim_isInfix t).subset h

theorem length_trim_le (t : Text) : (trim t).length ≤ t.length := (trim_isInfix t).length_le

/-- A trimmed text has no white space at its edges. -/
theorem bare_trim (t : Text) : Bare (trim t) where
  head := by
    intro c hc
    have hstart : ∀ d ∈ (trimStart t).head?, isBlank d = false := head_dropWhile isBlank t
    obtain ⟨v, hv⟩ : trim t <+: trimStart t := by
      rw [trim, trimEnd, dropEndWhile_eq_rdropWhile]
      exact List.rdropWhile_prefix _ _
    refine hstart c ?_
    rw [← hv]
    exact List.mem_head?_append_of_mem_head? hc
  last := last_dropEndWhile isBlank (trimStart t)

/-- Trimming leaves exactly the texts without white space at their edges alone. -/
theorem trim_eq_self_iff {t : Text} : trim t = t ↔ Bare t := by
  constructor
  · intro h
    exact h ▸ bare_trim t
  · intro h
    rw [trim, trimStart_eq_self h.head, trimEnd_eq_self h.last]

/-- Trimming twice is trimming once. -/
@[simp] theorem trim_trim (t : Text) : trim (trim t) = trim t := trim_eq_self_iff.mpr (bare_trim t)

/-- Only a text of white space has nothing left. -/
theorem trim_eq_nil_iff {t : Text} : trim t = [] ↔ ∀ c ∈ t, isBlank c = true := by
  rw [trim, trimEnd, dropEndWhile_eq_rdropWhile, List.rdropWhile_eq_nil_iff]
  constructor
  · intro h
    have hstart : trimStart t = [] := by
      cases hs : trimStart t with
      | nil => rfl
      | cons c rest =>
        have hc := head_dropWhile isBlank t c (by rw [← trimStart, hs]; rfl)
        rw [h c (by simp [hs])] at hc
        cases hc
    rwa [trimStart, List.dropWhile_eq_nil_iff] at hstart
  · intro h c hc
    exact h c ((List.dropWhile_suffix _).subset hc)

/-! ### White space around a text -/

theorem trimEnd_eq_nil {t : Text} (h : ∀ c ∈ t, isBlank c = true) : trimEnd t = [] := by
  rwa [trimEnd, dropEndWhile_eq_rdropWhile, List.rdropWhile_eq_nil_iff]

theorem trimEnd_cons {c : Char} {l m : Text} (h : trimEnd l = trimEnd m) :
    trimEnd (c :: l) = trimEnd (c :: m) := by
  unfold trimEnd at h ⊢
  rw [dropEndWhile, dropEndWhile, h]

theorem trimEnd_cons_of_ne_nil {c : Char} {t : Text} (h : trimEnd t ≠ []) :
    trimEnd (c :: t) = c :: trimEnd t := by
  simp only [trimEnd, dropEndWhile_eq_rdropWhile, List.rdropWhile, ne_eq, List.reverse_eq_nil_iff]
    at h ⊢
  rw [List.reverse_cons, List.dropWhile_append, if_neg (by simpa using h), List.reverse_append]
  rfl

theorem trimEnd_append_solid {u : Text} (hu : ∀ c ∈ u, isBlank c = false) (v : Text) :
    trimEnd (u ++ v) = u ++ trimEnd v := by
  induction u with
  | nil => rfl
  | cons c u ih =>
    have hrest := ih fun d hd => hu d (List.mem_cons_of_mem _ hd)
    by_cases hnil : trimEnd (u ++ v) = []
    · have hcut : trimEnd (c :: (u ++ v)) = trimEnd [c] := trimEnd_cons hnil
      have hsolid : trimEnd [c] = [c] := trimEnd_eq_self fun d hd => by
        obtain rfl : c = d := Option.some.inj hd
        exact hu c List.mem_cons_self
      rw [List.cons_append, hcut, hsolid, List.cons_append, ← hrest, hnil]
    · rw [List.cons_append, trimEnd_cons_of_ne_nil hnil, hrest, List.cons_append]

theorem trimEnd_append_blanks {t back : Text} (h : ∀ c ∈ back, isBlank c = true) :
    trimEnd (t ++ back) = trimEnd t := dropEndWhile_append h

/-- What is trimmed off at the end is white space. -/
theorem exists_trimEnd_split (t : Text) :
    ∃ back, t = trimEnd t ++ back ∧ ∀ c ∈ back, isBlank c = true :=
  exists_dropEndWhile_split isBlank t

@[simp] theorem trimEnd_trimEnd (t : Text) : trimEnd (trimEnd t) = trimEnd t := by
  simp only [trimEnd, dropEndWhile_eq_rdropWhile, List.rdropWhile_idempotent]

theorem trim_blanks_append {front : Text} (h : ∀ c ∈ front, isBlank c = true) (t : Text) :
    trim (front ++ t) = trim t := by
  simp only [trim, trimStart, List.dropWhile_append_of_pos h]

theorem trim_cons_blank {c : Char} (hc : isBlank c = true) (t : Text) : trim (c :: t) = trim t := by
  simp only [trim, trimStart, List.dropWhile_cons_of_pos hc]

/-- A bare text is what trimming leaves of it with white space around it. -/
theorem trim_blanks_append_blanks {front t back : Text} (ht : Bare t)
    (hfront : ∀ c ∈ front, isBlank c = true) (hback : ∀ c ∈ back, isBlank c = true) :
    trim (front ++ (t ++ back)) = t := by
  rw [trim_blanks_append hfront]
  by_cases hne : t = []
  · subst hne
    exact trim_eq_nil_iff.mpr hback
  · have hstart : trimStart (t ++ back) = t ++ back := by
      refine trimStart_eq_self fun c hc => ht.head c ?_
      rwa [List.head?_append_of_ne_nil _ hne] at hc
    rw [trim, hstart, trimEnd_append_blanks hback, trimEnd_eq_self ht.last]

/-- Trimming takes white space off both ends. -/
theorem exists_trim_split (t : Text) : ∃ front back, t = front ++ (trim t ++ back) ∧
    (∀ c ∈ front, isBlank c = true) ∧ ∀ c ∈ back, isBlank c = true := by
  obtain ⟨back, hback, hblank⟩ := exists_trimEnd_split (trimStart t)
  refine ⟨t.takeWhile isBlank, back, ?_, fun c hc => List.mem_takeWhile_imp hc, hblank⟩
  rw [trim, ← hback, trimStart, List.takeWhile_append_dropWhile]

/-- A text that begins with something else than white space is only trimmed at its end. -/
theorem exists_trim_append {t : Text} (h : ∀ c ∈ t.head?, isBlank c = false) :
    ∃ back, t = trim t ++ back ∧ ∀ c ∈ back, isBlank c = true := by
  rw [trim, trimStart_eq_self h]
  exact exists_trimEnd_split t

/-- White space may be dropped at the end first. -/
theorem trimStart_trimEnd (t : Text) : trimStart (trimEnd t) = trim t := by
  obtain ⟨front, back, hsplit, hfront, hback⟩ := exists_trim_split t
  by_cases hnil : trim t = []
  · have hblank : ∀ c ∈ trimEnd t, isBlank c = true := by
      obtain ⟨removed, ht, -⟩ := exists_trimEnd_split t
      intro c hc
      refine trim_eq_nil_iff.mp hnil c ?_
      rw [ht]
      exact List.mem_append_left _ hc
    rw [hnil]
    exact List.dropWhile_eq_nil_iff.mpr hblank
  · -- What is left is not blank, so nothing that is dropped at one end reaches the other.
    have hend : trimEnd t = front ++ trim t := by
      conv => lhs; rw [hsplit]
      rw [← List.append_assoc, trimEnd_append_blanks hback]
      refine trimEnd_eq_self fun c hc => (bare_trim t).last c ?_
      rwa [List.getLast?_append_of_ne_nil _ hnil] at hc
    rw [hend, trimStart, List.dropWhile_append_of_pos hfront]
    exact trimStart_eq_self (bare_trim t).head

theorem trim_append_blanks {back : Text} (h : ∀ c ∈ back, isBlank c = true) (t : Text) :
    trim (t ++ back) = trim t := by
  rw [← trimStart_trimEnd, trimEnd_append_blanks h, trimStart_trimEnd]

/-- What is trimmed at the end first is trimmed to the same. -/
@[simp] theorem trim_trimEnd (t : Text) : trim (trimEnd t) = trim t := by
  obtain ⟨back, hback, hblank⟩ := exists_trimEnd_split t
  conv => rhs; rw [hback, trim_append_blanks hblank]

/-- A text whose last character is no white space is not blank. -/
theorem trim_ne_nil_of_last {t : Text} (hne : t ≠ []) (h : ∀ c ∈ t.getLast?, isBlank c = false) :
    trim t ≠ [] := by
  intro hnil
  have hlast := List.getLast?_eq_getLast_of_ne_nil hne
  have hblank := trim_eq_nil_iff.mp hnil _ (List.getLast_mem hne)
  rw [h _ hlast] at hblank
  cases hblank

/-! ### A bare text with something behind it -/

theorem trimStart_append {t u : Text} (h : Bare t) (ht : t ≠ []) :
    trimStart (t ++ u) = t ++ u := by
  refine trimStart_eq_self fun c hc => h.head c ?_
  rwa [List.head?_append_of_ne_nil _ ht] at hc

/-- White space behind a bare text is trimmed off again. -/
theorem trim_concat_blank {t : Text} {c : Char} (h : Bare t) (hc : isBlank c = true) :
    trim (t ++ [c]) = t := by
  have hback : ∀ d ∈ [c], isBlank d = true := by simpa using hc
  rw [trim_append_blanks hback, trim_eq_self_iff.mpr h]

end Text

/-! ### Runs of characters -/

/-- A text falls into its longest start of characters with a property and the rest. -/
theorem exists_longest_start (p : Char → Bool) (t : Text) :
    ∃ w rest, t = w ++ rest ∧ (∀ c ∈ w, p c = true) ∧ ∀ d ∈ rest.head?, p d = false := by
  refine ⟨t.takeWhile p, t.dropWhile p, List.takeWhile_append_dropWhile.symm, ?_,
    Text.head_dropWhile p t⟩
  intro c hc
  exact List.mem_takeWhile_imp hc

/-- The longest start is found again. -/
theorem takeWhile_longest_start {p : Char → Bool} {w rest : Text} (hw : ∀ c ∈ w, p c = true)
    (hrest : ∀ d ∈ rest.head?, p d = false) : (w ++ rest).takeWhile p = w := by
  induction w with
  | nil =>
    cases rest with
    | nil => rfl
    | cons d rest => exact List.takeWhile_cons_of_neg (by simp [hrest d rfl])
  | cons c w ih =>
    rw [List.cons_append, List.takeWhile_cons_of_pos (hw c List.mem_cons_self),
      ih fun d hd => hw d (List.mem_cons_of_mem _ hd)]

theorem dropWhile_longest_start {p : Char → Bool} {w rest : Text} (hw : ∀ c ∈ w, p c = true)
    (hrest : ∀ d ∈ rest.head?, p d = false) : (w ++ rest).dropWhile p = rest := by
  rw [List.dropWhile_append_of_pos hw]
  cases rest with
  | nil => rfl
  | cons d rest => exact List.dropWhile_cons_of_neg (by simp [hrest d rfl])

end Notebook
