import Notebook.Proofs.Draft.TidyLines
import Notebook.Proofs.NoteList.ItemStart

/-!
# The start of an item in a tidy line

White space separates the parts of a line that starts an item, but no part of a start depends on how
much of it there is, and of which kind. So a squeezed line starts an item exactly if the line does,
at the same position, and its title is squeezed.

- `after?_squeeze`, `afterNumber?_squeeze` — a keyword and a number at the start of a squeezed text;
- `ItemStart.squeezed` — a start with a squeezed title;
- `ItemStart.ordered?_tidyLine`, `ItemStart.any?_tidyLine` — the start in a tidy line.
-/

namespace Notebook

open Text

/-! ### Squeezed texts -/

theorem squeeze_cons_of_not_blank {c : Char} (hc : isInlineBlank c = false) (t : Text) :
    squeeze (c :: t) = c :: squeeze t := by
  rw [squeeze, squeezeFrom, hc, if_neg Bool.false_ne_true]
  rfl

theorem squeeze_cons_of_blank {c : Char} (hc : isInlineBlank c = true) (t : Text) :
    squeeze (c :: t) = ' ' :: squeezeFrom true t := by
  rw [squeeze, squeezeFrom, hc, if_pos rfl, if_neg Bool.false_ne_true]

theorem isInlineBlank_space : isInlineBlank ' ' = true := by decide

/-- A keyword without white space stands at the start of a text if it does so in the squeezed
text. -/
theorem after?_squeeze {fold : Char → Char} {keyword : Text}
    (h : ∀ c, isInlineBlank c = true → fold c ∉ keyword.map fold) (t : Text) :
    after? fold keyword (squeeze t) = (after? fold keyword t).map squeeze := by
  induction keyword generalizing t with
  | nil => rfl
  | cons k ks ih =>
    have hk : ∀ c, isInlineBlank c = true → fold c ≠ fold k :=
      fun c hc heq => h c hc (heq ▸ List.mem_cons_self)
    have hks : ∀ c, isInlineBlank c = true → fold c ∉ ks.map fold :=
      fun c hc hmem => h c hc (List.mem_cons_of_mem _ hmem)
    cases t with
    | nil => rfl
    | cons c t =>
      by_cases hc : isInlineBlank c = true
      · rw [squeeze_cons_of_blank hc, after?, after?, if_neg (hk c hc),
          if_neg (hk ' ' isInlineBlank_space)]
        rfl
      · rw [squeeze_cons_of_not_blank (by simpa using hc), after?, after?, ih hks]
        split <;> rfl

theorem takeWhile_squeeze {p : Char → Bool} (h : ∀ c, isInlineBlank c = true → p c = false)
    (t : Text) : (squeeze t).takeWhile p = t.takeWhile p := by
  induction t with
  | nil => rfl
  | cons c t ih =>
    by_cases hc : isInlineBlank c = true
    · have hpos : ¬p c = true := by simp [h c hc]
      have hspace : ¬p ' ' = true := by simp [h ' ' isInlineBlank_space]
      rw [List.takeWhile_cons_of_neg hpos, squeeze_cons_of_blank hc,
        List.takeWhile_cons_of_neg hspace]
    · rw [squeeze_cons_of_not_blank (by simpa using hc), List.takeWhile_cons, List.takeWhile_cons,
        ih]

theorem dropWhile_squeeze {p : Char → Bool} (h : ∀ c, isInlineBlank c = true → p c = false)
    (t : Text) : (squeeze t).dropWhile p = squeeze (t.dropWhile p) := by
  induction t with
  | nil => rfl
  | cons c t ih =>
    by_cases hc : isInlineBlank c = true
    · have hpos : ¬p c = true := by simp [h c hc]
      have hspace : ¬p ' ' = true := by simp [h ' ' isInlineBlank_space]
      rw [List.dropWhile_cons_of_neg hpos, squeeze_cons_of_blank hc,
        List.dropWhile_cons_of_neg hspace]
    · rw [squeeze_cons_of_not_blank (by simpa using hc), List.dropWhile_cons, List.dropWhile_cons,
        ih]
      split
      · rfl
      · rw [squeeze_cons_of_not_blank (by simpa using hc)]

theorem isDecimalDigit_of_isInlineBlank {c : Char} (h : isInlineBlank c = true) :
    isDecimalDigit c = false :=
  not_isDecimalDigit_of_not_isWord (isWord_of_isGap (isGap_of_isInlineBlank h))

/-- A number and its separator stand at the start of a text if they do so in the squeezed text. -/
theorem afterNumber?_squeeze {separators : List Char}
    (h : ∀ c ∈ separators, isInlineBlank c = false) (spaced : Bool) (t : Text) :
    afterNumber? separators spaced (squeeze t) =
      (afterNumber? separators spaced t).map fun (digits, title) => (digits, squeeze title) := by
  have hbehind : ∀ rest : Text, (if spaced then trimStart (squeeze rest) else squeeze rest) =
      squeeze (if spaced then trimStart rest else rest) := by
    intro rest
    split
    · exact trimStart_squeezeFrom false rest
    · rfl
  unfold afterNumber?
  dsimp only
  rw [takeWhile_squeeze fun c => isDecimalDigit_of_isInlineBlank,
    dropWhile_squeeze fun c => isDecimalDigit_of_isInlineBlank, hbehind]
  cases (if spaced then trimStart (t.dropWhile isDecimalDigit)
    else t.dropWhile isDecimalDigit) with
  | nil => rfl
  | cons c title =>
    -- White space is no separator, squeezed to a space or not; anything else is left as it is.
    by_cases hc : isInlineBlank c = true
    · have hnot : ∀ d, isInlineBlank d = true → d ∉ separators := by
        intro d hd hmem
        rw [h d hmem] at hd
        cases hd
      rw [squeeze_cons_of_blank hc]
      simp [hnot c hc, hnot ' ' isInlineBlank_space]
    · rw [squeeze_cons_of_not_blank (by simpa using hc)]
      dsimp only
      split <;> rfl

/-! ### Starts -/

namespace ItemStart

/-- A start with a squeezed title. -/
def squeezed (s : ItemStart) : ItemStart := { s with title := squeeze s.title }

theorem counted?_title (kind : ListKind) (digits : Text) {title : Text} (h : title ≠ []) :
    counted? kind (some (digits, title)) =
      (positionOfDigits? digits).map fun n => ⟨kind, some n, trim title⟩ := by
  obtain ⟨c, rest, rfl⟩ := List.exists_cons_of_ne_nil h
  rfl

theorem counted?_squeeze (kind : ListKind) (read : Option (Text × Text)) :
    counted? kind (read.map fun (digits, title) => (digits, squeeze title)) =
      (counted? kind read).map squeezed := by
  match read with
  | none => rfl
  | some (digits, title) =>
    show counted? kind (some (digits, squeeze title)) = _
    by_cases hne : title = []
    · subst hne
      rfl
    · have htrim : trim (squeeze title) = squeeze (trim title) := trim_squeezeFrom false title
      rw [counted?_title kind digits (squeeze_eq_nil_iff.not.mpr hne),
        counted?_title kind digits hne, htrim, Option.map_map]
      rfl

theorem numbered?_squeeze (line : Text) :
    numbered? (squeeze line) = (numbered? line).map squeezed := by
  have hseparators : ∀ c ∈ ['.', ')', ':'], isInlineBlank c = false := by
    simp [isInlineBlank, isBlank]
  rw [numbered?, afterNumber?_squeeze hseparators, counted?_squeeze]
  rfl

/-- White space is no spelling of a part of the word. -/
theorem not_mem_step {c : Char} (h : isInlineBlank c = true) :
    foldCase c ∉ "step".toList.map foldCase := by
  have hfold : foldCase c = c := foldCase_of_isGap (isGap_of_isInlineBlank h)
  rw [hfold]
  intro hmem
  have hletters : ("step".toList.map foldCase).all Char.isAlpha = true := by decide
  have halpha := List.all_eq_true.mp hletters c hmem
  rw [not_isAlpha_of_isGap (isGap_of_isInlineBlank h)] at halpha
  cases halpha

theorem step?_squeeze (line : Text) : step? (squeeze line) = (step? line).map squeezed := by
  have hseparators : ∀ c ∈ ['-', '—', ':'], isInlineBlank c = false := by
    simp [isInlineBlank, isBlank]
  rw [step?, step?, after?_squeeze fun c => not_mem_step, ← counted?_squeeze]
  cases after? foldCase "step".toList line with
  | none => rfl
  | some rest =>
    show counted? .step (afterNumber? _ true (trimStart (squeeze rest))) = _
    rw [squeeze, trimStart_squeezeFrom, afterNumber?_squeeze hseparators]
    rfl

theorem ordered?_squeeze (line : Text) :
    ordered? (squeeze line) = (ordered? line).map squeezed := by
  rw [ordered?, numbered?_squeeze, step?_squeeze, ordered?]
  cases numbered? line <;> rfl

theorem bullet?_mark {c d : Char} {rest : Text} (hne : rest ≠ []) (hd : isBlank d = true) :
    bullet? (c :: d :: rest) =
      if c ∈ ['-', '*', '•'] then some ⟨.bullet, none, trim rest⟩ else none := by
  simp [bullet?, hne, hd]

theorem bullet?_of_not_blank {c d : Char} {rest : Text} (hd : isBlank d = false) :
    bullet? (c :: d :: rest) = none := by
  simp [bullet?, hd]

/-- A bullet has white space and something else behind its mark, which a line without white space
at its end cannot lose. -/
theorem bullet?_squeeze {line : Text} (h : Bare line) :
    bullet? (squeeze line) = (bullet? line).map squeezed := by
  match line with
  | [] => rfl
  | [c] =>
    rw [squeeze, squeezeFrom]
    split <;> rfl
  | c :: d :: rest =>
    rw [squeeze_cons_of_not_blank (isInlineBlank_of_not_blank (h.head c rfl))]
    by_cases hd : isBlank d = true
    · have hne : trim rest ≠ [] := by
        intro hnil
        have hall := trim_eq_nil_iff.mp hnil
        have hlast := h.last
        rw [List.getLast?_cons_cons] at hlast
        have hblank : ∀ e ∈ d :: rest, isBlank e = true := List.forall_mem_cons.mpr ⟨hd, hall⟩
        have hend := List.getLast?_eq_getLast_of_ne_nil (List.cons_ne_nil d rest)
        have hmem := hblank _ (List.getLast_mem (List.cons_ne_nil d rest))
        rw [hlast _ hend] at hmem
        cases hmem
      -- The white space behind the mark may be a carriage return, which is left as it is.
      obtain ⟨e, inRun, he, hsqueeze⟩ : ∃ e inRun, isBlank e = true ∧
          squeeze (d :: rest) = e :: squeezeFrom inRun rest := by
        by_cases hinline : isInlineBlank d = true
        · exact ⟨' ', true, by decide, squeeze_cons_of_blank hinline rest⟩
        · exact ⟨d, false, hd, squeeze_cons_of_not_blank (by simpa using hinline) rest⟩
      have htrim := trim_squeezeFrom inRun rest
      have hrest : rest ≠ [] := by
        rintro rfl
        exact hne rfl
      have hrest' : squeezeFrom inRun rest ≠ [] := by
        intro hnil
        rw [hnil] at htrim
        exact squeeze_eq_nil_iff.not.mpr hne htrim.symm
      rw [hsqueeze, bullet?_mark hrest' he, bullet?_mark hrest hd, htrim]
      split <;> rfl
    · have hd : isBlank d = false := by simpa using hd
      rw [squeeze_cons_of_not_blank (isInlineBlank_of_not_blank hd), bullet?_of_not_blank hd,
        bullet?_of_not_blank hd]
      rfl

theorem any?_squeeze {line : Text} (h : Bare line) :
    any? (squeeze line) = (any? line).map squeezed := by
  rw [any?, ordered?_squeeze, bullet?_squeeze h, any?]
  cases ordered? line <;> rfl

/-! ### Tidy lines -/

theorem ordered?_tidyLine (line : Text) :
    ordered? (trim (tidyLine line)) = (ordered? (trim line)).map squeezed := by
  rw [trim_tidyLine, tidyLine, ordered?_squeeze]

/-- **A tidy line starts an item exactly if the line does**, and only the title is different. -/
theorem any?_tidyLine (line : Text) :
    any? (trim (tidyLine line)) = (any? (trim line)).map squeezed := by
  rw [trim_tidyLine, tidyLine, any?_squeeze (bare_trim line)]

end ItemStart

end Notebook
