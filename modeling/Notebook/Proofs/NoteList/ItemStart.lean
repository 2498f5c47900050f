import Mathlib.Data.Option.Basic
import Notebook.NoteList.ItemStart
import Notebook.Proofs.Text.Keyword
import Notebook.Proofs.Text.Lines

/-!
# What the start of an item takes from its line

- `positionOfDigits?_eq_some_iff`, `positionOfDigits?_ofNat` — the digits of a position;
- `ItemStart.TakenFrom` — what a start has from its line: its title is the trimmed end of the line,
  and it has a position in range unless it is a bullet; `takenFrom_of_any?` says so of every
  start, and `TakenFrom.title_ne_nil` that the title of a trimmed line is not blank;
- `ItemStart.ordered?_render` — a number in front of a text makes it a numbered item.
-/

namespace Notebook

open Text

/-! ### Numbers -/

theorem positionOfDigits?_eq_some_iff {digits : Text} {n : Nat} :
    positionOfDigits? digits = some n ↔ digits ≠ [] ∧ (∀ c ∈ digits, c.isDigit = true) ∧
      n = Nat.ofDigitChars 10 digits 0 ∧ 1 ≤ n ∧ n ≤ maxPosition := by
  unfold positionOfDigits?
  -- What is no numeral has no value, and a numeral has one if it is in range.
  by_cases hdigits : digits ≠ [] ∧ digits.all Char.isDigit
  · rw [if_pos hdigits]
    simp only [List.all_eq_true] at hdigits
    constructor
    · intro h
      dsimp only at h
      split at h
      · rename_i hrange
        obtain rfl := Option.some.inj h
        exact ⟨hdigits.1, hdigits.2, rfl, hrange⟩
      · cases h
    · rintro ⟨-, -, rfl, hrange⟩
      exact if_pos hrange
  · rw [if_neg hdigits]
    simp only [List.all_eq_true] at hdigits
    constructor
    · intro h
      cases h
    · rintro ⟨hne, hall, -⟩
      exact absurd ⟨hne, hall⟩ hdigits

theorem isDigit_of_mem_ofNat {n : Nat} {c : Char} (h : c ∈ Text.ofNat n) : c.isDigit = true :=
  Nat.isDigit_of_mem_toDigits (by decide) (by decide) h

theorem ofNat_ne_nil (n : Nat) : Text.ofNat n ≠ [] := Nat.toDigits_ne_nil

/-- The digits of a position are read as that position. -/
theorem positionOfDigits?_ofNat {n : Nat} (h : 1 ≤ n) (hle : n ≤ maxPosition) :
    positionOfDigits? (Text.ofNat n) = some n :=
  positionOfDigits?_eq_some_iff.mpr ⟨ofNat_ne_nil n, fun _ hc => isDigit_of_mem_ofNat hc,
    (Nat.ofDigitChars_toDigits (by decide) (by decide)).symm, h, hle⟩

theorem takeWhile_isDecimalDigit_ofNat (n : Nat) {c : Char} (hc : isDecimalDigit c = false)
    (rest : Text) : (Text.ofNat n ++ c :: rest).takeWhile isDecimalDigit = Text.ofNat n := by
  have hdigits : ∀ d ∈ Text.ofNat n, isDecimalDigit d = true :=
    fun d hd => isDecimalDigit_of_isDigit (isDigit_of_mem_ofNat hd)
  rw [List.takeWhile_append_of_pos hdigits, List.takeWhile_cons_of_neg (by simp [hc]),
    List.append_nil]

theorem dropWhile_isDecimalDigit_ofNat (n : Nat) {c : Char} (hc : isDecimalDigit c = false)
    (rest : Text) : (Text.ofNat n ++ c :: rest).dropWhile isDecimalDigit = c :: rest := by
  have hdigits : ∀ d ∈ Text.ofNat n, isDecimalDigit d = true :=
    fun d hd => isDecimalDigit_of_isDigit (isDigit_of_mem_ofNat hd)
  rw [List.dropWhile_append_of_pos hdigits, List.dropWhile_cons_of_neg (by simp [hc])]

namespace ItemStart

/-! ### What a start has from its line -/

/-- What a start has from its line. -/
structure TakenFrom (s : ItemStart) (line : Text) : Prop where
  title : ∃ rest, rest <:+ line ∧ rest ≠ [] ∧ s.title = trim rest
  position : ∀ n ∈ s.position, 1 ≤ n ∧ n ≤ maxPosition
  bullet : s.kind = .bullet ↔ s.position = none

theorem afterNumber?_suffix {separators : List Char} {spaced : Bool} {t digits title : Text}
    (h : afterNumber? separators spaced t = some (digits, title)) : title <:+ t := by
  have hrest : t.dropWhile isDecimalDigit <:+ t := List.dropWhile_suffix _
  have hbehind : (if spaced then trimStart (t.dropWhile isDecimalDigit)
      else t.dropWhile isDecimalDigit) <:+ t := by
    split
    · exact (List.dropWhile_suffix _).trans hrest
    · exact hrest
  unfold afterNumber? at h
  dsimp only at h
  split at h
  · cases h
  · rename_i c more hmore
    split at h
    · obtain ⟨-, rfl⟩ := Prod.mk.inj (Option.some.inj h)
      rw [hmore] at hbehind
      exact (List.suffix_cons c more).trans hbehind
    · cases h

theorem takenFrom_of_counted? {kind : ListKind} {read : Option (Text × Text)} {line : Text}
    {s : ItemStart} (h : counted? kind read = some s) (hkind : kind ≠ .bullet)
    (hread : ∀ digits title, read = some (digits, title) → title <:+ line) :
    s.TakenFrom line ∧ s.kind = kind := by
  unfold counted? at h
  split at h
  · cases h
  · cases h
  · rename_i digits title hne
    obtain ⟨n, hn, rfl⟩ := Option.map_eq_some_iff.mp h
    obtain ⟨-, -, -, hrange⟩ := positionOfDigits?_eq_some_iff.mp hn
    refine ⟨⟨⟨title, hread digits title rfl, ?_, rfl⟩, ?_, ?_⟩, rfl⟩
    · exact hne
    · rintro m hm
      obtain rfl := Option.some.inj hm
      exact hrange
    · exact iff_of_false hkind (Option.some_ne_none n)

theorem takenFrom_of_numbered? {line : Text} {s : ItemStart} (h : numbered? line = some s) :
    s.TakenFrom line ∧ s.kind = .numbered :=
  takenFrom_of_counted? h (by decide) fun _ _ hread => afterNumber?_suffix hread

theorem takenFrom_of_step? {line : Text} {s : ItemStart} (h : step? line = some s) :
    s.TakenFrom line ∧ s.kind = .step := by
  refine takenFrom_of_counted? h (by decide) fun digits title hread => ?_
  obtain ⟨rest, hrest, hafter⟩ := Option.bind_eq_some_iff.mp hread
  obtain ⟨word, rfl, -⟩ := after?_eq_some_iff.mp hrest
  exact ((afterNumber?_suffix hafter).trans (List.dropWhile_suffix _)).trans
    (List.suffix_append word rest)

theorem takenFrom_of_ordered? {line : Text} {s : ItemStart} (h : ordered? line = some s) :
    s.TakenFrom line ∧ s.kind ≠ .bullet := by
  rcases (Option.orElse_eq_some _ _ _).mp h with h | ⟨-, h⟩
  · obtain ⟨hline, hkind⟩ := takenFrom_of_numbered? h
    exact ⟨hline, by simp [hkind]⟩
  · obtain ⟨hline, hkind⟩ := takenFrom_of_step? h
    exact ⟨hline, by simp [hkind]⟩

theorem takenFrom_of_bullet? {line : Text} {s : ItemStart} (h : bullet? line = some s) :
    s.TakenFrom line ∧ s.kind = .bullet := by
  unfold bullet? at h
  split at h
  · rename_i c d rest
    split at h
    · rename_i hcond
      obtain rfl := Option.some.inj h
      exact ⟨⟨⟨rest, ⟨[c, d], rfl⟩, hcond.2.2, rfl⟩, nofun, iff_of_true rfl rfl⟩, rfl⟩
    · cases h
  · cases h

/-- A start of any kind but a bullet is that of a numbered item or a step. -/
theorem ordered?_of_any? {line : Text} {s : ItemStart} (h : any? line = some s)
    (hkind : s.kind ≠ .bullet) : ordered? line = some s := by
  rcases (Option.orElse_eq_some _ _ _).mp h with h | ⟨-, h⟩
  · exact h
  · exact absurd (takenFrom_of_bullet? h).2 hkind

/-- On a line that is no bullet, the starts of any kind are those of numbered items and steps. -/
theorem any?_eq_ordered? {line : Text} (h : ∀ s ∈ any? line, s.kind ≠ .bullet) :
    any? line = ordered? line := by
  cases hany : any? line with
  | some s => exact (ordered?_of_any? hany (h s hany)).symm
  | none => exact ((Option.orElse_eq_none _ _).mp hany).1.symm

theorem takenFrom_of_any? {line : Text} {s : ItemStart} (h : any? line = some s) :
    s.TakenFrom line := by
  rcases (Option.orElse_eq_some _ _ _).mp h with h | ⟨-, h⟩
  · exact (takenFrom_of_ordered? h).1
  · exact (takenFrom_of_bullet? h).1

section TakenFrom

variable {s : ItemStart} {line : Text} (h : s.TakenFrom line)

include h

theorem TakenFrom.bare_title : Bare s.title := by
  obtain ⟨rest, -, -, htitle⟩ := h.title
  rw [htitle]
  exact bare_trim rest

/-- The title of a line that does not end in white space is not blank. -/
theorem TakenFrom.title_ne_nil (hline : Bare line) : s.title ≠ [] := by
  obtain ⟨rest, hsuffix, hne, htitle⟩ := h.title
  rw [htitle]
  refine trim_ne_nil_of_last hne fun c hc => hline.last c ?_
  obtain ⟨front, rfl⟩ := hsuffix
  rwa [List.getLast?_append_of_ne_nil _ hne]

theorem TakenFrom.not_mem_title {c : Char} (hc : c ∉ line) : c ∉ s.title := by
  obtain ⟨rest, hsuffix, -, htitle⟩ := h.title
  rw [htitle]
  exact not_mem_trim fun hmem => hc (hsuffix.subset hmem)

end TakenFrom

/-! ### A number in front of a text -/

/-- A number in front of a text makes it a numbered item. -/
theorem ordered?_number {n : Nat} (h : 1 ≤ n) (hle : n ≤ maxPosition) {title : Text}
    (hne : title ≠ []) :
    ordered? (Text.ofNat n ++ '.' :: title) = some ⟨.numbered, some n, trim title⟩ := by
  have hafter : afterNumber? ['.', ')', ':'] false (Text.ofNat n ++ '.' :: title) =
      some (Text.ofNat n, title) := by
    unfold afterNumber?
    rw [takeWhile_isDecimalDigit_ofNat n (by decide), dropWhile_isDecimalDigit_ofNat n (by decide)]
    rfl
  have hnumbered : numbered? (Text.ofNat n ++ '.' :: title) =
      some ⟨.numbered, some n, trim title⟩ := by
    obtain ⟨c, rest, rfl⟩ := List.exists_cons_of_ne_nil hne
    rw [numbered?, hafter]
    simp [counted?, positionOfDigits?_ofNat h hle]
  rw [ordered?, hnumbered]
  rfl

/-- A number with a space behind its point does so as well, and the title is the text. -/
theorem ordered?_render {n : Nat} (h : 1 ≤ n) (hle : n ≤ maxPosition) {title : Text}
    (htitle : Bare title) :
    ordered? (Text.ofNat n ++ ". ".toList ++ title) = some ⟨.numbered, some n, title⟩ := by
  have htrim : trim (' ' :: title) = title := by
    rw [trim_cons_blank (by decide), trim_eq_self_iff.mpr htitle]
  have hstart := ordered?_number h hle (List.cons_ne_nil ' ' title)
  rw [htrim] at hstart
  rw [List.append_assoc]
  exact hstart

end ItemStart

end Notebook
