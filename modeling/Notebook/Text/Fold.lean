import Notebook.Text.Blank

/-!
# Letter case, as far as ASCII patterns see it

Keywords are compared in three ways: as written, up to the case of ASCII letters
(`Char.toLower`), or up to simple case folding (`foldCase`). The last differs from the second in
two characters only, because no other character folds to an ASCII letter.
-/

namespace Notebook

/-- Simple case folding for a comparison with ASCII text: besides the capitals, the long s (U+017F)
folds to `s` and the Kelvin sign (U+212A) to `k`. Every other character stands for itself. -/
def foldCase (c : Char) : Char :=
  if c = '\u017F' then 's' else if c = '\u212A' then 'k' else c.toLower

/-- A character that folds to an ASCII letter or digit. -/
def foldsToAlphanumeric (c : Char) : Bool := (foldCase c).isAlphanum

/-- On ASCII, folding is lower-casing. -/
theorem foldCase_of_ascii {c : Char} (h : c.toNat < 0x80) : foldCase c = c.toLower := by
  have h₁ : c ≠ '\u017F' := by rintro rfl; revert h; decide
  have h₂ : c ≠ '\u212A' := by rintro rfl; revert h; decide
  simp [foldCase, h₁, h₂]

end Notebook
