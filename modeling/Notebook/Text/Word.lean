import Notebook.Text.Alphabetic
import Notebook.Text.Mark
import Notebook.Text.Numeric

/-!
# Word characters

Three properties of characters that the grammars ask for.

* `isDecimalDigit` — a digit of any script; only the ASCII ones have a value here.
* `isAlphanumeric` — a letter or a number of any kind.
* `isWord` — what a word is made of: letters, marks, decimal digits, the underscore and its
  relatives, and the two joining controls. A word boundary lies between a character that has this
  property and a neighbour that lacks it, or an end of the text.
-/

namespace Notebook

/-- A decimal digit of any script. -/
def isDecimalDigit (c : Char) : Bool :=
  if c.toNat < 0x80 then c.isDigit else decimalDigitSpans.contains c.toNat

/-- A letter, or a number of any kind. -/
def isAlphanumeric (c : Char) : Bool :=
  if c.toNat < 0x80 then c.isAlphanum
  else alphabeticSpans.contains c.toNat || decimalDigitSpans.contains c.toNat ||
    otherNumberSpans.contains c.toNat

/-- Connecting punctuation beyond the underscore, and the zero-width joiner and non-joiner. -/
def joiningSpans : CodeSet := [
    (0x200C, 0x200D), (0x203F, 0x2040), (0x2054, 0x2054), (0xFE33, 0xFE34), (0xFE4D, 0xFE4F),
    (0xFF3F, 0xFF3F) ]

/-- A character that words are made of. -/
def isWord (c : Char) : Bool :=
  if c.toNat < 0x80 then c.isAlphanum || c == '_'
  else alphabeticSpans.contains c.toNat || markSpans.contains c.toNat ||
    decimalDigitSpans.contains c.toNat || joiningSpans.contains c.toNat

/-- Whether a text begins with a word character. -/
def startsWord : List Char → Bool
  | [] => false
  | c :: _ => isWord c

/-- Every decimal digit is a word character. -/
theorem isWord_of_isDecimalDigit {c : Char} (h : isDecimalDigit c = true) : isWord c = true := by
  unfold isDecimalDigit at h
  unfold isWord
  split at h
  · rename_i hc
    simp [hc, Char.isAlphanum, h]
  · rename_i hc
    simp [hc, h]

end Notebook
