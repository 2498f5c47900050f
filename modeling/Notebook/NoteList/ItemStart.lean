import Notebook.NoteList.Basic
import Notebook.Text.Fold
import Notebook.Text.Word

/-!
# Lines that start an item (specification §4.3)

A line starts an item if it begins with a number and one of `.`, `)`, `:`, with the word "step", a
number and one of `-`, `—`, `:`, or with one of `-`, `*`, `•` and white space. Something must
follow. The functions take a line without its line break and without white space around it.

A number is a run of decimal digits, of any script, that is cut off only where it ends; it has a
position if the digits are ASCII and the value is between one and `maxPosition`. A line whose number
has none does not start an item of that shape.
-/

namespace Notebook

/-- The start of an item: its kind, its position unless it is a bullet, and its trimmed first
line. -/
structure ItemStart where
  kind : ListKind
  position : Option Nat
  title : Text
deriving Repr, DecidableEq

/-- The position that a run of digits writes. Leading zeros do not count. -/
def positionOfDigits? (digits : Text) : Option Nat :=
  if digits ≠ [] ∧ digits.all Char.isDigit then
    let n := Nat.ofDigitChars 10 digits 0
    if 1 ≤ n ∧ n ≤ maxPosition then some n else none
  else none

/-- What follows the number and one of `separators`, with the digits of the number. White space
before the separator is passed over if `spaced`. -/
def afterNumber? (separators : List Char) (spaced : Bool) (t : Text) : Option (Text × Text) :=
  let digits := t.takeWhile isDecimalDigit
  let rest := t.dropWhile isDecimalDigit
  match if spaced then Text.trimStart rest else rest with
  | [] => none
  | c :: title => if c ∈ separators then some (digits, title) else none

/-- The start of an item of a kind, given the number and the title that were read, if the number has
a position. -/
def ItemStart.counted? (kind : ListKind) (read : Option (Text × Text)) : Option ItemStart :=
  match read with
  | none => none
  | some (_, []) => none
  | some (digits, title) =>
    (positionOfDigits? digits).map fun n => ⟨kind, some n, Text.trim title⟩

/-- Reads `12. title`, `12) title` or `12: title` (§4.3). -/
def ItemStart.numbered? (line : Text) : Option ItemStart :=
  counted? .numbered (afterNumber? ['.', ')', ':'] false line)

/-- Reads `Step 12 - title`, `Step 12 — title` or `Step 12: title`, in any case (§4.3). -/
def ItemStart.step? (line : Text) : Option ItemStart :=
  counted? .step <|
    (Text.after? foldCase "step".toList line).bind fun rest =>
      afterNumber? ['-', '—', ':'] true (Text.trimStart rest)

/-- Reads `- title`, `* title` or `• title`. -/
def ItemStart.bullet? : Text → Option ItemStart
  | c :: d :: rest =>
    if c ∈ ['-', '*', '•'] ∧ isBlank d ∧ rest ≠ [] then some ⟨.bullet, none, Text.trim rest⟩
    else none
  | _ => none

/-- Reads the start of a numbered item or a step. -/
def ItemStart.ordered? (line : Text) : Option ItemStart := numbered? line <|> step? line

/-- Reads the start of an item of any kind. -/
def ItemStart.any? (line : Text) : Option ItemStart := ordered? line <|> bullet? line

end Notebook
