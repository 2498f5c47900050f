import Notebook.Text.Basic

/-!
# Cutting a text to a width (specification §10.5)

How many columns a character or a text takes is a matter of the display, not of the notebook:
`Widths` is the measure that a display has for both, and everything here is for any such measure.

A text that is too wide is cut and ends in an ellipsis. How wide a text is, is measured on the text
as a whole; what is kept of it is counted character by character.
-/

namespace Notebook

/-- How many columns a display shows things in. In a text characters may share columns or need more
of them, so the width of a text need not be the sum of the widths of its characters. -/
structure Widths where
  /-- The columns of a character by itself, if it has a width. -/
  char? : Char → Option Nat
  /-- The columns of a text. -/
  text : Text → Nat

/-- The columns of a character by itself. A character without a width takes none. -/
def Widths.own (w : Widths) (c : Char) : Nat := (w.char? c).getD 0

/-- The longest beginning of a text whose characters, each by itself, take no more than `room`
columns. -/
def Text.takeColumns (w : Widths) (room : Nat) : Text → Text
  | [] => []
  | c :: rest => if w.own c ≤ room then c :: Text.takeColumns w (room - w.own c) rest else []

/-- A text cut to a width. One column is left for the ellipsis. -/
def Text.truncate (w : Widths) (width : Nat) (t : Text) : Text :=
  if w.text t ≤ width then t else t.takeColumns w (width - 1) ++ ['…']

end Notebook
