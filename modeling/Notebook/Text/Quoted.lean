import Notebook.Text.Basic
import Notebook.Text.Printable

/-!
# Texts between quotes

A text is quoted so that it can be read on one line. Escaped are the quote, the backslash, the line
breaks, the tab and the null character, each by a character of its own, and by its code point
whatever shows nothing by itself: what is not printable, and marks that join the character before.
-/

namespace Notebook

/-- Whether a character is written by its code point. -/
def needsCodePoint (c : Char) : Bool :=
  if c.toNat < 0x80 then c.toNat < 0x20 || c.toNat == 0x7F
  else graphemeExtendSpans.contains c.toNat || unprintableSpans.contains c.toNat

/-- A character as it is written between quotes. -/
def escapeQuoted (c : Char) : Text :=
  match c with
  | '\x00' => ['\\', '0']
  | '\t' => ['\\', 't']
  | '\r' => ['\\', 'r']
  | '\n' => ['\\', 'n']
  | '\\' => ['\\', '\\']
  | '"' => ['\\', '"']
  | c =>
    if needsCodePoint c then ['\\', 'u', '\x7b'] ++ Nat.toDigits 16 c.toNat ++ ['\x7d']
    else [c]

/-- A text between quotes. -/
def Text.quoted (t : Text) : Text := '"' :: t.flatMap escapeQuoted ++ ['"']

end Notebook
