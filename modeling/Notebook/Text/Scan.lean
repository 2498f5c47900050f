import Notebook.Text.Basic

/-!
# Scanning a text for occurrences

`Text.scan` walks a text from left to right with a *reader*, which looks at the text from a
position, is told the character before it, and may recognise an occurrence there. Occurrences do
not overlap: the walk goes on behind the one just found. The result lists the characters passed
over and the occurrences found, in order, so a replacement and a collection of the values found are
two views of one list.

* `Found` — a recognised occurrence: its value, how many characters it takes away, and how many
  after those are passed over unread.
* `Piece` — one element of a scanned text.
* `Text.substitute` — the text with every occurrence replaced.
* `Text.found` — the values found.
-/

namespace Notebook

/-- An occurrence at the start of a text: what it says, the number of characters beyond the first
that it takes away, and the number of characters after those that are kept without being looked
at. -/
structure Found (α : Type) where
  value : α
  removedAfterFirst : Nat
  kept : Nat
deriving Repr, DecidableEq

/-- A scanned text is made of characters that stay and of occurrences. -/
inductive Piece (α : Type) where
  | char (c : Char)
  | found (value : α)
deriving Repr, DecidableEq

/-- Recognises an occurrence at the start of a text, given the character before it. -/
abbrev Reader (α : Type) := Option Char → Text → Option (Found α)

namespace Text

/-- Walks a text with a reader. `removed` characters still belong to the last occurrence and `kept`
more are passed over unread; `before` is the character before the text. -/
def scanFrom {α : Type} (read : Reader α) :
    (removed kept : Nat) → (before : Option Char) → Text → List (Piece α)
  | _, _, _, [] => []
  | removed + 1, kept, _, c :: rest => scanFrom read removed kept (some c) rest
  | 0, kept + 1, _, c :: rest => .char c :: scanFrom read 0 kept (some c) rest
  | 0, 0, before, c :: rest =>
    match read before (c :: rest) with
    | some f => .found f.value :: scanFrom read f.removedAfterFirst f.kept (some c) rest
    | none => .char c :: scanFrom read 0 0 (some c) rest

/-- The pieces of a text under a reader. -/
def scan {α : Type} (read : Reader α) (t : Text) : List (Piece α) := scanFrom read 0 0 none t

/-- The text of the pieces, with `replacement` for every occurrence. -/
def substitute {α : Type} (replacement : Text) (pieces : List (Piece α)) : Text :=
  pieces.flatMap fun
    | .char c => [c]
    | .found _ => replacement

/-- The values of the occurrences. -/
def found {α : Type} (pieces : List (Piece α)) : List α :=
  pieces.filterMap fun
    | .char _ => none
    | .found value => some value

end Text
end Notebook
