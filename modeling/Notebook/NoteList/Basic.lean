import Notebook.Text.Basic

/-!
# Lists found in notes (specification §3, §4.3)

A list has a kind and items, and every item the position it is asked for by. Positions are taken as
written: they may repeat and leave gaps, and a look-up answers with the first item that carries the
position asked for.

* `NoteList.at?`, `itemAt?` — look-up in one list and in several;
* `listContext` — lists as text, which is what an answer is grounded on.
-/

namespace Notebook

/-- How the items of a list are marked. -/
inductive ListKind where
  | numbered
  | step
  | bullet
deriving Repr, DecidableEq

/-- The heading of a list of a kind. -/
def ListKind.heading : ListKind → Text
  | .numbered => "Numbered list".toList
  | .step => "Step list".toList
  | .bullet => "Bullet list".toList

/-- One item: its position, what it says, and the line it starts on as it stands in the note. -/
structure ListItem where
  position : Nat
  content : Text
  rawLine : Text
deriving Repr, DecidableEq

/-- A list with its items in order. -/
structure NoteList where
  kind : ListKind
  items : List ListItem
deriving Repr, DecidableEq

/-- The highest position an item can have. -/
def maxPosition : Nat := Nat.pow 2 32 - 1

/-- The first item of a list at a position (§4.3). -/
def NoteList.at? (list : NoteList) (position : Nat) : Option ListItem :=
  list.items.find? (·.position = position)

/-- The item at a position in the first list that has one. -/
def itemAt? (lists : List NoteList) (position : Nat) : Option ListItem :=
  lists.findSome? (·.at? position)

/-- How many items several lists have together. -/
def itemCount (lists : List NoteList) : Nat := (lists.flatMap (·.items)).length

/-- An item as a line of a numbered list. -/
def ListItem.render (item : ListItem) : Text :=
  Text.ofNat item.position ++ ". ".toList ++ item.content

/-- A list under its heading. -/
def NoteList.render (list : NoteList) : Text :=
  Text.unlines (('[' :: list.kind.heading ++ [']']) :: list.items.map ListItem.render)

/-- Lists under their headings, with an empty line between them (§4.3). -/
def listContext (lists : List NoteList) : Text := ['\n', '\n'].intercalate (lists.map (·.render))

end Notebook
