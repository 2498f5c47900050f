import Notebook.NoteList.ItemStart

/-!
# Finding the lists of a note (specification §4.3)

Two ways of reading a note, of which the second is taken only if the first finds nothing.

* **As a whole** (`NoteList.ofWhole?`): if at least two lines are the start of a numbered item or
  of a step, the note is one list. An item takes every line up to the next start, so it may have
  several paragraphs; blank lines at its end are dropped.
* **By blocks** (`NoteList.ofBlocks`): blank lines separate blocks, bullets count as well, and a
  plain line right below an item continues it. Bullets are numbered within their list. A list ends
  where a block ends or where the kind of the items changes, and it counts if it has at least two
  items.

`NoteList.ofText` puts the two together.
-/

namespace Notebook

namespace NoteList

/-! ### As a whole -/

/-- Cuts lines at those that start an item, as `start?` tells: the lines before the first start, and
each start with its line and the lines up to the next. -/
def cutAtStarts {α : Type} (start? : Text → Option α) :
    List Text → List Text × List (α × Text × List Text)
  | [] => ([], [])
  | line :: rest =>
    let (before, groups) := cutAtStarts start? rest
    match start? line with
    | some a => ([], (a, line, before) :: groups)
    | none => (line :: before, groups)

/-- Drops the blank lines at the end. -/
def dropBlankEnd : List Text → List Text
  | [] => []
  | line :: rest =>
    match dropBlankEnd rest with
    | [] => if Text.blank line then [] else [line]
    | next :: more => line :: next :: more

/-- The item that a start and the lines below it make. -/
def itemOfGroup : ItemStart × Text × List Text → ListItem
  | (start, line, below) =>
    { position := start.position.getD 1
      content := Text.unlines (start.title :: dropBlankEnd (below.map Text.trimEnd))
      rawLine := line }

/-- The one list of a note that has at least two starts (§4.3, pass A). Its kind is that of the
first. -/
def ofWhole? (content : Text) : Option NoteList :=
  match (cutAtStarts (ItemStart.ordered? ∘ Text.trim) (Text.lines content)).2 with
  | first :: second :: more =>
    some ⟨first.1.kind, (first :: second :: more).map itemOfGroup⟩
  | _ => none

/-! ### By blocks -/

/-- Adds an item that starts on `line`. A bullet gets the next position in the list. -/
def push (list : NoteList) (start : ItemStart) (line : Text) : NoteList :=
  let position := start.position.getD (min (list.items.length + 1) maxPosition)
  { list with items := list.items ++ [⟨position, start.title, line⟩] }

/-- Continues the last of several items with a line. -/
def continueLastItem (line : Text) : List ListItem → List ListItem
  | [] => []
  | [item] => [{ item with content := item.content ++ ' ' :: line }]
  | item :: next :: more => item :: continueLastItem line (next :: more)

/-- Continues the last item of a list with a line. -/
def continueLast (list : NoteList) (line : Text) : NoteList :=
  { list with items := continueLastItem line list.items }

/-- A list that ends here counts if it has at least two items. -/
def close : Option NoteList → List NoteList
  | none => []
  | some list => if 2 ≤ list.items.length then [list] else []

/-- Reads lines below an open list, if one is open. -/
def ofBlocksFrom : (current : Option NoteList) → List Text → List NoteList
  | current, [] => close current
  | current, line :: rest =>
    let trimmed := Text.trim line
    if trimmed.isEmpty then close current ++ ofBlocksFrom none rest
    else match ItemStart.any? trimmed, current with
      | some start, some list =>
        if list.kind = start.kind then ofBlocksFrom (some (list.push start line)) rest
        else close current ++ ofBlocksFrom (some (push ⟨start.kind, []⟩ start line)) rest
      | some start, none => ofBlocksFrom (some (push ⟨start.kind, []⟩ start line)) rest
      | none, _ => ofBlocksFrom (current.map (·.continueLast trimmed)) rest

/-- The lists in the blocks of a note (§4.3, pass B). -/
def ofBlocks (content : Text) : List NoteList := ofBlocksFrom none (Text.lines content)

/-! ### Both -/

/-- The lists of a note. -/
def ofText (content : Text) : List NoteList :=
  match ofWhole? content with
  | some list => [list]
  | none => ofBlocks content

end NoteList
end Notebook
