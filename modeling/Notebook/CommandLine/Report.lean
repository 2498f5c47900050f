import Notebook.CommandLine.Paint
import Notebook.Intent
import Notebook.Number.Style
import Notebook.Retrieval.Grounding
import Notebook.Text.Quoted
import Notebook.Text.Truncate

/-!
# Results as text (specification §6, §10.5)

What the program prints for a reader: a heading and the fields of what was found, one to a line.
Reports are lists of lines; what a note says may itself go over several lines, except in lists,
whose items are put on one line each and cut for `lineWidth` columns, by the widths of the display.
-/

namespace Notebook

/-- How wide the lines of a list are meant to be at most (§10.5). -/
def lineWidth : Nat := 100

/-- What lines under a heading start with. -/
def indent : Text := [' ', ' ']

/-! ### Intents -/

/-- A field of a note with its name, in front of which there is room for nine characters. -/
def fieldLine (colored : Bool) (name : String) (value : Text) : Text :=
  let label := name.toList ++ [':']
  indent ++ Paint.faint.apply colored (label ++ List.replicate (9 - label.length) ' ') ++ value

/-- The names of the flags that are set. -/
def Attributes.flagNames (a : Attributes) : List Text :=
  [(a.isPinned, "pinned"), (a.isFavorite, "favorite"), (a.isPrivate, "private"),
    (a.isHidden, "hidden")].filterMap fun (set, name) => if set then some name.toList else none

/-- Names with commas between them, or nothing if there are none. -/
def commaList? (names : List Text) : Option Text :=
  if names.isEmpty then none else some ([',', ' '].intercalate names)

/-- The fields of a draft that are worth a line. -/
def Draft.fields (d : Draft) : List (String × Text) :=
  [("title", some d.title), ("content", some d.content),
    ("tags", commaList? d.attributes.tags.names), ("color", d.attributes.color.map (·.name)),
    ("font", d.attributes.fontFamily), ("flags", commaList? d.attributes.flagNames),
    ("nested", d.subCommand.map fun c => Text.trimEnd (c.kind.name ++ ' ' :: c.query))].filterMap
    fun (name, value) => value.map (name, ·)

/-- What a command does, in words. -/
def Command.description : Command → Text
  | .tag (.edit t old new) => onTag "rename" t old ++ " to ".toList ++ quoted new
  | .tag (.delete t name) => onTag "delete" t name
  | .tag (.pin t name) => onTag "pin" t name
  | .tag (.star t name) => onTag "star" t name
  | .group (.create name) => "create group ".toList ++ quoted name
  | .group (.delete name) => "delete group ".toList ++ quoted name
  | .group (.enter name) => "enter group ".toList ++ quoted name
  | .group (.rename old new) =>
    "rename group ".toList ++ quoted old ++ " to ".toList ++ quoted new
  | .group (.action kind) => "group action ".toList ++ kind.keyword
where
  quoted (name : Text) : Text := '\x27' :: name ++ ['\x27']
  onTag (verb : String) (t : TagType) (name : Text) : Text :=
    verb.toList ++ ' ' :: t.keyword ++ ' ' :: quoted name

/-- The report of an intent. -/
def Intent.report (colored : Bool) : Intent → List Text
  | .newNote draft =>
    Paint.newNote.apply colored "New note".toList ::
      draft.fields.map fun (name, value) => fieldLine colored name value
  | .command c =>
    let heading := match c with
      | .tag _ => "Tag command"
      | .group _ => "Group command"
    [Paint.command.apply colored heading.toList, indent ++ c.description]
  | .invalidRename e =>
    [Paint.refusal.apply colored "Invalid rename".toList, indent ++ e.message]
  | .text t => [Paint.faint.apply colored "Plain text".toList, indent ++ t]

/-! ### Lists -/

/-- What the line of an item starts with, after the indent. -/
def ListItem.mark (item : ListItem) : Text := Text.ofNat item.position ++ ['.', ' ']

/-- What an item says, on one line and cut to the room that there is. -/
def ListItem.summary (w : Widths) (item : ListItem) : Text :=
  Text.truncate w (lineWidth - (w.text indent + w.text item.mark))
    (item.content.map fun c => if c = '\n' then ' ' else c)

/-- The line of an item. -/
def ListItem.line (w : Widths) (colored : Bool) (item : ListItem) : Text :=
  indent ++ Paint.marker.apply colored item.mark ++ item.summary w

/-- The lines of a list. -/
def NoteList.report (w : Widths) (colored : Bool) (l : NoteList) : List Text :=
  let count := '(' :: Text.ofNat l.items.length ++ " items)".toList
  (Paint.heading.apply colored l.kind.heading ++ ' ' :: Paint.faint.apply colored count) ::
    l.items.map (·.line w colored)

/-- The report of the lists of a note, with an empty line between lists. -/
def listsReport (w : Widths) (colored : Bool) (lists : List NoteList) : List Text :=
  if lists.isEmpty then ["No lists found.".toList]
  else [[]].intercalate (lists.map (·.report w colored))

/-! ### Answers and settings -/

/-- The report of an answer. -/
def Answer.report (colored : Bool) (a : Answer) : List Text :=
  if a.result.isPositional then
    match a.grounding with
    | some grounding => [grounding]
    | none =>
      let position := Text.ofNat (a.result.position.getD 0)
      [Paint.marker.apply colored ("No note has an item #".toList ++ position ++ ['.'])]
  else [Paint.faint.apply colored "Not a positional question.".toList]

/-- The report of the settings, which can be used as a settings file. -/
def Settings.report (s : Settings) : List Text :=
  let number (x : Float) := NumberStyle.settings.render x
  [ "default_title = ".toList ++ s.defaultTitle.quoted,
    [],
    "[scoring]".toList,
    "base_score = ".toList ++ number s.scoring.base,
    "topic_word_weight = ".toList ++ number s.scoring.topicWord,
    "item_count_weight = ".toList ++ number s.scoring.listItem,
    "min_topic_word_len = ".toList ++ Text.ofNat s.scoring.minWordLength ]

end Notebook
