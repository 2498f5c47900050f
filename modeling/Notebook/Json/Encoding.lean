import Notebook.Intent
import Notebook.Json.Basic
import Notebook.Retrieval.Grounding

/-!
# The results as data

How drafts, commands, lists, queries, answers and settings are written as JSON. A draft carries its
attributes beside its title, and an answer its grounding beside the result.
-/

namespace Notebook

/-- The name of a kind of lists in data. -/
def ListKind.name : ListKind → Text
  | .numbered => "numbered".toList
  | .step => "step".toList
  | .bullet => "bullet".toList

/-- The name of a group action in data. -/
def GroupAction.name : GroupAction → Text
  | .drop => "drop".toList
  | .view => "view".toList
  | .remove => "remove".toList
  | .back => "back".toList

/-- A tag type is its word. -/
def TagType.toJson (t : TagType) : Json := .string t.keyword

/-- A color is its name. -/
def Color.toJson (c : Color) : Json := .string c.name

/-- A kind of sub-command is its name. -/
def SubCommandKind.toJson (k : SubCommandKind) : Json := .string k.name

/-- A sub-command. -/
def SubCommand.toJson (c : SubCommand) : Json :=
  .record [("kind", c.kind.toJson), ("query", .string c.query)]

/-- A draft. -/
def Draft.toJson (d : Draft) : Json :=
  .record [("title", .string d.title), ("content", .string d.content),
    ("tags", .array (d.attributes.tags.names.map .string)),
    ("color", .ofOption Color.toJson d.attributes.color),
    ("is_pinned", .bool d.attributes.isPinned), ("is_favorite", .bool d.attributes.isFavorite),
    ("is_private", .bool d.attributes.isPrivate), ("is_hidden", .bool d.attributes.isHidden),
    ("font_family", .ofText? d.attributes.fontFamily),
    ("nested_command", .ofOption SubCommand.toJson d.subCommand)]

/-- A command on a tag, under the name of what is done. -/
def TagCommand.toJson : TagCommand → Json
  | .edit t old new =>
    .record [("command", .string "edit".toList), ("tag_type", t.toJson), ("old_name", .string old),
      ("new_name", .string new)]
  | .delete t name => named "delete" t name
  | .pin t name => named "pin" t name
  | .star t name => named "star" t name
where
  named (command : String) (t : TagType) (name : Text) : Json :=
    .record [("command", .string command.toList), ("tag_type", t.toJson),
      ("tag_name", .string name)]

/-- A command on a group, under the name of what is done. -/
def GroupCommand.toJson : GroupCommand → Json
  | .create name => named "create" name
  | .delete name => named "delete" name
  | .enter name => named "enter" name
  | .rename old new =>
    .record [("command", .string "rename".toList), ("old_name", .string old),
      ("new_name", .string new)]
  | .action kind => .record [("command", .string "action".toList), ("kind", .string kind.name)]
where
  named (command : String) (name : Text) : Json :=
    .record [("command", .string command.toList), ("group_name", .string name)]

/-- A command, under what it is about. -/
def Command.toJson : Command → Json
  | .tag c => .record [("tag", c.toJson)]
  | .group c => .record [("group", c.toJson)]

/-- Why a name is refused. -/
def NameError.toJson : NameError → Json
  | .empty => .string "empty".toList
  | .invalidCharacter c => .record [("invalid_character", .string [c])]

/-- A refused rename. -/
def RefusedRename.toJson (e : RefusedRename) : Json :=
  .record [("tag_type", e.tagType.toJson), ("old_name", .string e.oldName),
    ("new_name", .string e.newName), ("reason", e.reason.toJson)]

/-- An intent, under its name. -/
def Intent.toJson : Intent → Json
  | .newNote draft => named "hyper" draft.toJson
  | .command c => named "command" c.toJson
  | .invalidRename e => named "invalid_rename" e.toJson
  | .text t => named "text" (.string t)
where
  named (intent : String) (value : Json) : Json :=
    .record [("intent", .string intent.toList), ("value", value)]

/-- A list item. -/
def ListItem.toJson (item : ListItem) : Json :=
  .record [("position", .ofNat item.position), ("content", .string item.content),
    ("raw_line", .string item.rawLine)]

/-- A list. -/
def NoteList.toJson (list : NoteList) : Json :=
  .record [("items", .array (list.items.map ListItem.toJson)),
    ("list_type", .string list.kind.name)]

/-- A query. -/
def ItemQuery.toJson (q : ItemQuery) : Json :=
  .record [("position", .ofNat q.position), ("topic", .ofText? q.topic)]

/-- The fields of a result. -/
def QueryResult.fields (r : QueryResult) : List (String × Json) :=
  [("is_positional", .bool r.isPositional), ("position", .ofOption .ofNat r.position),
    ("topic", .ofText? r.topic), ("extracted_item", .ofText? r.item),
    ("source_note", .ofText? r.noteTitle), ("full_list_context", .ofText? r.context)]

/-- A result. -/
def QueryResult.toJson (r : QueryResult) : Json := .record r.fields

/-- An answer: the fields of the result, and the grounding. -/
def Answer.toJson (a : Answer) : Json :=
  .record (a.result.fields ++ [("grounding", .ofText? a.grounding)])

/-- The settings. -/
def Settings.toJson (s : Settings) : Json :=
  .record [("default_title", .string s.defaultTitle),
    ("scoring", .record [("base_score", .float s.scoring.base),
      ("topic_word_weight", .float s.scoring.topicWord),
      ("item_count_weight", .float s.scoring.listItem),
      ("min_topic_word_len", .ofNat s.scoring.minWordLength)])]

end Notebook
