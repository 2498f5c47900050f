import Notebook.Text.Basic

/-!
# Tags and what can be done with them (specification §3)

Tags come in four types, each known by a color word: blue tags are folders, green ones contexts
within a folder, grey ones loose labels, and orange ones named groups of grey tags. This module
holds the commands on tags and on groups as data; `Notebook.Tag.Grammar` reads them from text.
-/

namespace Notebook

/-- The four types of tags (§3). -/
inductive TagType where
  | blue
  | green
  | grey
  | orange
deriving Repr, DecidableEq, Inhabited

namespace TagType

/-- Every tag type, in the order they are offered. -/
def all : List TagType := [blue, green, grey, orange]

/-- The word a tag type is typed as. -/
def keyword : TagType → Text
  | blue => "blue".toList
  | green => "green".toList
  | grey => "grey".toList
  | orange => "orange".toList

/-- The tag type that a word names, letter for letter. -/
def ofKeyword? (word : Text) : Option TagType := all.find? (·.keyword = word)

/-- The wording for a word that names no tag type. -/
def unknownMessage (word : Text) : Text := "Invalid tag type: ".toList ++ word

theorem mem_all (t : TagType) : t ∈ all := by cases t <;> decide

/-- Different tag types have different words. -/
theorem keyword_inj {s t : TagType} : s.keyword = t.keyword ↔ s = t := by
  cases s <;> cases t <;> decide

end TagType

/-- What can be done with one tag (§3). -/
inductive TagCommand where
  | edit (tagType : TagType) (oldName newName : Text)
  | delete (tagType : TagType) (name : Text)
  | pin (tagType : TagType) (name : Text)
  | star (tagType : TagType) (name : Text)
deriving Repr, DecidableEq

/-- What can be done inside a group that has been entered. -/
inductive GroupAction where
  | drop
  | view
  | remove
  | back
deriving Repr, DecidableEq

namespace GroupAction

/-- Every group action. -/
def all : List GroupAction := [drop, view, remove, back]

/-- The text that asks for a group action. -/
def keyword : GroupAction → Text
  | drop => "/drop".toList
  | view => "/view".toList
  | remove => "/remove".toList
  | back => "/back".toList

/-- The group action that a text asks for. -/
def ofKeyword? (text : Text) : Option GroupAction := all.find? (·.keyword = text)

end GroupAction

/-- What can be done with a group of tags (§3). -/
inductive GroupCommand where
  | create (name : Text)
  | delete (name : Text)
  | enter (name : Text)
  | rename (oldName newName : Text)
  | action (kind : GroupAction)
deriving Repr, DecidableEq

/-- A command on a tag or on a group. -/
inductive Command where
  | tag (command : TagCommand)
  | group (command : GroupCommand)
deriving Repr, DecidableEq

end Notebook
