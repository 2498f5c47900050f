import Notebook.Draft.TagSet

/-!
# Note drafts (specification §3)

A draft is a note that has been asked for and not yet stored: a title, a content, the attributes
that were set on it, and the sub-command that the content is, if it is one.
-/

namespace Notebook

/-- The colors a note can have (§3). -/
inductive Color where
  | pink
  | purple
  | blue
  | green
  | yellow
  | orange
deriving Repr, DecidableEq

namespace Color

/-- Every color. -/
def all : List Color := [pink, purple, blue, green, yellow, orange]

/-- The name of a color. -/
def name : Color → Text
  | pink => "pink".toList
  | purple => "purple".toList
  | blue => "blue".toList
  | green => "green".toList
  | yellow => "yellow".toList
  | orange => "orange".toList

/-- The color that a word names, in any case of its ASCII letters. -/
def ofName? (word : Text) : Option Color := all.find? (·.name = word.map Char.toLower)

/-- The wording for a word that names no color. -/
def unknownMessage (word : Text) : Text := "Invalid color: ".toList ++ word

/-- A color's own name names it. -/
theorem ofName?_name (c : Color) : ofName? c.name = some c := by
  cases c <;> decide

end Color

/-- What a note can ask another service to do with it (§3). -/
inductive SubCommandKind where
  | aiQuery
  | wiki
  | summary
  | elaborate
  | translate
  | math
  | define
deriving Repr, DecidableEq

/-- The name of a kind of sub-command. -/
def SubCommandKind.name : SubCommandKind → Text
  | .aiQuery => "ai-query".toList
  | .wiki => "wiki".toList
  | .summary => "summary".toList
  | .elaborate => "elaborate".toList
  | .translate => "translate".toList
  | .math => "math".toList
  | .define => "define".toList

/-- A sub-command: what is asked for, and about what. -/
structure SubCommand where
  kind : SubCommandKind
  query : Text
deriving Repr, DecidableEq

/-- What can be set on a note besides its title and content. -/
structure Attributes where
  tags : TagSet := ∅
  color : Option Color := none
  fontFamily : Option Text := none
  isPinned : Bool := false
  isFavorite : Bool := false
  isPrivate : Bool := false
  isHidden : Bool := false
deriving Repr, DecidableEq

/-- Whether nothing is set. -/
def Attributes.isEmpty (a : Attributes) : Bool := a = {}

/-- A note that has not been stored yet (§3). -/
structure Draft where
  title : Text
  content : Text
  attributes : Attributes := {}
  subCommand : Option SubCommand := none
deriving Repr, DecidableEq

/-- The title of a note that was given none. -/
def untitled : Text := "Untitled Note".toList

/-- The tag that every hidden note carries. -/
def hiddenTag : Text := "@hide".toList

/-- A draft with nothing set. White space around the title is dropped, and a blank title is none. -/
def Draft.bare (title content : Text) : Draft where
  title := if (Text.trim title).isEmpty then untitled else Text.trim title
  content := content

end Notebook
