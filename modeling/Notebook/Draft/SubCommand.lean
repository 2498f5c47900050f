import Notebook.Draft.Basic

/-!
# Sub-commands in the body of a note (specification §4.2, step 4)

The body of a note may be a command for another service, such as `@pai-explain tides`. Only its
intent is recognised here. Most keywords are followed by what they are about; two stand alone.
Keywords are compared up to the case of ASCII letters, and the first of the table that fits counts.
-/

namespace Notebook

/-- A keyword of a sub-command, its kind, and whether it must stand alone. -/
structure SubCommandKeyword where
  keyword : Text
  kind : SubCommandKind
  alone : Bool
deriving Repr, DecidableEq

/-- The keywords in the order they are tried (§4.2, step 4). -/
def subCommandKeywords : List SubCommandKeyword :=
  [⟨"@pai-".toList, .aiQuery, false⟩, ⟨"@wiki-".toList, .wiki, false⟩,
    ⟨"@t-".toList, .translate, false⟩, ⟨"@summary".toList, .summary, true⟩,
    ⟨"@elaboration".toList, .elaborate, true⟩, ⟨"@def-".toList, .define, false⟩,
    ⟨"@c-".toList, .math, false⟩]

/-- The sub-command that a text is under one keyword. -/
def SubCommandKeyword.command? (k : SubCommandKeyword) (t : Text) : Option SubCommand :=
  match Text.afterAnyCase? k.keyword t with
  | none => none
  | some query => if k.alone && !query.isEmpty then none else some ⟨k.kind, Text.trim query⟩

/-- The sub-command that a body is, apart from white space around it. -/
def SubCommand.ofBody? (body : Text) : Option SubCommand :=
  subCommandKeywords.findSome? (·.command? (Text.trim body))

/-- Whether a text begins with a keyword, be it followed by more or not. -/
def beginsSubCommand (t : Text) : Bool :=
  subCommandKeywords.any fun k => (Text.afterAnyCase? k.keyword (Text.trimStart t)).isSome

end Notebook
