import Notebook.Tag.Rename

/-!
# The grammar of tag and group commands (specification §4.1)

A command names a tag and an action, `@type-name/action`:

```text
@grey-work/pin          @blue-inbox/edit-Archive          @orange-team/create
```

`TagPhrase` is a text of that shape cut into its three parts; what each command asks of the parts is
said by one reader per command. A reader answers in one of three ways (`Reading`): the text is the
command, it is not, or it is a rename whose new name is refused. Keywords are compared letter for
letter. White space around the text and around names does not count, and a name that is nothing but
white space makes the text no command at all.

* `TagCommand.readers`, `GroupCommand.readers` — the commands, in the order they are tried.
* `Command.read` — any command; tag commands come first.
-/

namespace Notebook

/-- What a reader makes of a text: a command, nothing, or a refused rename. -/
abbrev Reading (α : Type) := Except RefusedRename (Option α)

/-- The parts of a text `@type-name/action`. The name is what stands before the first slash. -/
structure TagPhrase where
  tagType : TagType
  name : Text
  action : Text
deriving Repr, DecidableEq

/-- The opening of every phrase about a tag of type `t`. -/
def TagType.opening (t : TagType) : Text := '@' :: t.keyword ++ ['-']

/-- Reads `@type-` at the start of a text. -/
def TagType.afterOpening? (text : Text) : Option (TagType × Text) :=
  TagType.all.findSome? fun t => (Text.afterExact? t.opening text).map (t, ·)

/-- Cuts a text into the parts of a phrase. -/
def TagPhrase.ofText? (text : Text) : Option TagPhrase :=
  match TagType.afterOpening? text with
  | none => none
  | some (t, rest) =>
    match rest.dropWhile (· ≠ '/') with
    | [] => none
    | _ :: action => some ⟨t, rest.takeWhile (· ≠ '/'), action⟩

/-- The trimmed name of a phrase, if its action is one of `actions` and the name is not blank. -/
def TagPhrase.named? (p : TagPhrase) (actions : List Text) : Option Text :=
  if p.action ∈ actions ∧ Text.trim p.name ≠ [] then some (Text.trim p.name) else none

/-- The old and the new name, both trimmed, if the action of a phrase is `edit-` and a new name on
the same line, and neither name is blank. -/
def TagPhrase.rename? (p : TagPhrase) : Reading (Text × Text) :=
  match Text.afterExact? "edit-".toList p.action with
  | none => .ok none
  | some new =>
    if '\n' ∈ new ∨ Text.trim p.name = [] ∨ Text.trim new = [] then .ok none
    else match validateName (Text.trim new) with
      | .error reason => .error ⟨p.tagType, Text.trim p.name, Text.trim new, reason⟩
      | .ok () => .ok (some (Text.trim p.name, Text.trim new))

/-- The phrase a text is, apart from white space around it, if its tag type passes `allowed`. -/
def TagPhrase.read? (allowed : TagType → Bool) (text : Text) : Option TagPhrase :=
  (TagPhrase.ofText? (Text.trim text)).filter (allowed ·.tagType)

/-- Tries readers in order; the first that does not answer "nothing" decides. -/
def firstReading {α : Type} : List (Text → Reading α) → Text → Reading α
  | [], _ => .ok none
  | read :: more, text =>
    match read text with
    | .ok none => firstReading more text
    | reading => reading

/-! ### Tag commands -/

namespace TagCommand

/-- Every tag but an orange one, which is a group. -/
def isPlain (t : TagType) : Bool := t ≠ .orange

/-- Reads `@type-old/edit-new` (§4.1). -/
def readEdit (text : Text) : Reading TagCommand :=
  match TagPhrase.read? isPlain text with
  | none => .ok none
  | some p =>
    p.rename?.map fun names => names.map fun (old, new) => .edit p.tagType old new

/-- Reads `@type-name/action` for one of several spellings of an action. -/
def readNamed (allowed : TagType → Bool) (actions : List Text)
    (make : TagType → Text → TagCommand) (text : Text) : Reading TagCommand :=
  .ok <| (TagPhrase.read? allowed text).bind fun p => (p.named? actions).map (make p.tagType)

/-- Reads `@type-name/delete`. -/
def readDelete : Text → Reading TagCommand := readNamed isPlain ["delete".toList] .delete

/-- Reads `@type-name/pin`, for groups too. -/
def readPin : Text → Reading TagCommand := readNamed (fun _ => true) ["pin".toList] .pin

/-- Reads `@type-name/star` and its other spelling `@type-name/fav`, for groups too (§4.1). -/
def readStar : Text → Reading TagCommand :=
  readNamed (fun _ => true) ["star".toList, "fav".toList] .star

/-- The tag commands, in the order they are tried. -/
def readers : List (Text → Reading TagCommand) := [readEdit, readDelete, readPin, readStar]

/-- Reads a tag command. -/
def read : Text → Reading TagCommand := firstReading readers

end TagCommand

/-! ### Group commands -/

namespace GroupCommand

/-- Groups are the orange tags. -/
def isGroup (t : TagType) : Bool := t = .orange

/-- Reads a bare group action such as `/drop` (§4.1). -/
def readAction (text : Text) : Reading GroupCommand :=
  .ok ((GroupAction.ofKeyword? (Text.trim text)).map .action)

/-- Reads `@orange-name/action`. -/
def readNamed (action : Text) (make : Text → GroupCommand) (text : Text) : Reading GroupCommand :=
  .ok <| (TagPhrase.read? isGroup text).bind fun p => (p.named? [action]).map make

/-- Reads `@orange-name/create`. -/
def readCreate : Text → Reading GroupCommand := readNamed "create".toList .create

/-- Reads `@orange-name/delete`. -/
def readDelete : Text → Reading GroupCommand := readNamed "delete".toList .delete

/-- Reads `@orange-name/etots`, which enters the space of a group. -/
def readEnter : Text → Reading GroupCommand := readNamed "etots".toList .enter

/-- Reads `@orange-old/edit-new` (§4.1). -/
def readRename (text : Text) : Reading GroupCommand :=
  match TagPhrase.read? isGroup text with
  | none => .ok none
  | some p => p.rename?.map fun names => names.map fun (old, new) => .rename old new

/-- The group commands, in the order they are tried. -/
def readers : List (Text → Reading GroupCommand) :=
  [readAction, readCreate, readDelete, readEnter, readRename]

/-- Reads a group command. -/
def read : Text → Reading GroupCommand := firstReading readers

end GroupCommand

/-! ### Any command -/

/-- Reads any command (§4.1, priority). A text that is no tag command, and no refused one, may be a
group command. -/
def Command.read (text : Text) : Reading Command :=
  match TagCommand.read text with
  | .error e => .error e
  | .ok (some c) => .ok (some (.tag c))
  | .ok none => (GroupCommand.read text).map (·.map .group)

/-! ### Writing commands -/

/-- The one way to write `@type-name/action` that has no white space to spare. -/
def TagPhrase.render (p : TagPhrase) : Text := p.tagType.opening ++ p.name ++ '/' :: p.action

/-- A tag command as it is typed. -/
def TagCommand.render : TagCommand → Text
  | .edit t old new => TagPhrase.render ⟨t, old, "edit-".toList ++ new⟩
  | .delete t name => TagPhrase.render ⟨t, name, "delete".toList⟩
  | .pin t name => TagPhrase.render ⟨t, name, "pin".toList⟩
  | .star t name => TagPhrase.render ⟨t, name, "star".toList⟩

/-- A group command as it is typed. -/
def GroupCommand.render : GroupCommand → Text
  | .create name => TagPhrase.render ⟨.orange, name, "create".toList⟩
  | .delete name => TagPhrase.render ⟨.orange, name, "delete".toList⟩
  | .enter name => TagPhrase.render ⟨.orange, name, "etots".toList⟩
  | .rename old new => TagPhrase.render ⟨.orange, old, "edit-".toList ++ new⟩
  | .action kind => kind.keyword

/-- A command as it is typed. -/
def Command.render : Command → Text
  | .tag c => c.render
  | .group c => c.render

end Notebook
