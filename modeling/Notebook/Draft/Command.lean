import Notebook.Draft.Cleanup
import Notebook.Draft.Flags
import Notebook.Draft.SubCommand

/-!
# The command that makes a note (specification §4.2)

A note is asked for on one line, with its title, its content and its attributes:

```text
@new-Title || Content || ##tag c:blue f:Inter is:pin
```

The text before the first separator is the title, unless the text is a sub-command or looks like an
address: those are all body, whatever separators they hold. Flags may stand anywhere in the body.

* `cutTitle` — title and body;
* `Draft.ofCommand?` — the draft that a command asks for.
-/

namespace Notebook

/-- What the command begins with, in any case. -/
def newNoteKeyword : Text := "@new-".toList

/-- What follows the keyword of the command. -/
def afterNewNote? (input : Text) : Option Text :=
  Text.afterAnyCase? newNoteKeyword (Text.trimStart input)

/-- Whether an input is a command that makes a note. -/
def isNewNote (input : Text) : Bool := (afterNewNote? input).isSome

/-- Whether a text looks like an address: it begins as one, or has `://` anywhere (§4.2, step 1). -/
def looksLikeAddress (t : Text) : Bool :=
  let start := Text.trimStart t
  (Text.afterAnyCase? "http://".toList start).isSome ||
    (Text.afterAnyCase? "https://".toList start).isSome ||
    (Text.afterAnyCase? "www.".toList start).isSome ||
    Text.contains "://".toList start

/-- The title, if there is one, and the body (§4.2, step 1). A blank title is none, and its
separator is dropped with it. -/
def cutTitle (t : Text) : Option Text × Text :=
  if beginsSubCommand t || looksLikeAddress t then (none, t)
  else match Text.splitOnce? separator t with
    | none => (none, t)
    | some (title, body) =>
      let title := Text.trim title
      (if title.isEmpty then none else some title, body)

/-- The draft that a command asks for. A note without a title gets `defaultTitle`. -/
def Draft.ofCommand? (defaultTitle input : Text) : Option Draft :=
  match afterNewNote? input with
  | none => none
  | some rest =>
    let (title, body) := cutTitle rest
    let (body, attributes) := Attributes.extract body
    let content := tidyBody body
    some { Draft.bare (title.getD defaultTitle) content with
      attributes, subCommand := SubCommand.ofBody? content }

end Notebook
