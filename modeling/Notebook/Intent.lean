import Notebook.Draft.Command
import Notebook.Settings.Basic
import Notebook.Tag.Grammar

/-!
# What a typed line is meant as (specification §2)

A line is the command that makes a note, a command on tags or groups, a rename whose new name is
refused, or plain text. The three grammars are tried in this order.
-/

namespace Notebook

/-- What a line is meant as. -/
inductive Intent where
  | newNote (draft : Draft)
  | command (command : Command)
  | invalidRename (error : RefusedRename)
  | text (text : Text)
deriving Repr, DecidableEq

/-- Decides what a line is meant as (§2, data flow). Plain text loses the white space around it. -/
def Settings.interpret (s : Settings) (input : Text) : Intent :=
  match Draft.ofCommand? s.defaultTitle input with
  | some draft => .newNote draft
  | none =>
    match Command.read input with
    | .ok (some command) => .command command
    | .ok none => .text (Text.trim input)
    | .error e => .invalidRename e

end Notebook
