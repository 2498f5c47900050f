import Notebook.Json.Parser
import Notebook.Json.Printer
import Notebook.Retrieval.Resolve
import Notebook.Text.Quoted

/-!
# Files of notes (specification §6, §10.4)

A file of notes is a JSON array. A note in it is an object with a title and perhaps a content, both
strings, beside fields that do not matter; or an array of the two. The first note that is not of
this form is reported.
-/

namespace Notebook

/-- What a value is called in a message about it. -/
def Json.description : Json → Text
  | .null => "null".toList
  | .bool true => "boolean \x60true\x60".toList
  | .bool false => "boolean \x60false\x60".toList
  | .integer n => "integer \x60".toList ++ (Json.integer n).scalar ++ ['\x60']
  | .float x => "floating point \x60".toList ++ (Json.float x).scalar ++ ['\x60']
  | .string t => "string ".toList ++ t.quoted
  | .array _ => "sequence".toList
  | .object _ => "map".toList

/-- Why a value is no note. -/
inductive NoteError where
  | missingTitle
  | notText (value : Json)
  | notNote (value : Json)
  | noItems
  | surplusItems (count : Nat)

/-- The wording of the reason. -/
def NoteError.message : NoteError → Text
  | .missingTitle => "missing field \x60title\x60".toList
  | .notText value =>
    "invalid type: ".toList ++ value.description ++ ", expected a string".toList
  | .notNote value =>
    "invalid type: ".toList ++ value.description ++ ", expected struct Note".toList
  | .noItems => "invalid length 0, expected struct Note with 2 elements".toList
  | .surplusItems count =>
    "invalid length ".toList ++ Text.ofNat count ++ ", expected fewer elements in array".toList

/-- A string. -/
def Json.asText : Json → Except NoteError Text
  | .string t => .ok t
  | value => .error (.notText value)

/-- The text of a field, which may be missing. -/
def Json.textField? (name : Text) (fields : List (Text × Json)) : Except NoteError (Option Text) :=
  match Json.field? name fields with
  | none => .ok none
  | some value => value.asText.map some

/-- Reads a note. The content of an object is looked at before its title, and the items of an array
before their number. -/
def Note.ofJson : Json → Except NoteError Note
  | .object fields => do
    let content ← Json.textField? "content".toList fields
    match ← Json.textField? "title".toList fields with
    | some title => return { title, content := content.getD [] }
    | none => throw .missingTitle
  | .array [] => .error .noItems
  | .array [title] => do return { title := ← title.asText, content := [] }
  | .array (title :: content :: rest) => do
    let note : Note := { title := ← title.asText, content := ← content.asText }
    if rest.isEmpty then return note else throw (.surplusItems (rest.length + 2))
  | value => .error (.notNote value)

/-- Why a text is no file of notes. -/
inductive NotesError where
  | malformed
  | notArray
  | note (error : NoteError)

/-- Reads the text of a file of notes. -/
def notesOfText (t : Text) : Except NotesError (List Note) :=
  match Json.parse? t with
  | none => .error .malformed
  | some (.array values) => (values.mapM Note.ofJson).mapError .note
  | some _ => .error .notArray

end Notebook
