import Notebook.Text.Truncate

/-!
# The surroundings of a run

A run sees environment variables, files by their paths, its standard input, and the widths of the
display it writes to. How files are read is left open: `World m` reads them in a monad `m`, so that
the same program can be run on real files and reasoned about over files that are given as a
function.
-/

namespace Notebook

/-- Why a file cannot be read as a text. -/
inductive ReadError where
  | notFound
  | notDirectory
  | isDirectory
  | denied
  | notText
  | other (message : Text)
deriving Repr, DecidableEq

/-- The wording of a failure to read. -/
def ReadError.message : ReadError → Text
  | .notFound => "No such file or directory (os error 2)".toList
  | .notDirectory => "Not a directory (os error 20)".toList
  | .isDirectory => "Is a directory (os error 21)".toList
  | .denied => "Permission denied (os error 13)".toList
  | .notText => "stream did not contain valid UTF-8".toList
  | .other message => message

/-- Whether the failure means that there is nothing at the path. -/
def ReadError.isAbsence : ReadError → Bool
  | .notFound => true
  | .notDirectory => true
  | _ => false

/-- What reading a file gives: its text, or why there is none. -/
abbrev Contents := Except ReadError Text

/-- Whether there is anything at a path, judged by what reading it gives. -/
def Contents.exists : Contents → Bool
  | .ok _ => true
  | .error e => !e.isAbsence

/-- The environment variables that are set. -/
abbrev Environment := List (Text × Text)

/-- The value of a variable, if it is set. -/
def Environment.value? (env : Environment) (name : Text) : Option Text :=
  (env.find? (·.1 = name)).map (·.2)

/-- The surroundings of a run. -/
structure World (m : Type → Type) where
  environment : Environment := []
  /-- Whether the standard output is shown on a terminal. -/
  onTerminal : Bool := false
  /-- How wide the display shows what is written. -/
  widths : Widths
  /-- Reads the file at a path. -/
  read : Text → m Contents
  /-- Reads the standard input to its end. -/
  input : m Contents

end Notebook
