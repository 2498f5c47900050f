import Notebook.CommandLine.Arguments
import Notebook.CommandLine.Report
import Notebook.Json.Encoding
import Notebook.Json.Printer
import Notebook.Retrieval.NotesFile
import Notebook.Settings.Load

/-!
# Running the program (specification §6, §10.2)

`run` reads the arguments, loads the settings, does the task and says what comes of it: what goes to
the standard output, or why the run failed. Settings are loaded before anything else is read, so
that what is wrong with them is reported first.
-/

namespace Notebook

/-- What the program is called and which version of it this is. -/
def versionLine : Text := "hypernote 0.3.2".toList

/-- Why a run fails. -/
inductive Failure where
  | settings (error : SettingsError)
  | unreadable (error : ReadError)
  | notes (path : Text) (error : NotesError)

/-- The wording of a failure. -/
def Failure.message : Failure → Text
  | .settings e => e.message
  | .unreadable e => "IO error: ".toList ++ e.message
  | .notes _ .malformed => "Serialization error: malformed JSON".toList
  | .notes path .notArray =>
    "Invalid notes: ".toList ++ path ++ ": expected a JSON array of notes".toList
  | .notes _ (.note e) => "Serialization error: ".toList ++ e.message

/-- How a run ends. -/
inductive Ending where
  /-- The run succeeded and wrote this. -/
  | done (output : Text)
  | failed (failure : Failure)
  /-- The arguments ask for nothing that the program does. -/
  | misused

/-- The exit code of a run (§6). -/
def Ending.code : Ending → Nat
  | .done _ => 0
  | .failed _ => 1
  | .misused => 2

/-- What a run writes to the standard output. -/
def Ending.output : Ending → Text
  | .done output => output
  | _ => []

/-- What a run writes to the standard error output. -/
def Ending.errorOutput : Ending → Text
  | .failed failure => "Error: ".toList ++ failure.message ++ ['\n']
  | _ => []

/-- Lines as they are written out, with a break after each. -/
def written (ls : List Text) : Text := ls.flatMap (· ++ ['\n'])

/-- A result in the format that was asked for. -/
def Invocation.present (i : Invocation) (value : Json) (report : List Text) : Text :=
  match i.output with
  | .text => written report
  | .json => written [value.pretty]

/-- Does the task of an invocation: what it writes. -/
def Invocation.perform {m : Type → Type} [Monad m] (i : Invocation) (world : World m)
    (settings : Settings) : ExceptT Failure m Text := do
  let colored := world.wantsColors
  match i.task with
  | .parse input =>
    let intent := settings.interpret input
    return i.present intent.toJson (intent.report colored)
  | .lists file =>
    let contents ← (file.elim world.input world.read : m Contents)
    let lists := NoteList.ofText (← contents.mapError Failure.unreadable)
    return i.present (.array (lists.map NoteList.toJson)) (listsReport world.widths colored lists)
  | .ask question path =>
    let t ← (← (world.read path : m Contents)).mapError Failure.unreadable
    let notes ← (notesOfText t).mapError (Failure.notes path)
    let answer := ask question notes settings.scoring
    return i.present answer.toJson (answer.report colored)
  | .config => return i.present settings.toJson settings.report

/-- Loads the settings and does the task. -/
def Invocation.run {m : Type → Type} [Monad m] (i : Invocation) (world : World m) :
    ExceptT Failure m Text := do
  let settings ← (Settings.load world i.config : m (Except SettingsError Settings))
  i.perform world (← settings.mapError Failure.settings)

/-- Runs the program. Asking for help writes nothing. -/
def run {m : Type → Type} [Monad m] (world : World m) (arguments : List Text) : m Ending := do
  match Invocation.ofArguments arguments with
  | .error .help => return .done []
  | .error .version => return .done (written [versionLine])
  | .error .misuse => return .misused
  | .ok i =>
    match ← (i.run world).run with
    | .ok output => return .done output
    | .error failure => return .failed failure

end Notebook
