import Notebook.Settings.Document
import Notebook.Settings.Environment

/-!
# Loading the settings (specification §10.3)

The environment wins over the settings file, and the file over what holds by default. The file is
the one that was asked for, which then must exist, or else the one in the user's directory of
settings, which need not exist.

A file is taken for what the extension of its path says; there is one kind of settings files. All
that can be wrong is in `SettingsError`: a missing file is noticed first, then a variable that is no
number, then a path without a proper extension, and only then what is in the file.
-/

namespace Notebook

/-! ### Paths -/

/-- The last component of a path, or nothing if that is the directory above. A component that is a
single point does not count. -/
def fileName? (path : Text) : Option Text :=
  let components := (Text.splitWhere (· == '/') path).filter fun c => !c.isEmpty && c ≠ ['.']
  match components.getLast? with
  | none => none
  | some name => if name = ['.', '.'] then none else some name

/-- What follows the last point in the name of a file, unless the point is its first character. -/
def extension? (path : Text) : Option Text :=
  match fileName? path with
  | none => none
  | some name =>
    let reversed := name.reverse
    let extension := (reversed.takeWhile (· ≠ '.')).reverse
    if extension.length + 1 < name.length then some extension else none

/-- The settings file in the user's directory of settings. That directory is told by a variable, if
it is an absolute path, and otherwise lies in the home directory. -/
def Environment.settingsFile? (env : Environment) : Option Text :=
  let configured := (env.value? "XDG_CONFIG_HOME".toList).filter (·.head? = some '/')
  let home := (env.value? "HOME".toList).filter (!·.isEmpty)
  (configured.or (home.map (· ++ "/.config".toList))).map
    (· ++ "/hypernote/hypernote.toml".toList)

/-! ### Errors -/

/-- Why settings cannot be loaded. -/
inductive SettingsError where
  | missingFile (path : Text)
  | badVariable (error : VariableError)
  | noExtension (path : Text)
  | unknownExtension (path : Text)
  | unreadableFile (path : Text)
  | invalidFile (path : Text)
deriving Repr, DecidableEq

/-- Something between apostrophes. -/
def apostrophes (t : Text) : Text := '\x27' :: t ++ ['\x27']

/-- The wording of the error. -/
def SettingsError.message : SettingsError → Text
  | .missingFile path => "IO error: config file not found: ".toList ++ path
  | .badVariable e => "Config error: ".toList ++ e.message
  | .noExtension path =>
    "Config error: cannot guess configuration file format due to missing file extension in ".toList
      ++ apostrophes path
  | .unknownExtension path =>
    "Config error: unknown configuration file format/extension: ".toList ++ apostrophes path
  | .unreadableFile path =>
    "Config error: IO error occurred while reading configuration file ".toList ++ apostrophes path
  | .invalidFile path =>
    "Config error: failed to deserialize configuration from file ".toList ++ apostrophes path

/-! ### Loading -/

/-- What a settings file says. -/
def Choices.ofFile (path : Text) (contents : Contents) : Except SettingsError Choices :=
  match extension? path with
  | none => .error (.noExtension path)
  | some extension =>
    if extension ≠ "toml".toList then .error (.unknownExtension path)
    else match contents with
      | .ok t => (Choices.ofText? t).elim (.error (.invalidFile path)) .ok
      | .error .notText => .error (.invalidFile path)
      | .error _ => .error (.unreadableFile path)

/-- What the environment and perhaps a file say. -/
def Choices.gather (env : Environment) (file : Option (Text × Contents)) :
    Except SettingsError Choices := do
  let chosen ← env.choices.mapError .badVariable
  match file with
  | none => return chosen
  | some (path, contents) => return chosen.orElse (← Choices.ofFile path contents)

/-- The settings, given the file that was asked for or that is there, with its contents. -/
def Settings.ofSources (env : Environment) (file : Option (Text × Contents)) :
    Except SettingsError Settings :=
  (Choices.gather env file).map Choices.settle

/-- Loads the settings (§10.3, layering); `asked` is the path of the file that was asked for, if one
was. -/
def Settings.load {m : Type → Type} [Monad m] (world : World m) (asked : Option Text) :
    m (Except SettingsError Settings) := do
  match asked with
  | some path =>
    let contents ← world.read path
    return if contents.exists then Settings.ofSources world.environment (some (path, contents))
      else .error (.missingFile path)
  | none =>
    match world.environment.settingsFile? with
    | none => return Settings.ofSources world.environment none
    | some path =>
      let contents ← world.read path
      let file := if contents.exists then some (path, contents) else none
      return Settings.ofSources world.environment file

end Notebook
