import Notebook.Number.Reader
import Notebook.Settings.Choices
import Notebook.World

/-!
# Settings from environment variables (specification §10.3)

Each setting has a variable. The title is taken as it is. Numbers may have white space around them;
a variable that is set to nothing says nothing about a number, while anything else that is no number
is an error.
-/

namespace Notebook

/-- A variable whose value is no number of the kind it has to be. -/
structure VariableError where
  setting : NumberSetting
  value : Text
  reason : NumberError
deriving Repr, DecidableEq

/-- The wording of the error. -/
def VariableError.message (e : VariableError) : Text :=
  "failed to deserialize value \x60ScoringConfig::".toList ++ e.setting.key ++
    "\x60 from environment variable \x60".toList ++ e.setting.variableName ++
    "\x60: invalid value \x27".toList ++ e.value ++ "\x27 for type ".toList ++ e.setting.kind ++
    ": ".toList ++ e.reason.message

namespace Environment

/-- The number that the variable of a setting is set to. -/
def number? {α : Type} (env : Environment) (read : Text → Except NumberError α)
    (setting : NumberSetting) : Except VariableError (Option α) :=
  match env.value? setting.variableName with
  | none => .ok none
  | some raw =>
    let value := Text.trim raw
    match read value with
    | .ok x => .ok (some x)
    | .error reason => if raw.isEmpty then .ok none else .error ⟨setting, value, reason⟩

/-- What the variables say about the settings. -/
def choices (env : Environment) : Except VariableError Choices := do
  return {
    defaultTitle := env.value? "HYPERNOTE_DEFAULT_TITLE".toList
    base := ← env.number? readFloat .base
    topicWord := ← env.number? readFloat .topicWord
    listItem := ← env.number? readFloat .listItem
    minWordLength := ← env.number? readNatural .minWordLength }

end Environment
end Notebook
