import Notebook.Number.Reader
import Notebook.Settings.Choices
import Notebook.Toml.Document

/-!
# Settings from a settings file (specification §10.3)

```toml
default_title = "Inbox"

[scoring]
base_score = 1.0
topic_word_weight = 2.0
item_count_weight = 0.1
min_topic_word_len = 3
```

Every key may be missing, and other keys do not matter. The weights may also be given as an array,
in the order above and without a gap.
-/

namespace Notebook
namespace Toml

/-- A text. -/
def text? : Toml → Option Text
  | string t => some t
  | _ => none

/-- A double, which may be written as a whole number of at most sixty-four bits. -/
def double? : Toml → Option Float
  | float x => some x
  | integer n =>
    if -(Nat.pow 2 63 : Int) ≤ n ∧ n < (Nat.pow 2 64 : Int) then
      some (floatOfDecimal (n < 0) n.natAbs 0)
    else none
  | _ => none

/-- A natural number of at most sixty-four bits. -/
def natural? : Toml → Option Nat
  | integer n => if 0 ≤ n ∧ n < (Nat.pow 2 64 : Int) then some n.toNat else none
  | _ => none

/-- Reads the value of a key, which may be missing but not of another kind. -/
def optional? {α : Type} (read : Toml → Option α) (key : Text) (entries : Entries) :
    Option (Option α) :=
  match entry? key entries with
  | none => some none
  | some value => (read value).map some

end Toml

namespace Choices

/-- What a table of weights says. -/
def ofWeights? (entries : Toml.Entries) : Option Choices := do
  return {
    base := ← Toml.optional? Toml.double? NumberSetting.base.key entries
    topicWord := ← Toml.optional? Toml.double? NumberSetting.topicWord.key entries
    listItem := ← Toml.optional? Toml.double? NumberSetting.listItem.key entries
    minWordLength := ← Toml.optional? Toml.natural? NumberSetting.minWordLength.key entries }

/-- What the value of the key `scoring` says. A date is a table without weights. -/
def ofScoring? : Toml → Option Choices
  | .table _ entries => ofWeights? entries
  | .date => some {}
  | .array (base :: topicWord :: listItem :: minWordLength :: _) => do
    return {
      base := some (← base.double?)
      topicWord := some (← topicWord.double?)
      listItem := some (← listItem.double?)
      minWordLength := some (← minWordLength.natural?) }
  | _ => none

/-- What a document says. -/
def ofEntries? (entries : Toml.Entries) : Option Choices := do
  let weights ← Toml.optional? ofScoring? "scoring".toList entries
  let title ← Toml.optional? Toml.text? "default_title".toList entries
  return { weights.getD {} with defaultTitle := title }

/-- What the text of a settings file says, or nothing if it is not such a text. -/
def ofText? (t : Text) : Option Choices := (Toml.parse? t).bind ofEntries?

end Choices
end Notebook
