import Notebook.Settings.Basic

/-!
# Layers of settings (specification §10.3)

Settings come from several sources, none of which has to say everything. What one source says is
`Choices`; sources are laid over each other with `Choices.orElse`, where the first that says
something wins, and `Choices.settle` fills in what no source has said.
-/

namespace Notebook

/-- What one source says about the settings. -/
structure Choices where
  defaultTitle : Option Text := none
  base : Option Float := none
  topicWord : Option Float := none
  listItem : Option Float := none
  minWordLength : Option Nat := none

namespace Choices

/-- The choices of two sources, of which the first wins. -/
def orElse (first second : Choices) : Choices where
  defaultTitle := first.defaultTitle.or second.defaultTitle
  base := first.base.or second.base
  topicWord := first.topicWord.or second.topicWord
  listItem := first.listItem.or second.listItem
  minWordLength := first.minWordLength.or second.minWordLength

/-- The settings that choices amount to. -/
def settle (c : Choices) : Settings :=
  let s : Settings := {}
  { defaultTitle := c.defaultTitle.getD s.defaultTitle
    scoring :=
      { base := c.base.getD s.scoring.base
        topicWord := c.topicWord.getD s.scoring.topicWord
        listItem := c.listItem.getD s.scoring.listItem
        minWordLength := c.minWordLength.getD s.scoring.minWordLength } }

@[simp] theorem orElse_nothing (c : Choices) : c.orElse {} = c := by
  cases c; simp [orElse]

@[simp] theorem nothing_orElse (c : Choices) : ({} : Choices).orElse c = c := by
  cases c; simp [orElse]

theorem orElse_assoc (a b c : Choices) : (a.orElse b).orElse c = a.orElse (b.orElse c) := by
  simp [orElse, Option.or_assoc]

/-- Nothing chosen leaves the settings as they are by default. -/
@[simp] theorem settle_nothing : ({} : Choices).settle = {} := rfl

end Choices

/-- A setting that is a number. -/
inductive NumberSetting where
  | base
  | topicWord
  | listItem
  | minWordLength
deriving Repr, DecidableEq

namespace NumberSetting

/-- The name of a setting in a settings file. -/
def key : NumberSetting → Text
  | .base => "base_score".toList
  | .topicWord => "topic_word_weight".toList
  | .listItem => "item_count_weight".toList
  | .minWordLength => "min_topic_word_len".toList

/-- The environment variable of a setting. -/
def variableName : NumberSetting → Text
  | .base => "HYPERNOTE_BASE_SCORE".toList
  | .topicWord => "HYPERNOTE_TOPIC_WORD_WEIGHT".toList
  | .listItem => "HYPERNOTE_ITEM_COUNT_WEIGHT".toList
  | .minWordLength => "HYPERNOTE_MIN_TOPIC_WORD_LEN".toList

/-- The kind of number that a setting is, as messages call it. -/
def kind : NumberSetting → Text
  | .minWordLength => "u64".toList
  | _ => "f64".toList

end NumberSetting
end Notebook
