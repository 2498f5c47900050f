import Notebook.Draft.Basic
import Notebook.Retrieval.Scoring

/-!
# Settings (specification §10.3)

What a user can choose: the title of notes that were given none, and how notes are scored.
-/

namespace Notebook

/-- The settings, with what holds where nothing is chosen (§10.3). -/
structure Settings where
  defaultTitle : Text := untitled
  scoring : Scoring := {}

end Notebook
