import Notebook.NoteList.ItemStart

/-!
# The words of positional questions (specification §4.4)

Nouns that a position may be asked of, words for positions, and the small words around them. In
every table no word is the beginning of another, so at most one fits at a place.
-/

namespace Notebook

/-- Nouns that may follow an ordinal. -/
def nounsAfterOrdinal : List Text :=
  ["method", "step", "point", "item", "way", "technique", "rule", "principle", "type", "kind",
    "example", "part", "section", "chapter", "element", "component", "feature", "tip", "trick",
    "hack", "strategy", "approach", "phase", "stage"].map String.toList

/-- Nouns that may stand before a number. They are fewer, so that "type 2 diabetes" asks for
nothing. -/
def nounsBeforeNumber : List Text :=
  ["method", "step", "point", "item", "way", "technique", "rule", "principle", "part", "section",
    "chapter", "tip", "phase", "stage"].map String.toList

/-- Nouns that may follow an ordinal that has been asked for outright. -/
def askNouns : List Text := ["one", "item", "method", "step", "point"].map String.toList

/-- Words for positions, with their values. -/
def ordinals : List (Text × Nat) :=
  [("first", 1), ("second", 2), ("third", 3), ("fourth", 4), ("fifth", 5), ("sixth", 6),
    ("seventh", 7), ("eighth", 8), ("ninth", 9), ("tenth", 10), ("eleventh", 11), ("twelfth", 12),
    ("1st", 1), ("2nd", 2), ("3rd", 3), ("4th", 4), ("5th", 5), ("6th", 6), ("7th", 7), ("8th", 8),
    ("9th", 9), ("10th", 10), ("11th", 11), ("12th", 12)].map fun (w, n) => (w.toList, n)

/-- The endings that make an ordinal of a number. -/
def ordinalEndings : List Text := ["st", "nd", "rd", "th"].map String.toList

/-- The prepositions that a topic follows. -/
def prepositions : List Text := ["of", "in", "from", "for"].map String.toList

/-- The verbs that ask for something, in one word. -/
def askVerbs : List Text := ["give", "show", "tell", "get", "what's", "what’s"].map String.toList

/-- The value of a word for a position, in any case of its ASCII letters. -/
def ordinalNumber? (word : Text) : Option Nat :=
  (ordinals.find? (·.1 = word.map Char.toLower)).map (·.2)

end Notebook
