import Notebook.Text.Lowercase
import Notebook.Text.Word

/-!
# Scoring notes against a topic (specification §4.5)

A note is scored by how many words of the topic occur in it and by how many list items it has:

```text
score = base + topicWord * (topic words that occur) + listItem * (list items)
```

The words of a topic are lower-cased and lose what is not a letter or number at their edges; short
ones do not count. Numbers are doubles, and the sum is taken from left to right.
-/

namespace Notebook

/-- The weights of a score, and the least length of a word that counts. -/
structure Scoring where
  base : Float := 1.0
  topicWord : Float := 2.0
  listItem : Float := 0.1
  minWordLength : Nat := 3

/-- Drops the characters that satisfy `p` at both ends. -/
def Text.trimWhere (p : Char → Bool) (t : Text) : Text := Text.dropEndWhile p (t.dropWhile p)

/-- A word as it is looked for. -/
def soughtWord (word : Text) : Text := Text.lowercase (Text.trimWhere (!isAlphanumeric ·) word)

/-- The words of a topic as they are looked for. -/
def soughtWords (topic : Text) (minLength : Nat) : List Text :=
  ((Text.words topic).map soughtWord).filter (minLength ≤ ·.length)

/-- How many of the words occur in a text. A word counts as often as it is asked for, however often
it occurs. -/
def matchedWords (haystack : Text) (words : List Text) : Nat :=
  words.countP (Text.contains · haystack)

/-- The score of a note, given its lower-cased text and the number of its list items (§4.5). -/
def Scoring.score (s : Scoring) (haystack : Text) (words : List Text) (items : Nat) : Float :=
  s.base + s.topicWord * Float.ofNat (matchedWords haystack words) + s.listItem * Float.ofNat items

end Notebook
