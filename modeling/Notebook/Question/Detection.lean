import Notebook.Question.Vocabulary

/-!
# Questions for the item at a position (specification §4.4)

A positional question holds one of five phrases.

| Phrase | Example |
|--------|---------|
| a numeral with an ordinal ending, and a noun | "3rd method" |
| a noun and a numeral | "step 4", "tip #2" |
| an ordinal word and a noun | "second rule" |
| a request and a numeral with an ordinal ending | "give me the 2nd one" |
| a request and an ordinal word | "what's the fifth" |

After the phrase a topic may follow: a preposition and the rest of the line. The phrases are tried
in this order, and each is looked for from left to right; a phrase begins at a word boundary. If the
leftmost place where a phrase fits has a number that is no position, the phrase is not looked for
further on. Letters are compared up to simple case folding, and the value of an ordinal word is then
decided by its ASCII letters.

* `Phrase.numeralNoun` and its four companions — the phrases;
* `topicAfter?` — the topic behind a phrase;
* `ItemQuery.ofQuestion?` — the query that a question makes.
-/

namespace Notebook

/-- What a positional question asks for. The topic only helps to choose among notes. -/
structure ItemQuery where
  position : Nat
  topic : Option Text
deriving Repr, DecidableEq

namespace Question

/-! ### Parts of phrases -/

/-- What follows white space at the start of a text, of which there must be some. -/
def afterBlanks? : Text → Option Text
  | [] => none
  | c :: rest => if isBlank c then some (Text.trimStart rest) else none

/-- What follows one of several words at the start of a text, with the word as it is written. -/
def afterOneOf? (words : List Text) (t : Text) : Option (Text × Text) :=
  words.findSome? fun w => (Text.after? foldCase w t).map (t.take w.length, ·)

/-- What follows a word and white space, or the text itself if it does not begin so. -/
def skipWord (word : Text) (t : Text) : Text :=
  ((Text.after? foldCase word t).bind afterBlanks?).getD t

/-- What follows the word at the start of a text, if that is one of `nouns` or its plural. -/
def afterNoun? (nouns : List Text) (t : Text) : Option Text :=
  let word := (t.takeWhile isWord).map foldCase
  if nouns.any fun noun => word = noun ∨ word = noun ++ ['s'] then some (t.dropWhile isWord)
  else none

/-- The numeral at the start of a text, in digits of any script, and what follows it. -/
def afterDigits? (t : Text) : Option (Text × Text) :=
  match t.takeWhile isDecimalDigit with
  | [] => none
  | digits => some (digits, t.dropWhile isDecimalDigit)

/-- The numeral at the start of a text and what follows its ordinal ending. -/
def afterOrdinalNumeral? (t : Text) : Option (Text × Text) :=
  (afterDigits? t).bind fun (digits, rest) =>
    (afterOneOf? ordinalEndings rest).map fun (_, rest) => (digits, rest)

/-- The ordinal word at the start of a text and what follows it. -/
def afterOrdinalWord? (t : Text) : Option (Text × Text) := afterOneOf? (ordinals.map (·.1)) t

/-- What follows a request such as "show me the" and its white space. -/
def afterRequest? (t : Text) : Option Text :=
  let verb : Option Text := (afterOneOf? askVerbs t).map (·.2) <|>
    ((Text.after? foldCase "what".toList t).bind afterBlanks?).bind
      (Text.after? foldCase "is".toList)
  (verb.bind afterBlanks?).map fun rest => skipWord "the".toList (skipWord "me".toList rest)

/-- What follows a noun that may be asked for outright, or the text itself. -/
def skipAskNoun (t : Text) : Text := ((afterBlanks? t).bind (afterNoun? askNouns)).getD t

/-! ### Phrases -/

/-- A phrase reads the number at the start of a text, as it is written, and what follows the
phrase; it also says how the number is valued. -/
structure Phrase where
  read? : Text → Option (Text × Text)
  value? : Text → Option Nat

/-- An ordinal, white space and a noun. -/
def beforeNoun (ordinal : Text → Option (Text × Text)) (t : Text) : Option (Text × Text) :=
  (ordinal t).bind fun (number, rest) =>
    ((afterBlanks? rest).bind (afterNoun? nounsAfterOrdinal)).map (number, ·)

/-- A request, an ordinal that ends at a word boundary, and perhaps a noun. -/
def requested (ordinal : Text → Option (Text × Text)) (t : Text) : Option (Text × Text) :=
  ((afterRequest? t).bind ordinal).bind fun (number, rest) =>
    if startsWord rest then none else some (number, skipAskNoun rest)

/-- A noun, perhaps a number sign, and a numeral that ends at a word boundary. -/
def nounFirst (t : Text) : Option (Text × Text) :=
  (afterOneOf? nounsBeforeNumber t).bind fun (_, rest) =>
    let rest := Text.trimStart rest
    let rest := if rest.head? = some '#' then Text.trimStart rest.tail else rest
    (afterDigits? rest).bind fun (digits, rest) =>
      if startsWord rest then none else some (digits, rest)

/-- "3rd method". -/
def Phrase.numeralNoun : Phrase := ⟨beforeNoun afterOrdinalNumeral?, positionOfDigits?⟩

/-- "step 4". -/
def Phrase.nounNumeral : Phrase := ⟨nounFirst, positionOfDigits?⟩

/-- "second rule". -/
def Phrase.ordinalNoun : Phrase := ⟨beforeNoun afterOrdinalWord?, ordinalNumber?⟩

/-- "give me the 2nd". -/
def Phrase.requestNumeral : Phrase := ⟨requested afterOrdinalNumeral?, positionOfDigits?⟩

/-- "give me the second". -/
def Phrase.requestOrdinal : Phrase := ⟨requested afterOrdinalWord?, ordinalNumber?⟩

/-- The phrases, in the order they are tried (§4.4). -/
def phrases : List Phrase :=
  [.numeralNoun, .nounNumeral, .ordinalNoun, .requestNumeral, .requestOrdinal]

/-- The leftmost reading of a text that begins where no word is going on. -/
def leftmost {α : Type} (read? : Text → Option α) : (before : Option Char) → Text → Option α
  | _, [] => none
  | before, c :: rest =>
    match if before.any isWord then none else read? (c :: rest) with
    | some a => some a
    | none => leftmost read? (some c) rest

/-! ### Topics -/

/-- Characters that end a question and do not belong to its topic. -/
def isEndMark (c : Char) : Bool := c == '?' || c == '.' || c == '!'

/-- A topic without white space around it and without end marks, if anything is left. -/
def bareTopic? (raw : Text) : Option Text :=
  let topic := Text.trim (Text.dropEndWhile isEndMark (Text.trim raw))
  if topic.isEmpty then none else some topic

/-- The topic that follows a phrase: the rest of the line after a preposition (§4.4). -/
def topicAfter? (t : Text) : Option Text :=
  ((afterBlanks? t).bind (afterOneOf? prepositions)).bind fun (_, rest) =>
    (afterBlanks? rest).bind fun topic => bareTopic? (topic.takeWhile (· ≠ '\n'))

end Question

open Question in
/-- The query that a question makes, if it is positional. -/
def ItemQuery.ofQuestion? (question : Text) : Option ItemQuery :=
  phrases.findSome? fun phrase =>
    (leftmost phrase.read? none question).bind fun (number, rest) =>
      (phrase.value? number).map fun position => ⟨position, topicAfter? rest⟩

end Notebook
