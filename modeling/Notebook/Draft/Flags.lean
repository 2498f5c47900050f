import Notebook.Draft.Basic
import Notebook.Text.Fold
import Notebook.Text.Scan
import Notebook.Text.Word

/-!
# Attribute flags in the body of a note (specification §4.2, step 2)

| Flag | Effect |
|------|--------|
| `##name` | adds the tag `name`, which starts with a letter or an underscore |
| `c:word` | sets the color that `word` names; the first that names one counts |
| `f:name` | sets the font, whose name may have spaces; the first counts |
| `is:fav`, `is:star` | favorite |
| `is:pin` | pinned |
| `is:vault`, `is:private` | private |
| `is:hide` | hidden, with the reserved tag that marks hidden notes |

Flags are taken out kind by kind, in this order, and each kind is looked for in the text that the
kind before it has left. A flag that is taken out leaves one space, so that what stood around it is
not joined. All but tags start at the beginning of a word, and their letters are compared up to
simple case folding; what a word then means is decided by its ASCII letters alone.

* `readTag`, `readColor`, `readFont`, `readFlag` — one reader for each kind;
* `Attributes.extract` — the body without its flags, and what they set.
-/

namespace Notebook

/-! ### Tags -/

/-- The first character of a tag name. -/
def isTagStart (c : Char) : Bool := c.isAlpha || c == '_'

/-- The further characters of a tag name. -/
def isTagChar (c : Char) : Bool := c.isAlphanum || c == '_' || c == '-'

/-- Reads `##name`, as long a name as there is (§4.2, step 2). -/
def readTag : Reader Text
  | _, '#' :: '#' :: c :: rest =>
    if isTagStart c then
      let more := rest.takeWhile isTagChar
      some ⟨c :: more, 2 + more.length, 0⟩
    else none
  | _, _ => none

/-! ### Colors -/

/-- What follows a key that stands at the beginning of a word. -/
def afterKey? (key : Text) (before : Option Char) (t : Text) : Option Text :=
  if before.any isWord then none else Text.after? foldCase key t

/-- Reads `c:word`, where the word ends at a word boundary (§4.2, step 2). -/
def readColor : Reader (Option Color) := fun before t =>
  match afterKey? "c:".toList before t with
  | none => none
  | some rest =>
    let word := rest.takeWhile foldsToAlphanumeric
    if word.isEmpty || startsWord (rest.drop word.length) then none
    else some ⟨Color.ofName? word, 1 + word.length, 0⟩

/-! ### Fonts -/

/-- The characters of a font name. -/
def isFontChar (c : Char) : Bool := foldsToAlphanumeric c || c == ' '

/-- How much of the run after `f:` is the name of the font. A run that is followed by a colon ends
in the key of the next flag: its last word and the space before that do not belong to the name. A
single word is the name all the same. -/
def fontNameLength (run rest : Text) : Nat :=
  let lastWord := (run.reverse.takeWhile (· ≠ ' ')).length
  if rest.head? = some ':' ∧ lastWord < run.length then run.length - (lastWord + 1)
  else run.length

/-- Reads `f:name` (§4.2, step 2). What does not belong to the name stays in the text, unread. -/
def readFont : Reader Text := fun before t =>
  match afterKey? "f:".toList before t with
  | none => none
  | some rest =>
    if rest.head?.any foldsToAlphanumeric then
      let run := rest.takeWhile isFontChar
      let length := fontNameLength run (rest.drop run.length)
      some ⟨Text.trim (run.take length), 1 + length, run.length - length⟩
    else none

/-! ### Flags proper -/

/-- What an `is:` flag sets. -/
inductive Flag where
  | favorite
  | pinned
  | confidential
  | hidden
deriving Repr, DecidableEq

/-- The words that may follow `is:` (§4.2, step 2). None is the beginning of another. -/
def flagWords : List (Text × Flag) :=
  [("fav".toList, .favorite), ("star".toList, .favorite), ("pin".toList, .pinned),
    ("vault".toList, .confidential), ("private".toList, .confidential), ("hide".toList, .hidden)]

/-- Reads `is:word` for one of the known words, which ends at a word boundary. A spelling that is
the word only up to case folding is taken out and sets nothing. -/
def readFlag : Reader (Option Flag) := fun before t =>
  match afterKey? "is:".toList before t with
  | none => none
  | some rest =>
    flagWords.findSome? fun (word, flag) =>
      match Text.after? foldCase word rest with
      | none => none
      | some tail =>
        if startsWord tail then none
        else
          let exact := (rest.take word.length).map Char.toLower = word
          some ⟨if exact then some flag else none, 2 + word.length, 0⟩

/-! ### All of them -/

/-- The text that is left, and the values found, when the flags of one kind are taken out. -/
def takeOut {α : Type} (read : Reader α) (t : Text) : Text × List α :=
  let pieces := Text.scan read t
  (Text.substitute [' '] pieces, Text.found pieces)

/-- Takes every flag out of a body. White space in what is left is not collapsed. -/
def Attributes.extract (body : Text) : Text × Attributes :=
  let (body, tags) := takeOut readTag body
  let (body, colors) := takeOut readColor body
  let (body, fonts) := takeOut readFont body
  let (body, flags) := takeOut readFlag body
  let flags := flags.filterMap id
  let isHidden := Flag.hidden ∈ flags
  (body,
    { tags := if isHidden then (TagSet.ofList tags).insert hiddenTag else TagSet.ofList tags
      color := colors.findSome? id
      fontFamily := fonts.head?
      isPinned := Flag.pinned ∈ flags
      isFavorite := Flag.favorite ∈ flags
      isPrivate := Flag.confidential ∈ flags
      isHidden := isHidden })

end Notebook
