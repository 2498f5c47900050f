import Notebook.Json.Basic
import Notebook.Number.Style

/-!
# Writing JSON

Values are written on one line (`Json.compact`) or with every item and field on a line of its own,
two spaces deeper than what holds it (`Json.pretty`). In strings, the quote, the backslash and the
controls are escaped, those with a letter by that letter; everything else is written as it is.
-/

namespace Notebook
namespace Json

/-- The digits of a number below sixteen by which escapes write it. -/
def hexDigit (n : Nat) : Char := Nat.digitChar n

/-- A character of a string as it is written between quotes. -/
def escape (c : Char) : Text :=
  match c with
  | '"' => ['\\', '"']
  | '\\' => ['\\', '\\']
  | '\n' => ['\\', 'n']
  | '\r' => ['\\', 'r']
  | '\t' => ['\\', 't']
  | '\x08' => ['\\', 'b']
  | '\x0c' => ['\\', 'f']
  | c =>
    if c.toNat < 0x20 then
      ['\\', 'u', '0', '0', hexDigit (c.toNat / 16), hexDigit (c.toNat % 16)]
    else [c]

/-- A string in quotes. -/
def quote (t : Text) : Text := '"' :: t.flatMap escape ++ ['"']

/-- A value that holds no others. -/
def scalar : Json → Text
  | null => "null".toList
  | bool true => "true".toList
  | bool false => "false".toList
  | integer (.ofNat n) => Text.ofNat n
  | integer (.negSucc n) => '-' :: Text.ofNat (n + 1)
  | float x => NumberStyle.data.render x
  | string t => quote t
  | array _ => []
  | object _ => []

mutual

/-- A value on one line. -/
def compact : Json → Text
  | array items => '[' :: compactItems items ++ [']']
  | object fields => '\x7b' :: compactFields fields ++ ['\x7d']
  | value => scalar value

/-- Items on one line, with commas between them. -/
def compactItems : List Json → Text
  | [] => []
  | [item] => compact item
  | item :: rest => compact item ++ ',' :: compactItems rest

/-- Fields on one line, with commas between them. -/
def compactFields : List (Text × Json) → Text
  | [] => []
  | [(name, value)] => quote name ++ ':' :: compact value
  | (name, value) :: rest => quote name ++ ':' :: compact value ++ ',' :: compactFields rest

end

/-- A new line at a depth. -/
def newline (depth : Nat) : Text := '\n' :: List.replicate (2 * depth) ' '

mutual

/-- A value over several lines; `depth` counts the values that hold it. -/
def prettyAt (depth : Nat) : Json → Text
  | array [] => ['[', ']']
  | array items => '[' :: prettyItems (depth + 1) items ++ newline depth ++ [']']
  | object [] => ['\x7b', '\x7d']
  | object fields => '\x7b' :: prettyFields (depth + 1) fields ++ newline depth ++ ['\x7d']
  | value => scalar value

/-- Items, each on a new line. -/
def prettyItems (depth : Nat) : List Json → Text
  | [] => []
  | [item] => newline depth ++ prettyAt depth item
  | item :: rest => newline depth ++ prettyAt depth item ++ ',' :: prettyItems depth rest

/-- Fields, each on a new line. -/
def prettyFields (depth : Nat) : List (Text × Json) → Text
  | [] => []
  | [(name, value)] => newline depth ++ quote name ++ ": ".toList ++ prettyAt depth value
  | (name, value) :: rest =>
    newline depth ++ quote name ++ ": ".toList ++ prettyAt depth value ++
      ',' :: prettyFields depth rest

end

/-- A value over several lines. -/
def pretty (value : Json) : Text := prettyAt 0 value

end Json
end Notebook
