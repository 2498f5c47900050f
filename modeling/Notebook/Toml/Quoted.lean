import Notebook.Text.Basic

/-!
# Strings in TOML

There are four forms: between quotes with escapes, between apostrophes as it stands, and each of
the two over several lines, between three marks. A line break right after three opening marks does
not count, and of five closing marks the first two belong to the string. Line breaks are line feeds
in the value, however they are written.
-/

namespace Notebook
namespace Toml

/-- A character that may stand in a document as it is: no control other than the tab. -/
def isPlain (c : Char) : Bool := c == '\t' || (0x20 ≤ c.toNat && c.toNat ≠ 0x7F)

/-- The value of a hexadecimal digit. -/
def hexDigit? (c : Char) : Option Nat :=
  if c.isDigit then some (c.toNat - '0'.toNat)
  else if 'a' ≤ c.toLower ∧ c.toLower ≤ 'f' then some (c.toLower.toNat - 'a'.toNat + 10)
  else none

/-- The character of `count` hexadecimal digits, and what follows them. -/
def readCode? : (count : Nat) → (value : Nat) → Text → Option (Char × Text)
  | 0, value, rest => if value.isValidChar then some (Char.ofNat value, rest) else none
  | _ + 1, _, [] => none
  | count + 1, value, c :: rest =>
    (hexDigit? c).bind fun d => readCode? count (value * 16 + d) rest

/-- Reads an escape after its backslash. -/
def readEscape? : Text → Option (Char × Text)
  | 'b' :: rest => some ('\x08', rest)
  | 't' :: rest => some ('\t', rest)
  | 'n' :: rest => some ('\n', rest)
  | 'f' :: rest => some ('\x0c', rest)
  | 'r' :: rest => some ('\r', rest)
  | 'e' :: rest => some ('\x1b', rest)
  | '"' :: rest => some ('"', rest)
  | '\\' :: rest => some ('\\', rest)
  | 'x' :: rest => readCode? 2 0 rest
  | 'u' :: rest => readCode? 4 0 rest
  | 'U' :: rest => readCode? 8 0 rest
  | _ => none

/-- Puts a character before the string that is read. -/
def andThen (c : Char) (read : Option (Text × Text)) : Option (Text × Text) :=
  read.map fun (t, rest) => (c :: t, rest)

/-- Reads the rest of a string on one line up to its closing mark, which is a quote if escapes
count and an apostrophe if not. -/
def readLine? (escapes : Bool) : (fuel : Nat) → Text → Option (Text × Text)
  | 0, _ => none
  | _, [] => none
  | fuel + 1, c :: rest =>
    if c = (if escapes then '"' else '\x27') then some ([], rest)
    else if escapes && c == '\\' then
      (readEscape? rest).bind fun (d, rest) => andThen d (readLine? escapes fuel rest)
    else if isPlain c then andThen c (readLine? escapes fuel rest)
    else none

/-- Drops a line break at the start. -/
def dropLineBreak : Text → Text
  | '\n' :: rest => rest
  | '\r' :: '\n' :: rest => rest
  | t => t

/-- What follows a backslash at the end of a line: the next line that is not blank, from its first
character on. -/
def afterContinuation? (t : Text) : Option Text :=
  let rest := t.dropWhile fun c => c == ' ' || c == '\t'
  match rest with
  | '\n' :: _ => some (dropBreaks rest)
  | '\r' :: '\n' :: _ => some (dropBreaks rest)
  | _ => none
where
  dropBreaks : Text → Text
    | [] => []
    | '\r' :: '\n' :: rest => dropBreaks rest
    | c :: rest => if c == ' ' || c == '\t' || c == '\n' then dropBreaks rest else c :: rest

/-- Reads the rest of a string over several lines up to three closing marks. -/
def readLines? (escapes : Bool) : (fuel : Nat) → Text → Option (Text × Text)
  | 0, _ => none
  | _, [] => none
  | fuel + 1, c :: rest =>
    let mark : Char := if escapes then '"' else '\x27'
    if c = mark ∧ rest.take 2 = [mark, mark] then
      let extra := min 2 ((rest.drop 2).takeWhile (· = mark)).length
      some (List.replicate extra mark, (rest.drop 2).drop extra)
    else if escapes && c == '\\' then
      match afterContinuation? rest with
      | some rest => readLines? escapes fuel rest
      | none => (readEscape? rest).bind fun (d, rest) => andThen d (readLines? escapes fuel rest)
    else if c = '\n' then andThen c (readLines? escapes fuel rest)
    else if c = '\r' ∧ rest.head? = some '\n' then readLines? escapes fuel rest
    else if isPlain c then andThen c (readLines? escapes fuel rest)
    else none

/-- Reads a string on one line, from its opening mark on. -/
def readShortString? : Text → Option (Text × Text)
  | '"' :: rest => readLine? true (rest.length + 1) rest
  | '\x27' :: rest => readLine? false (rest.length + 1) rest
  | _ => none

/-- Reads a string of any form, from its opening marks on. -/
def readString? : Text → Option (Text × Text)
  | '"' :: '"' :: '"' :: rest => readLines? true (rest.length + 1) (dropLineBreak rest)
  | '\x27' :: '\x27' :: '\x27' :: rest => readLines? false (rest.length + 1) (dropLineBreak rest)
  | t => readShortString? t

end Toml
end Notebook
