import Notebook.Json.Basic
import Notebook.Number.Reader

/-!
# Reading JSON

`Json.parse?` reads a whole text as one value. The grammar is the standard one: four kinds of white
space, numbers without leading zeros, strings without raw controls and with paired surrogate
escapes. Values may be nested `maxDepth` deep, and a number too large for a double is refused.

A whole number is kept as one if sixty-four bits hold it, and becomes a double otherwise; so does a
negative zero. A double is computed from the leading digits, as many as sixty-four bits hold, and a
power of ten, so that it need not be the nearest to the decimal that is written.
-/

namespace Notebook
namespace Json

/-- How deep arrays and objects may be nested. -/
def maxDepth : Nat := 127

/-- What counts as white space between tokens. -/
def isSpace (c : Char) : Bool := c == ' ' || c == '\n' || c == '\r' || c == '\t'

/-- Drops white space between tokens. -/
def skipSpace (t : Text) : Text := t.dropWhile isSpace

/-! ### Numbers -/

/-- Reads the digits of a whole part: zero alone, or digits that do not start with it. -/
def readWhole? : Text → Option (Text × Text)
  | '0' :: rest => if rest.head?.any Char.isDigit then none else some (['0'], rest)
  | t =>
    match t.takeWhile Char.isDigit with
    | [] => none
    | digits => some (digits, t.dropWhile Char.isDigit)

/-- Reads a point and at least one digit, or nothing. -/
def readFraction? : Text → Option (Text × Text)
  | '.' :: rest =>
    match rest.takeWhile Char.isDigit with
    | [] => none
    | digits => some (digits, rest.dropWhile Char.isDigit)
  | t => some ([], t)

/-- Reads an exponent, or nothing. -/
def readExponentPart? : Text → Option (Option Int × Text)
  | c :: rest =>
    if c = 'e' ∨ c = 'E' then
      let (negative, rest) := takeSign rest
      match rest.takeWhile Char.isDigit with
      | [] => none
      | digits =>
        let n : Int := Nat.ofDigitChars 10 digits 0
        some (some (if negative then -n else n), rest.dropWhile Char.isDigit)
    else some (none, c :: rest)
  | [] => some (none, [])

/-- The number that starts with `n` and goes on with digits, as long as sixty-four bits hold it, and
the digits that are left over. -/
def takeDigits (n : Nat) : Text → Nat × Text
  | [] => (n, [])
  | c :: rest =>
    let next := n * 10 + (c.toNat - '0'.toNat)
    if next < Nat.pow 2 64 then takeDigits next rest else (n, c :: rest)

/-- The double nearest to a power of ten. -/
def powerOfTen (exponent : Nat) : Float := Float.ofScientific 1 false exponent

/-- A double times a power of ten, computed in doubles. There is no result above all doubles. -/
def scale? (x : Float) (exponent : Int) : Option Float :=
  if x == 0.0 then some x
  else if 308 < exponent then none
  else if 0 ≤ exponent then
    let y := x * powerOfTen exponent.toNat
    if y.isFinite then some y else none
  else if -308 ≤ exponent then some (x / powerOfTen (-exponent).toNat)
  else scale? (x / powerOfTen 308) (exponent + 308)
termination_by (-exponent).toNat
decreasing_by omega

/-- The value that the parts of a number write. -/
def numberOf? (negative : Bool) (whole fraction : Text) (exponent : Option Int) : Option Json :=
  let (n, wholeLeft) := takeDigits 0 whole
  let isWhole := wholeLeft.isEmpty && fraction.isEmpty && exponent.isNone
  if isWhole && !negative then some (.integer n)
  else if isWhole && n ≠ 0 && n ≤ Nat.pow 2 63 then some (.integer (-n))
  else
    let (n, fractionLeft) := takeDigits n fraction
    let point : Int := wholeLeft.length - (fraction.length - fractionLeft.length : Nat)
    (scale? (Float.ofNat n) (point + exponent.getD 0)).map fun x =>
      .float (if negative then -x else x)

/-- Reads a number. -/
def readNumber? (t : Text) : Option (Json × Text) := do
  let (negative, t) := match t with
    | '-' :: rest => (true, rest)
    | t => (false, t)
  let (whole, t) ← readWhole? t
  let (fraction, t) ← readFraction? t
  let (exponent, t) ← readExponentPart? t
  let value ← numberOf? negative whole fraction exponent
  return (value, t)

/-! ### Strings -/

/-- The value of a hexadecimal digit. -/
def hexValue? (c : Char) : Option Nat :=
  if '0' ≤ c ∧ c ≤ '9' then some (c.toNat - '0'.toNat)
  else if 'a' ≤ c ∧ c ≤ 'f' then some (c.toNat - 'a'.toNat + 10)
  else if 'A' ≤ c ∧ c ≤ 'F' then some (c.toNat - 'A'.toNat + 10)
  else none

/-- The value of four hexadecimal digits. -/
def hexValue4? (a b c d : Char) : Option Nat := do
  return (((← hexValue? a) * 16 + (← hexValue? b)) * 16 + (← hexValue? c)) * 16 + (← hexValue? d)

/-- The character that a backslash and a letter write. -/
def unescape? : Char → Option Char
  | '"' => some '"'
  | '\\' => some '\\'
  | '/' => some '/'
  | 'b' => some '\x08'
  | 'f' => some '\x0c'
  | 'n' => some '\n'
  | 'r' => some '\r'
  | 't' => some '\t'
  | _ => none

/-- Reads the rest of a string, up to its closing quote. Two escapes that are halves of a surrogate
pair write one character, and a half alone writes none. -/
def readString? : Text → Option (Text × Text)
  | [] => none
  | '"' :: rest => some ([], rest)
  | '\\' :: 'u' :: a :: b :: c :: d :: '\\' :: 'u' :: e :: f :: g :: h :: rest =>
    match hexValue4? a b c d, hexValue4? e f g h with
    | some high, some low =>
      if 0xD800 ≤ high ∧ high < 0xDC00 then
        if 0xDC00 ≤ low ∧ low < 0xE000 then
          let c := Char.ofNat (0x10000 + (high - 0xD800) * 0x400 + (low - 0xDC00))
          (readString? rest).map fun (t, rest) => (c :: t, rest)
        else none
      else if 0xDC00 ≤ high ∧ high < 0xE000 then none
      else
        (readString? ('\\' :: 'u' :: e :: f :: g :: h :: rest)).map fun (t, rest) =>
          (Char.ofNat high :: t, rest)
    | _, _ => none
  | '\\' :: 'u' :: a :: b :: c :: d :: rest =>
    match hexValue4? a b c d with
    | none => none
    | some n =>
      if 0xD800 ≤ n ∧ n < 0xE000 then none
      else (readString? rest).map fun (t, rest) => (Char.ofNat n :: t, rest)
  | '\\' :: c :: rest =>
    match unescape? c with
    | none => none
    | some c => (readString? rest).map fun (t, rest) => (c :: t, rest)
  | c :: rest =>
    if c.toNat < 0x20 then none else (readString? rest).map fun (t, rest) => (c :: t, rest)

/-! ### Values -/

mutual

/-- Reads a value after white space. `depth` more levels may be opened, and `fuel` bounds the number
of steps. -/
def readValue? : (fuel depth : Nat) → Text → Option (Json × Text)
  | 0, _, _ => none
  | fuel + 1, depth, t =>
    match skipSpace t with
    | 'n' :: 'u' :: 'l' :: 'l' :: rest => some (.null, rest)
    | 't' :: 'r' :: 'u' :: 'e' :: rest => some (.bool true, rest)
    | 'f' :: 'a' :: 'l' :: 's' :: 'e' :: rest => some (.bool false, rest)
    | '"' :: rest => (readString? rest).map fun (t, rest) => (.string t, rest)
    | '[' :: rest =>
      match depth with
      | 0 => none
      | depth + 1 =>
        match skipSpace rest with
        | ']' :: rest => some (.array [], rest)
        | rest => (readItems? fuel depth rest).map fun (items, rest) => (.array items, rest)
    | '\x7b' :: rest =>
      match depth with
      | 0 => none
      | depth + 1 =>
        match skipSpace rest with
        | '\x7d' :: rest => some (.object [], rest)
        | rest => (readFields? fuel depth rest).map fun (fields, rest) => (.object fields, rest)
    | t => readNumber? t

/-- Reads items up to the closing bracket. -/
def readItems? : (fuel depth : Nat) → Text → Option (List Json × Text)
  | 0, _, _ => none
  | fuel + 1, depth, t =>
    match readValue? fuel depth t with
    | none => none
    | some (item, rest) =>
      match skipSpace rest with
      | ']' :: rest => some ([item], rest)
      | ',' :: rest => (readItems? fuel depth rest).map fun (items, rest) => (item :: items, rest)
      | _ => none

/-- Reads fields up to the closing brace. -/
def readFields? : (fuel depth : Nat) → Text → Option (List (Text × Json) × Text)
  | 0, _, _ => none
  | fuel + 1, depth, t =>
    match skipSpace t with
    | '"' :: rest =>
      match readString? rest with
      | none => none
      | some (name, rest) =>
        match skipSpace rest with
        | ':' :: rest =>
          match readValue? fuel depth rest with
          | none => none
          | some (value, rest) =>
            match skipSpace rest with
            | '\x7d' :: rest => some ([(name, value)], rest)
            | ',' :: rest =>
              (readFields? fuel depth rest).map fun (fields, rest) =>
                ((name, value) :: fields, rest)
            | _ => none
        | _ => none
    | _ => none

end

/-- Reads a text that is one value with white space around it. Every level and every item takes a
character of the text, so twice its length is more than the steps there are. -/
def parse? (t : Text) : Option Json :=
  match readValue? (2 * t.length + 2) maxDepth t with
  | none => none
  | some (value, rest) => if (skipSpace rest).isEmpty then some value else none

end Json
end Notebook
