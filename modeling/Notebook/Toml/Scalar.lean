import Notebook.Number.Reader
import Notebook.Toml.Basic

/-!
# Numbers, truth values and dates in TOML

A value that is no string, array or table is a run of letters, digits and a few signs, and the whole
run must be of one of the forms. Digits may have single underscores between them. A decimal too
large for a double, and a whole number that a hundred and twenty-eight bits do not hold, is refused.
-/

namespace Notebook
namespace Toml

/-- Digits with single underscores between them, without the underscores. -/
def readDigits? (isDigit : Char → Bool) (t : Text) : Option Text :=
  let pieces := Text.splitWhere (· = '_') t
  if pieces.all fun p => !p.isEmpty && p.all isDigit then some pieces.flatten else none

/-- Digits that do not start with a zero, unless they are one. -/
def readPlainDigits? (t : Text) : Option Text :=
  (readDigits? Char.isDigit t).filter fun digits => digits.length = 1 ∨ digits.head? ≠ some '0'

/-- The value of digits in a base of at most sixteen. -/
def digitsValue (base : Nat) (digits : Text) : Nat :=
  digits.foldl (fun n c =>
    base * n + if c.isDigit then c.toNat - '0'.toNat else c.toLower.toNat - 'a'.toNat + 10) 0

/-- Reads a whole number, in decimal with an optional sign or in another base without one. -/
def readInteger? : Text → Option Int
  | '0' :: 'x' :: rest => (readDigits? isHex rest).map (digitsValue 16 ·)
  | '0' :: 'o' :: rest => (readDigits? (fun c => '0' ≤ c && c ≤ '7') rest).map (digitsValue 8 ·)
  | '0' :: 'b' :: rest => (readDigits? (fun c => c == '0' || c == '1') rest).map (digitsValue 2 ·)
  | t =>
    let (negative, digits) := takeSign t
    (readPlainDigits? digits).map fun digits =>
      let n : Int := digitsValue 10 digits
      if negative then -n else n
where
  isHex (c : Char) : Bool := c.isDigit || ('a' ≤ c.toLower && c.toLower ≤ 'f')

/-- Reads the exponent of a decimal, after its mark. -/
def readTomlExponent? (t : Text) : Option Int :=
  let (negative, digits) := takeSign t
  (readDigits? Char.isDigit digits).map fun digits =>
    let n : Int := digitsValue 10 digits
    if negative then -n else n

/-- Cuts a text at the first character that satisfies `p`: before it, and after it if there is
one. -/
def cutAt (p : Char → Bool) (t : Text) : Text × Option Text :=
  match t.dropWhile (!p ·) with
  | [] => (t, none)
  | _ :: rest => (t.takeWhile (!p ·), some rest)

/-- Reads a decimal: a whole part, and a fraction, an exponent or both. -/
def readDecimalFloat? (t : Text) : Option Float := do
  let (negative, t) := takeSign t
  let (mantissa, exponentText) := cutAt (fun c => c == 'e' || c == 'E') t
  let (wholeText, fractionText) := cutAt (· == '.') mantissa
  guard (exponentText.isSome || fractionText.isSome)
  let whole ← readPlainDigits? wholeText
  let fraction ← match fractionText with
    | none => some []
    | some digits => readDigits? Char.isDigit digits
  let exponent ← match exponentText with
    | none => some 0
    | some digits => readTomlExponent? digits
  let x := floatOfDecimal negative (digitsValue 10 (whole ++ fraction)) (exponent - fraction.length)
  guard x.isFinite
  return x

/-- Reads one of the words for infinity and for what is no number, with an optional sign. -/
def readSpecialFloat? (t : Text) : Option Float :=
  let (negative, word) := takeSign t
  if word = "inf".toList then
    let infinity : Float := 1.0 / 0.0
    some (if negative then -infinity else infinity)
  else if word = "nan".toList then some (0.0 / 0.0)
  else none

/-! ### Dates and times -/

/-- The number that exactly `count` digits at the start of a text write, and what follows. -/
def takeNumber? (count : Nat) (t : Text) : Option (Nat × Text) :=
  let digits := t.take count
  if digits.length = count ∧ digits.all Char.isDigit then
    some (digitsValue 10 digits, t.drop count)
  else none

/-- What follows a character. -/
def afterChar? (c : Char) : Text → Option Text
  | [] => none
  | d :: rest => if d = c then some rest else none

/-- The number of days of a month. -/
def daysInMonth (year month : Nat) : Nat :=
  if month = 2 then
    if year % 4 = 0 ∧ (year % 100 ≠ 0 ∨ year % 400 = 0) then 29 else 28
  else if month = 4 ∨ month = 6 ∨ month = 9 ∨ month = 11 then 30
  else 31

/-- What follows a date `2024-02-29` that exists. -/
def afterDate? (t : Text) : Option Text := do
  let (year, t) ← takeNumber? 4 t
  let (month, t) ← takeNumber? 2 (← afterChar? '-' t)
  let (day, t) ← takeNumber? 2 (← afterChar? '-' t)
  guard (1 ≤ month ∧ month ≤ 12 ∧ 1 ≤ day ∧ day ≤ daysInMonth year month)
  return t

/-- What follows a time `23:59`, with optional seconds and fractions of a second. -/
def afterTime? (t : Text) : Option Text := do
  let (hour, t) ← takeNumber? 2 t
  let (minute, t) ← takeNumber? 2 (← afterChar? ':' t)
  guard (hour ≤ 23 ∧ minute ≤ 59)
  match afterChar? ':' t with
  | none => return t
  | some t =>
    let (second, t) ← takeNumber? 2 t
    guard (second ≤ 60)
    match afterChar? '.' t with
    | none => return t
    | some t =>
      guard (t.head?.any Char.isDigit)
      return t.dropWhile Char.isDigit

/-- Whether a text is nothing or an offset: the letter Z, or a sign, hours and minutes. -/
def isOffset (t : Text) : Bool :=
  match t with
  | [] => true
  | c :: rest =>
    if c.toLower = 'z' then rest.isEmpty
    else if c = '+' ∨ c = '-' then
      (do
        let (hour, t) ← takeNumber? 2 rest
        let (minute, t) ← takeNumber? 2 (← afterChar? ':' t)
        guard (hour ≤ 23 ∧ minute ≤ 59 ∧ t = [])).isSome
    else false

/-- Whether a text is a date, a time, or a date and a time with an optional offset. -/
def isDate (t : Text) : Bool :=
  match afterDate? t with
  | some [] => true
  | some (c :: rest) =>
    (c.toLower = 't' ∨ c = ' ') ∧ (afterTime? rest).any isOffset
  | none => (afterTime? t).any (·.isEmpty)

/-! ### All of them -/

/-- The characters of a value that is no string, array or table. -/
def isScalarChar (c : Char) : Bool :=
  c.isAlphanum || c == '+' || c == '-' || c == '_' || c == '.' || c == ':'

/-- The value that a whole run of characters is. -/
def scalarOf? (t : Text) : Option Toml :=
  if t = "true".toList then some (.bool true)
  else if t = "false".toList then some (.bool false)
  else match readInteger? t with
    | some n =>
      if -(Nat.pow 2 127 : Int) ≤ n ∧ n < (Nat.pow 2 128 : Int) then some (.integer n) else none
    | none =>
      match (readSpecialFloat? t <|> readDecimalFloat? t) with
      | some x => some (.float x)
      | none => if isDate t then some .date else none

/-- Reads such a value. A date may have a space before its time. -/
def readScalar? (t : Text) : Option (Toml × Text) :=
  let run := t.takeWhile isScalarChar
  let rest := t.dropWhile isScalarChar
  let (run, rest) :=
    match afterDate? run, rest with
    | some [], ' ' :: c :: more =>
      if c.isDigit then
        (run ++ ' ' :: (c :: more).takeWhile isScalarChar, (c :: more).dropWhile isScalarChar)
      else (run, rest)
    | _, _ => (run, rest)
  (scalarOf? run).map (·, rest)

end Toml
end Notebook
