import Notebook.Text.Basic

/-!
# Reading numbers

Two kinds of numbers are read from plain text: doubles, in decimal with an optional fraction and
exponent or as one of the words for infinity and for what is no number, and natural numbers of at
most sixty-four bits. A decimal is rounded to the nearest double, whatever its length.

Both readers say why they refuse a text; an empty text has a reason of its own.
-/

namespace Notebook

/-- The double nearest to `digits * 10 ^ exponent`, with a sign. -/
def floatOfDecimal (negative : Bool) (digits : Nat) (exponent : Int) : Float :=
  let magnitude :=
    match exponent with
    | .ofNat e => Float.ofScientific digits false e
    | .negSucc e => Float.ofScientific digits true (e + 1)
  if negative then -magnitude else magnitude

/-- Why a text is no number. -/
inductive NumberError where
  | emptyFloat
  | invalidFloat
  | emptyInteger
  | invalidDigit
  | tooLarge
deriving Repr, DecidableEq

/-- The wording of a refusal. -/
def NumberError.message : NumberError → Text
  | .emptyFloat => "cannot parse float from empty string".toList
  | .invalidFloat => "invalid float literal".toList
  | .emptyInteger => "cannot parse integer from empty string".toList
  | .invalidDigit => "invalid digit found in string".toList
  | .tooLarge => "number too large to fit in target type".toList

/-- Takes a sign off a text: whether it was a minus, and the rest. -/
def takeSign : Text → Bool × Text
  | '-' :: rest => (true, rest)
  | '+' :: rest => (false, rest)
  | t => (false, t)

/-- The exponent that ends a decimal: nothing, or a mark, an optional sign and digits. -/
def readExponent? : Text → Option Int
  | [] => some 0
  | c :: rest =>
    if c.toLower = 'e' then
      let (negative, digits) := takeSign rest
      if digits ≠ [] ∧ digits.all Char.isDigit then
        let n : Int := Nat.ofDigitChars 10 digits 0
        some (if negative then -n else n)
      else none
    else none

/-- Reads an unsigned decimal: digits with an optional point among or around them, at least one
digit in all, and an optional exponent. -/
def readDecimal? (negative : Bool) (t : Text) : Option Float :=
  let whole := t.takeWhile Char.isDigit
  let rest := t.dropWhile Char.isDigit
  let (fraction, rest) :=
    match rest with
    | '.' :: rest => (rest.takeWhile Char.isDigit, rest.dropWhile Char.isDigit)
    | rest => ([], rest)
  if whole.isEmpty && fraction.isEmpty then none
  else
    (readExponent? rest).map fun exponent =>
      floatOfDecimal negative (Nat.ofDigitChars 10 (whole ++ fraction) 0)
        (exponent - fraction.length)

/-- Reads a double. The words are read in any case. -/
def readFloat (t : Text) : Except NumberError Float :=
  if t.isEmpty then .error .emptyFloat
  else
    let (negative, rest) := takeSign t
    let word := rest.map Char.toLower
    if word = "inf".toList ∨ word = "infinity".toList then
      let infinity : Float := 1.0 / 0.0
      .ok (if negative then -infinity else infinity)
    else if word = "nan".toList then .ok (0.0 / 0.0)
    else match readDecimal? negative rest with
      | some x => .ok x
      | none => .error .invalidFloat

/-- Reads a natural number below `2 ^ 64`. A plus sign is allowed before the digits. -/
def readNatural (t : Text) : Except NumberError Nat :=
  let digits := match t with
    | '+' :: rest => rest
    | t => t
  if t.isEmpty then .error .emptyInteger
  else if digits.isEmpty || !digits.all Char.isDigit then .error .invalidDigit
  else
    let n := Nat.ofDigitChars 10 digits 0
    if n < Nat.pow 2 64 then .ok n else .error .tooLarge

end Notebook
