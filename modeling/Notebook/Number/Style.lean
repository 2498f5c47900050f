import Notebook.Number.Shortest
import Notebook.Text.Basic

/-!
# Writing doubles

A finite double is written with the fewest digits that name it, either positionally, with at least
one digit on each side of the point, or with an exponent. `NumberStyle` holds the decisions in which
the two places that numbers are written in differ: settings as text, and data as JSON.
-/

namespace Notebook

/-- How doubles are written. The exponent meant is that of the leading digit. -/
structure NumberStyle where
  /-- The least exponent that is written positionally. -/
  plainFrom : Int
  /-- The greatest exponent that is written positionally. -/
  plainTo : Int
  /-- Whether a positive exponent has a plus sign. -/
  plusSign : Bool
  /-- Whether of two equally near decimals the upper one is written, rather than the even one. -/
  tieUp : Bool
  /-- The word for what is not a number. -/
  nan : Text
  /-- The words for the two infinities. -/
  infinity : Text
  negativeInfinity : Text

/-- Settings have a power of ten from `1e16` on and below `0.0001`. -/
def NumberStyle.settings : NumberStyle where
  plainFrom := -4
  plainTo := 15
  plusSign := false
  tieUp := true
  nan := "NaN".toList
  infinity := "inf".toList
  negativeInfinity := "-inf".toList

/-- Data has a power of ten from `1e+16` on and below `0.00001`, and `null` for what is no finite
number. -/
def NumberStyle.data : NumberStyle where
  plainFrom := -5
  plainTo := 15
  plusSign := true
  tieUp := false
  nan := "null".toList
  infinity := "null".toList
  negativeInfinity := "null".toList

/-- Digits with the point behind the digit of exponent zero, given the exponent of the first. -/
def layoutPlain (digits : Text) (leading : Int) : Text :=
  if leading < 0 then
    '0' :: '.' :: (List.replicate (-leading - 1).toNat '0' ++ digits)
  else
    let whole := leading.toNat + 1
    let padded := digits ++ List.replicate (whole - digits.length) '0'
    let fraction := padded.drop whole
    padded.take whole ++ '.' :: if fraction.isEmpty then ['0'] else fraction

/-- Digits with the point behind the first one, if there are more, and an exponent. -/
def layoutScientific (plusSign : Bool) (digits : Text) (leading : Int) : Text :=
  let exponent :=
    if leading < 0 then '-' :: Text.ofNat (-leading).toNat
    else (if plusSign then ['+'] else []) ++ Text.ofNat leading.toNat
  let point := if digits.length ≤ 1 then [] else ['.']
  digits.take 1 ++ point ++ digits.drop 1 ++ 'e' :: exponent

/-- A decimal as it is written in a style. -/
def NumberStyle.layout (s : NumberStyle) (d : Decimal) : Text :=
  let digits := Text.ofNat d.digits
  let leading := d.exponent + (digits.length - 1 : Nat)
  if s.plainFrom ≤ leading ∧ leading ≤ s.plainTo then layoutPlain digits leading
  else layoutScientific s.plusSign digits leading

/-- A double as it is written in a style. Zero keeps its sign. -/
def NumberStyle.render (s : NumberStyle) (x : Float) : Text :=
  let negative := Nat.pow 2 63 ≤ x.toBits.toNat
  if x.isNaN then s.nan
  else if x.isInf then if negative then s.negativeInfinity else s.infinity
  else
    let binary := Binary.ofBits x.toBits
    let decimal := if binary.significand = 0 then ⟨0, 0⟩ else binary.shortest s.tieUp
    (if negative then ['-'] else []) ++ s.layout decimal

end Notebook
