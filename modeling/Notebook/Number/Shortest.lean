/-!
# The fewest digits that name a double

A positive double stands for all reals that round to it: those between the midpoints to its two
neighbours, the midpoints included exactly if its significand is even. `shortest` finds the decimal
with the fewest digits among those reals, and of several the one nearest to the double itself.

The search goes through the powers of ten from above. On the multiples of one power only the two
around the double can be nearest, so only these are tried (`Binary.onGrid?`). All comparisons are
between natural numbers.
-/

namespace Notebook

/-- A positive number `significand * 2 ^ exponent`, and whether the gap to the double below it is
half the gap to the one above, as it is at a power of two. -/
structure Binary where
  significand : Nat
  exponent : Int
  narrowBelow : Bool
deriving Repr, DecidableEq

/-- The number that the magnitude bits of a finite double encode. -/
def Binary.ofBits (bits : UInt64) : Binary :=
  let field : Nat := (bits.toNat / Nat.pow 2 52) % Nat.pow 2 11
  let fraction := bits.toNat % Nat.pow 2 52
  if field = 0 then ⟨fraction, -1074, false⟩
  else ⟨Nat.pow 2 52 + fraction, (field : Int) - 1075, fraction = 0 && 1 < field⟩

/-- A number `digits * 10 ^ exponent`. -/
structure Decimal where
  digits : Nat
  exponent : Int
deriving Repr, DecidableEq

/-- Compares `a * 10 ^ i` with `b * 2 ^ j`. Both are multiplied by what makes them whole. -/
def compareScales (a : Nat) (i : Int) (b : Nat) (j : Int) : Ordering :=
  compare (a * Nat.pow 10 i.toNat * Nat.pow 2 (-j).toNat)
    (b * Nat.pow 2 j.toNat * Nat.pow 10 (-i).toNat)

/-- Whether a decimal is one of the reals that round to the double. The ends are held in quarters
of the gap. -/
def Binary.covers (x : Binary) (d : Decimal) : Bool :=
  let quarters := 4 * x.significand
  let low := compareScales d.digits d.exponent (quarters - if x.narrowBelow then 1 else 2)
    (x.exponent - 2)
  let high := compareScales d.digits d.exponent (quarters + 2) (x.exponent - 2)
  let even := x.significand % 2 = 0
  (low = .gt ∨ (even ∧ low = .eq)) ∧ (high = .lt ∨ (even ∧ high = .eq))

/-- The largest multiple of `10 ^ e` that is not above the number, divided by `10 ^ e`. -/
def Binary.floorOn (x : Binary) (e : Int) : Nat :=
  (x.significand * Nat.pow 2 x.exponent.toNat * Nat.pow 10 (-e).toNat) /
    (Nat.pow 10 e.toNat * Nat.pow 2 (-x.exponent).toNat)

/-- The nearest multiple of `10 ^ e` among the reals that round to the double. Where two are equally
near, `tieUp` decides whether the upper one is taken or the even one. -/
def Binary.onGrid? (x : Binary) (tieUp : Bool) (e : Int) : Option Decimal :=
  let below : Decimal := ⟨x.floorOn e, e⟩
  let above : Decimal := ⟨x.floorOn e + 1, e⟩
  match x.covers below, x.covers above with
  | true, false => some below
  | false, true => some above
  | false, false => none
  | true, true =>
    match compareScales (2 * below.digits + 1) e (2 * x.significand) x.exponent with
    | .gt => some below
    | .lt => some above
    | .eq => if tieUp ∨ below.digits % 2 = 1 then some above else some below

/-- A power of ten above the number, by its binary logarithm. -/
def Binary.topExponent (x : Binary) : Int :=
  ((x.significand.log2 : Int) + 1 + x.exponent) * 30103 / 100000 + 1

/-- The decimal with the fewest digits that rounds to the double. Twenty powers of ten are enough,
since seventeen digits always are; past them the number itself is given, digit for digit. -/
def Binary.shortest (x : Binary) (tieUp : Bool) : Decimal :=
  ((List.range 20).findSome? fun i : Nat => x.onGrid? tieUp (x.topExponent - i)).getD
    ⟨x.significand * Nat.pow 2 x.exponent.toNat * Nat.pow 5 (-x.exponent).toNat,
      -(-x.exponent).toNat⟩

end Notebook
