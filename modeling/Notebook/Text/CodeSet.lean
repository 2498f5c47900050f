/-!
# Sets of code points given by intervals

A property of characters that a standard fixes by listing them is held as data: the closed
intervals of code points that have it, in ascending order. `CodeSet.contains` is the membership
test. The modules beside this one hold one property each; they keep the ASCII part of a property
out of the data and state it as a condition on the character, so that facts about plain English
text never look at an interval.
-/

namespace Notebook

/-- Closed intervals of code points, ascending and disjoint. -/
abbrev CodeSet := List (Nat × Nat)

/-- The search ends at the first interval that starts above the code point. -/
def CodeSet.contains : CodeSet → Nat → Bool
  | [], _ => false
  | (lo, hi) :: rest, n => if n < lo then false else n ≤ hi || CodeSet.contains rest n

end Notebook
