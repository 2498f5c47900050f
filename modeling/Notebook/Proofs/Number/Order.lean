import Mathlib

/-!
# The order of doubles

Doubles are compared as they are, and a comparison with what is no number always fails. Among
numbers, `<` is a strict order in which two that are not less than each other are of equal rank:

- `floatRank` — where a double stands among all doubles;
- `float_lt_iff_rank_lt` — comparing numbers compares their ranks;
- `float_lt_trans`, `float_lt_asymm`, `float_lt_of_not_lt_of_lt` — what follows for `<`.
-/

namespace Notebook

open Float.Model

/-- Where a double stands: its class, from negative infinity to positive infinity, and within a
class of finite numbers its exponent and mantissa, which count down for negative ones. -/
def floatRank : UnpackedFloat → Int ×ₗ Int ×ₗ Int
  | .notANumber => toLex (0, toLex (0, 0))
  | .infinity .negative => toLex (-2, toLex (0, 0))
  | .finite .negative m e _ => toLex (-1, toLex (-e, -m))
  | .zero _ => toLex (0, toLex (0, 0))
  | .finite .positive m e _ => toLex (1, toLex (e, m))
  | .infinity .positive => toLex (2, toLex (0, 0))

/-- Comparing by exponent and then by mantissa. -/
theorem compare_then_eq_lt {e₁ e₂ : Int} {m₁ m₂ : Nat} :
    (compare e₁ e₂).then (compare m₁ m₂) = .lt ↔ e₁ < e₂ ∨ e₁ = e₂ ∧ m₁ < m₂ := by
  rw [Ordering.then_eq_lt, Int.compare_eq_lt, Int.compare_eq_eq, Nat.compare_eq_lt]

theorem compare_then_eq_gt {e₁ e₂ : Int} {m₁ m₂ : Nat} :
    (compare e₁ e₂).then (compare m₁ m₂) = .gt ↔ e₂ < e₁ ∨ e₁ = e₂ ∧ m₂ < m₁ := by
  rw [Ordering.then_eq_gt, Int.compare_eq_gt, Int.compare_eq_eq, Nat.compare_eq_gt]

/-- Numbers are compared by their ranks. -/
theorem unpacked_lt_iff_rank_lt {a b : UnpackedFloat} (ha : a.isNaN = false)
    (hb : b.isNaN = false) : a.lt b = true ↔ floatRank a < floatRank b := by
  unfold UnpackedFloat.lt
  rw [beq_iff_eq]
  cases a with
  | notANumber => cases ha
  | infinity s =>
    cases b with
    | notANumber => cases hb
    | infinity s' => cases s <;> cases s' <;> decide
    | zero s' => cases s <;> cases s' <;> decide
    | finite s' m e hm =>
      cases s <;> cases s' <;>
        simp [UnpackedFloat.compare, floatRank, Prod.Lex.toLex_lt_toLex]
  | zero s =>
    cases b with
    | notANumber => cases hb
    | infinity s' => cases s <;> cases s' <;> decide
    | zero s' => cases s <;> cases s' <;> decide
    | finite s' m e hm =>
      cases s <;> cases s' <;>
        simp [UnpackedFloat.compare, floatRank, Prod.Lex.toLex_lt_toLex]
  | finite s m e hm =>
    cases b with
    | notANumber => cases hb
    | infinity s' =>
      cases s <;> cases s' <;>
        simp [UnpackedFloat.compare, floatRank, Prod.Lex.toLex_lt_toLex]
    | zero s' =>
      cases s <;> cases s' <;>
        simp [UnpackedFloat.compare, floatRank, Prod.Lex.toLex_lt_toLex]
    | finite s' m' e' hm' =>
      -- Only numbers of the same sign come down to exponent and mantissa.
      cases s <;> cases s' <;>
        simp [UnpackedFloat.compare, floatRank, Prod.Lex.toLex_lt_toLex, compare_then_eq_lt,
          compare_then_eq_gt]

/-- Comparing two doubles that are numbers compares their ranks. -/
theorem float_lt_iff_rank_lt {a b : Float} (ha : a.isNaN = false) (hb : b.isNaN = false) :
    a < b ↔ floatRank a.toModel.unpack < floatRank b.toModel.unpack := by
  rw [← unpacked_lt_iff_rank_lt ha hb]
  show decide (a.toModel.unpack.lt b.toModel.unpack = true) = true ↔ _
  rw [decide_eq_true_iff]

/-- Among numbers, what is less than something less is less. -/
theorem float_lt_trans {a b c : Float} (ha : a.isNaN = false) (hb : b.isNaN = false)
    (hc : c.isNaN = false) (hab : a < b) (hbc : b < c) : a < c := by
  rw [float_lt_iff_rank_lt ha hb] at hab
  rw [float_lt_iff_rank_lt hb hc] at hbc
  rw [float_lt_iff_rank_lt ha hc]
  exact hab.trans hbc

/-- Of two numbers, not both are less than the other. -/
theorem float_lt_asymm {a b : Float} (ha : a.isNaN = false) (hb : b.isNaN = false) (hab : a < b) :
    ¬b < a := by
  rw [float_lt_iff_rank_lt ha hb] at hab
  rw [float_lt_iff_rank_lt hb ha]
  exact hab.not_gt

/-- A number that another does not exceed is exceeded by whatever exceeds that one. -/
theorem float_lt_of_not_lt_of_lt {a b c : Float} (ha : a.isNaN = false) (hb : b.isNaN = false)
    (hc : c.isNaN = false) (hba : ¬b < a) (hbc : b < c) : a < c := by
  rw [float_lt_iff_rank_lt hb ha] at hba
  rw [float_lt_iff_rank_lt hb hc] at hbc
  rw [float_lt_iff_rank_lt ha hc]
  exact (not_lt.mp hba).trans_lt hbc

end Notebook
