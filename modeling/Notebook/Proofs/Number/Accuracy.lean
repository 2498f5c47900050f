import Mathlib
import Notebook.Proofs.Number.Rounding

/-!
# Computing with doubles

Every operation on doubles rounds, and a double that is computed in several steps has moved away
from what the steps come to exactly by a bounded factor:

- `Represents.unpack_pack` — a number with a full mantissa is stored as it is;
- `Represents.add`, `Represents.mul`, `Represents.lt` — sums, products and the order of doubles;
- `Rounded` — a double that may have been rounded several times on the way from a number;
- `Rounded.add`, `Rounded.mul` — the roundings of the operands and one more;
- `Rounded.lt` — roundings keep numbers in order that lie far enough apart;
- `rounded_ofNat` — whole numbers below `2 ^ 53`.

The bounds on numbers are far from tight: they keep clear of overflow and of numbers with fewer
bits.
-/

namespace Notebook

open Float.Model UnpackedFloat

/-! ### Storing a number -/

/-- The highest bit of a full mantissa is left out and put back. -/
theorem toNat_leading_one {m : Nat} (hlow : 2 ^ 52 ≤ m) (hhigh : m < 2 ^ 53) :
    (1#1 ++ BitVec.ofNat 52 m).toNat = m := by
  have hmod : m % 2 ^ 52 = m - 2 ^ 52 := by omega
  rw [BitVec.toNat_append, ← Nat.shiftLeft_add_eq_or_of_lt (BitVec.isLt _), BitVec.toNat_ofNat,
    BitVec.toNat_ofNat, hmod, Nat.shiftLeft_eq]
  omega

theorem ofNat_eleven_ne {b c : Nat} (hb : b < 2 ^ 11) (hc : c < 2 ^ 11) (hne : b ≠ c) :
    BitVec.ofNat 11 b ≠ BitVec.ofNat 11 c := by
  intro h
  have h := congrArg BitVec.toNat h
  rw [BitVec.toNat_ofNat, BitVec.toNat_ofNat, Nat.mod_eq_of_lt hb, Nat.mod_eq_of_lt hc] at h
  exact hne h

/-- A full mantissa is stored with its exponent counted from `-1075`. -/
theorem pack_full {m b : Nat} {e : Int} (hpos : 0 < m) (hlow : 2 ^ 52 ≤ m) (hhigh : m < 2 ^ 53)
    (hb : e + 1075 = b) (hmax : b < 2047) :
    UnpackedFloat.pack Format.binary64 (.finite .positive m e hpos) =
      packComponents Format.binary64 .positive (BitVec.ofNat 11 b) (BitVec.ofNat 52 m) := by
  have hlog : m.log2 + 1 = Format.binary64.mantissaBits := by
    rw [(Nat.log2_eq_iff hpos.ne').mpr ⟨hlow, hhigh⟩]
    rfl
  have hbias : e + Format.binary64.exponentBias + Format.binary64.mantissaBitsWithoutImplicit =
      b := by
    rw [← hb, add_assoc]
    rfl
  have hfits : ¬2 ^ Format.binary64.exponentBits ≤ b + 1 := by
    show ¬2 ^ 11 ≤ b + 1
    omega
  simp only [UnpackedFloat.pack, hbias, hlog, Int.toNat_natCast, if_true, if_neg hfits]

/-- A number with a full mantissa is stored as it is. -/
theorem Represents.unpack_pack {u : UnpackedFloat} {q : ℚ} (h : Represents u q) :
    (Float.Model.pack u).unpack = u := by
  cases h with
  | zero => rfl
  | @finite m e hpos hlow hhigh hmin hmax =>
    obtain ⟨b, hb⟩ : ∃ b : Nat, e + 1075 = b := ⟨(e + 1075).toNat, by omega⟩
    have hexponent : (BitVec.ofNat 11 b).toNat = b := by
      rw [BitVec.toNat_ofNat]
      omega
    have hmantissa : (1#1 ++ BitVec.ofNat 52 m).toNat = m := toNat_leading_one hlow hhigh
    -- The least and the greatest exponent are kept for other doubles.
    have hnotmax : BitVec.ofNat 11 b ≠ -1#11 :=
      ofNat_eleven_ne (c := 2047) (by omega) (by decide) (by omega)
    have hnotzero : BitVec.ofNat 11 b ≠ 0#11 :=
      ofNat_eleven_ne (c := 0) (by omega) (by decide) (by omega)
    show UnpackedFloat.unpack Format.binary64 (UnpackedFloat.pack Format.binary64 _) = _
    rw [pack_full hpos hlow hhigh hb (by omega)]
    simp only [UnpackedFloat.unpack, unpackExponent_packComponents, unpackMantissa_packComponents,
      unpackSign_packComponents, if_neg hnotmax, if_neg hnotzero, hmantissa, hexponent]
    obtain rfl : e = b - 1075 := by omega
    rfl

/-! ### Operations on doubles -/

namespace Represents

variable {x y : Float} {p q : ℚ}

theorem add (hx : Represents x.toModel.unpack p) (hy : Represents y.toModel.unpack q)
    (hmax : p + q ≤ 2 ^ (1022 : ℤ)) :
    ∃ r, Represents (x + y).toModel.unpack r ∧ |r - (p + q)| ≤ (p + q) / 2 ^ 53 := by
  obtain ⟨r, hr, herror⟩ := hx.exists_add hy hmax
  refine ⟨r, ?_, herror⟩
  show Represents (Float.Model.pack (UnpackedFloat.add _ _ _)).unpack r
  rwa [hr.unpack_pack]

theorem mul (hx : Represents x.toModel.unpack p) (hy : Represents y.toModel.unpack q)
    (hmin : p * q = 0 ∨ 2 ^ (-1022 : ℤ) ≤ p * q) (hmax : p * q ≤ 2 ^ (1022 : ℤ)) :
    ∃ r, Represents (x * y).toModel.unpack r ∧ |r - p * q| ≤ p * q / 2 ^ 53 := by
  obtain ⟨r, hr, herror⟩ := hx.exists_mul hy hmin hmax
  refine ⟨r, ?_, herror⟩
  show Represents (Float.Model.pack (UnpackedFloat.mul _ _ _)).unpack r
  rwa [hr.unpack_pack]

theorem lt (hx : Represents x.toModel.unpack p) (hy : Represents y.toModel.unpack q) (h : p < q) :
    x < y :=
  (float_lt_iff_rank_lt hx.isNaN_eq_false hy.isNaN_eq_false).mpr (hx.rank_lt hy h)

end Represents

/-! ### Several roundings -/

/-- The part of a number that a rounding changes at most. -/
def roundoff : ℚ := 1 / 2 ^ 53

theorem roundoff_pos : 0 < roundoff := by norm_num [roundoff]

theorem roundoff_lt_one : roundoff < 1 := by norm_num [roundoff]

theorem one_sub_roundoff_pow_pos (k : Nat) : 0 < (1 - roundoff) ^ k :=
  pow_pos (sub_pos.mpr roundoff_lt_one) k

theorem one_add_roundoff_pow_pos (k : Nat) : 0 < (1 + roundoff) ^ k :=
  pow_pos (add_pos one_pos roundoff_pos) k

/-- A few roundings do not halve a number. -/
theorem half_le_one_sub_roundoff_pow {k : Nat} (hk : k ≤ 8) : 1 / 2 ≤ (1 - roundoff) ^ k :=
  calc (1 / 2 : ℚ) ≤ (1 - roundoff) ^ 8 := by norm_num [roundoff]
    _ ≤ (1 - roundoff) ^ k := pow_le_pow_of_le_one (sub_nonneg.mpr roundoff_lt_one.le)
        (sub_le_self 1 roundoff_pos.le) hk

/-- A few roundings do not double a number. -/
theorem one_add_roundoff_pow_le_two {k : Nat} (hk : k ≤ 8) : (1 + roundoff) ^ k ≤ 2 :=
  calc (1 + roundoff) ^ k ≤ (1 + roundoff) ^ 8 :=
        pow_le_pow_right₀ (le_add_of_nonneg_right roundoff_pos.le) hk
    _ ≤ 2 := by norm_num [roundoff]

/-- A double that may have been rounded `k` times on the way from a number. -/
def Rounded (k : Nat) (x : Float) (q : ℚ) : Prop :=
  ∃ r, Represents x.toModel.unpack r ∧ q * (1 - roundoff) ^ k ≤ r ∧ r ≤ q * (1 + roundoff) ^ k

section Roundings

variable {k : Nat} {p q r : ℚ}

/-- One more rounding. -/
theorem mem_of_abs_sub_le (hlow : q * (1 - roundoff) ^ k ≤ p) (hhigh : p ≤ q * (1 + roundoff) ^ k)
    (herror : |r - p| ≤ p / 2 ^ 53) :
    q * (1 - roundoff) ^ (k + 1) ≤ r ∧ r ≤ q * (1 + roundoff) ^ (k + 1) := by
  obtain ⟨hleft, hright⟩ := abs_le.mp herror
  constructor
  · calc q * (1 - roundoff) ^ (k + 1) = q * (1 - roundoff) ^ k * (1 - roundoff) := by ring
      _ ≤ p * (1 - roundoff) := mul_le_mul_of_nonneg_right hlow (sub_nonneg.mpr roundoff_lt_one.le)
      _ = p - p / 2 ^ 53 := by rw [roundoff]; ring
      _ ≤ r := by linarith
  · calc r ≤ p + p / 2 ^ 53 := by linarith
      _ = p * (1 + roundoff) := by rw [roundoff]; ring
      _ ≤ q * (1 + roundoff) ^ k * (1 + roundoff) :=
        mul_le_mul_of_nonneg_right hhigh (add_pos one_pos roundoff_pos).le
      _ = q * (1 + roundoff) ^ (k + 1) := by ring

/-- A few roundings do not carry a number of moderate size out of range. -/
theorem le_of_le_mul_pow (hk : k ≤ 8) (hmax : q ≤ 2 ^ 64) (hhigh : r ≤ q * (1 + roundoff) ^ k) :
    r ≤ 2 ^ (1022 : ℤ) :=
  calc r ≤ q * (1 + roundoff) ^ k := hhigh
    _ ≤ 2 ^ 64 * 2 := mul_le_mul hmax (one_add_roundoff_pow_le_two hk)
        (one_add_roundoff_pow_pos k).le (by positivity)
    _ = 2 ^ (65 : ℤ) := by norm_num
    _ ≤ 2 ^ (1022 : ℤ) := zpow_le_zpow_right₀ one_le_two (by decide)

theorem le_of_mul_pow_le (hk : k ≤ 8) (hmin : 1 / 16 ≤ q) (hlow : q * (1 - roundoff) ^ k ≤ r) :
    2 ^ (-1022 : ℤ) ≤ r :=
  calc (2 : ℚ) ^ (-1022 : ℤ) ≤ 2 ^ (-5 : ℤ) := zpow_le_zpow_right₀ one_le_two (by decide)
    _ = 1 / 16 * (1 / 2) := by norm_num
    _ ≤ q * (1 - roundoff) ^ k := mul_le_mul hmin (half_le_one_sub_roundoff_pow hk) (by norm_num)
        (le_trans (by norm_num) hmin)
    _ ≤ r := hlow

/-- A multiple of a number of moderate size is zero or of moderate size. -/
theorem mul_nat_eq_zero_or_le {c : ℚ} (hc : 1 / 16 ≤ c) (n : Nat) :
    c * n = 0 ∨ 1 / 16 ≤ c * n := by
  rcases Nat.eq_zero_or_pos n with rfl | hn
  · exact .inl (by rw [Nat.cast_zero, mul_zero])
  · have hn : (1 : ℚ) ≤ n := by exact_mod_cast hn
    exact .inr (hc.trans (le_mul_of_one_le_right (le_trans (by norm_num) hc) hn))

end Roundings

namespace Rounded

variable {j k : Nat} {x y : Float} {p q : ℚ}

theorem nonneg (h : Rounded k x q) : 0 ≤ q := by
  obtain ⟨r, hr, -, hhigh⟩ := h
  exact nonneg_of_mul_nonneg_left (hr.nonneg.trans hhigh) (one_add_roundoff_pow_pos k)

theorem mono (h : Rounded j x q) (hjk : j ≤ k) : Rounded k x q := by
  have hq := h.nonneg
  obtain ⟨r, hr, hlow, hhigh⟩ := h
  have hshrink := pow_le_pow_of_le_one (sub_nonneg.mpr roundoff_lt_one.le)
    (sub_le_self 1 roundoff_pos.le) hjk
  have hgrow := pow_le_pow_right₀ (le_add_of_nonneg_right (a := (1 : ℚ)) roundoff_pos.le) hjk
  exact ⟨r, hr, (mul_le_mul_of_nonneg_left hshrink hq).trans hlow,
    hhigh.trans (mul_le_mul_of_nonneg_left hgrow hq)⟩

theorem isNaN_eq_false (h : Rounded k x q) : x.isNaN = false := by
  obtain ⟨r, hr, -, -⟩ := h
  exact hr.isNaN_eq_false

/-- Roundings keep numbers in order that lie far enough apart. -/
theorem lt (hx : Rounded k x p) (hy : Rounded k y q)
    (h : p * (1 + roundoff) ^ k < q * (1 - roundoff) ^ k) : x < y := by
  obtain ⟨r, hr, -, hrhigh⟩ := hx
  obtain ⟨s, hs, hslow, -⟩ := hy
  exact hr.lt hs ((hrhigh.trans_lt h).trans_le hslow)

/-- A sum of doubles is rounded once more than they are. -/
theorem add (hx : Rounded k x p) (hy : Rounded k y q) (hk : k ≤ 8) (hmax : p + q ≤ 2 ^ 64) :
    Rounded (k + 1) (x + y) (p + q) := by
  obtain ⟨r, hr, hrlow, hrhigh⟩ := hx
  obtain ⟨s, hs, hslow, hshigh⟩ := hy
  have hlow : (p + q) * (1 - roundoff) ^ k ≤ r + s := by linarith
  have hhigh : r + s ≤ (p + q) * (1 + roundoff) ^ k := by linarith
  obtain ⟨t, ht, herror⟩ := hr.add hs (le_of_le_mul_pow hk hmax hhigh)
  exact ⟨t, ht, mem_of_abs_sub_le hlow hhigh herror⟩

/-- A product of doubles has the roundings of both, and one more. -/
theorem mul (hx : Rounded j x p) (hy : Rounded k y q) (hjk : j + k ≤ 8)
    (hmin : p * q = 0 ∨ 1 / 16 ≤ p * q) (hmax : p * q ≤ 2 ^ 64) :
    Rounded (j + k + 1) (x * y) (p * q) := by
  have hp := hx.nonneg
  have hq := hy.nonneg
  obtain ⟨r, hr, hrlow, hrhigh⟩ := hx
  obtain ⟨s, hs, hslow, hshigh⟩ := hy
  have hlow : p * q * (1 - roundoff) ^ (j + k) ≤ r * s :=
    calc p * q * (1 - roundoff) ^ (j + k) = p * (1 - roundoff) ^ j * (q * (1 - roundoff) ^ k) := by
          ring
      _ ≤ r * s :=
        mul_le_mul hrlow hslow (mul_nonneg hq (one_sub_roundoff_pow_pos k).le) hr.nonneg
  have hhigh : r * s ≤ p * q * (1 + roundoff) ^ (j + k) :=
    calc r * s ≤ p * (1 + roundoff) ^ j * (q * (1 + roundoff) ^ k) :=
          mul_le_mul hrhigh hshigh hs.nonneg (mul_nonneg hp (one_add_roundoff_pow_pos j).le)
      _ = p * q * (1 + roundoff) ^ (j + k) := by ring
  -- The product is zero or normal, and there the error of a rounding is relative.
  have hnormal : r * s = 0 ∨ 2 ^ (-1022 : ℤ) ≤ r * s := by
    refine hmin.imp (fun hzero => ?_) fun hge => le_of_mul_pow_le hjk hge hlow
    rw [hzero, zero_mul] at hlow hhigh
    exact le_antisymm hhigh hlow
  obtain ⟨t, ht, herror⟩ := hr.mul hs hnormal (le_of_le_mul_pow hjk hmax hhigh)
  exact ⟨t, ht, mem_of_abs_sub_le hlow hhigh herror⟩

end Rounded

/-! ### Whole numbers -/

theorem toModel_toFloat {n : Nat} (hn : n < 2 ^ 53) :
    n.toUInt64.toFloat.toModel = Float.Model.pack (UnpackedFloat.ofNat Format.binary64 n) := by
  show Float.Model.pack (UnpackedFloat.ofNat Format.binary64 n.toUInt64.toNat) = _
  rw [Nat.toUInt64_eq, UInt64.toNat_ofNat_of_lt' (hn.trans (by decide))]

theorem rounded_toFloat {n : Nat} (hn : n < 2 ^ 53) : Rounded 1 n.toUInt64.toFloat n := by
  have hconvert : ∃ r, Represents (UnpackedFloat.ofNat Format.binary64 n) r ∧
      |r - n| ≤ (n : ℚ) / 2 ^ 53 := by
    rcases Nat.eq_zero_or_pos n with rfl | hpos
    · exact ⟨0, .zero, by simp⟩
    · have hsign : compare (n : Int) 0 = .gt := Int.compare_eq_gt.mpr (by exact_mod_cast hpos)
      have hmin : (2 : ℚ) ^ (-1022 : ℤ) ≤ n :=
        calc (2 : ℚ) ^ (-1022 : ℤ) ≤ 2 ^ (0 : ℤ) := zpow_le_zpow_right₀ one_le_two (by decide)
          _ ≤ n := by exact_mod_cast hpos
      have hmax : (n : ℚ) ≤ 2 ^ (1022 : ℤ) :=
        calc (n : ℚ) ≤ 2 ^ (53 : ℤ) := by exact_mod_cast hn.le
          _ ≤ 2 ^ (1022 : ℤ) := zpow_le_zpow_right₀ one_le_two (by decide)
      have hround := exists_represents_round hpos (e := 0)
      rw [zpow_zero, mul_one] at hround
      simp only [UnpackedFloat.ofNat, UnpackedFloat.ofInt, UnpackedFloat.normalize, hsign]
      exact hround hmin hmax
  -- An integer of 53 bits is converted by a rounding of its own, like any other result.
  obtain ⟨r, hr, herror⟩ := hconvert
  refine ⟨r, ?_, mem_of_abs_sub_le (k := 0) (by simp) (by simp) herror⟩
  rw [toModel_toFloat hn, hr.unpack_pack]
  exact hr

/-- A double that is known bit by bit. -/
theorem rounded_of_unpack {x : Float} {m : Nat} {e : Int} {hpos : 0 < m}
    (hunpack : x.toModel.unpack = .finite .positive m e hpos) (hlow : 2 ^ 52 ≤ m)
    (hhigh : m < 2 ^ 53) (hmin : -1074 ≤ e) (hmax : e ≤ 971) : Rounded 0 x (m * 2 ^ e) := by
  refine ⟨m * 2 ^ e, ?_, by simp, by simp⟩
  rw [hunpack]
  exact .finite hpos hlow hhigh hmin hmax

theorem rounded_one : Rounded 0 1.0 1 := by
  have hunpack : (1.0 : Float).toModel.unpack = .finite .positive (2 ^ 52) (-52) (by decide) := rfl
  have h := rounded_of_unpack hunpack (by decide) (by decide) (by decide) (by decide)
  norm_num at h
  exact h

theorem rounded_two : Rounded 0 2.0 2 := by
  have hunpack : (2.0 : Float).toModel.unpack = .finite .positive (2 ^ 52) (-51) (by decide) := rfl
  have h := rounded_of_unpack hunpack (by decide) (by decide) (by decide) (by decide)
  norm_num at h
  exact h

/-- A tenth is no double: the nearest one is a little more. -/
theorem rounded_tenth : Rounded 1 0.1 (1 / 10) := by
  have hunpack : (0.1 : Float).toModel.unpack =
      .finite .positive 7205759403792794 (-56) (by decide) := rfl
  obtain ⟨r, hr, hlow, hhigh⟩ :=
    rounded_of_unpack hunpack (by decide) (by decide) (by decide) (by decide)
  refine ⟨r, hr, le_trans ?_ hlow, hhigh.trans ?_⟩ <;> norm_num [roundoff]

/-- A whole number is converted and then multiplied by one. -/
theorem rounded_ofNat {n : Nat} (hn : n < 2 ^ 53) : Rounded 2 (Float.ofNat n) n := by
  have hconvert : Float.ofNat n = n.toUInt64.toFloat * 1.0 := by
    show Float.ofScientific n false 0 = _
    rw [Float.ofScientific, dif_pos ⟨hn, by decide⟩]
    rfl
  have hle : n ≤ 2 ^ 64 := by omega
  have hmul := (rounded_toFloat hn).mul rounded_one (by decide)
  rw [mul_one, ← hconvert] at hmul
  refine hmul ?_ (by exact_mod_cast hle)
  simpa using mul_nat_eq_zero_or_le (c := 1) (by norm_num) n

end Notebook
