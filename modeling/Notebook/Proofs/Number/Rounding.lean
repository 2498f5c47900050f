import Mathlib
import Notebook.Proofs.Number.Order

/-!
# Rounding to a double

What a sum or a product of doubles comes to exactly may need more bits than a mantissa has. It is
rounded to the nearest number that has 53 of them, and to an even mantissa from halfway:

- `Locates` — what the bits that are shifted out still tell about a number; rounding by them moves
  it by at most half of the last place (`Locates.abs_sub_le`);
- `Represents` — an unpacked double stands for a number of at least zero, with all 53 bits used;
- `exists_represents_round` — what is rounded is represented, off by at most one part in `2 ^ 53`;
- `Represents.exists_add`, `Represents.exists_mul` — the same for sums and products;
- `Represents.rank_lt` — what is smaller stands lower in the order of doubles.

Numbers below `2 ^ (-1022)`, which have fewer bits, and those above `2 ^ 1022` are left out.
-/

namespace Notebook

open Float.Model UnpackedFloat

/-! ### Bits that are shifted out -/

/-- Where a number lies, as far as a mantissa with a round bit and a sticky bit tells. -/
def Locates (em : ExtendedMantissa) (x : ℚ) : Prop :=
  match em.roundBit, em.stickyBit with
  | false, false => x = em.mantissa
  | false, true => em.mantissa < x ∧ x < em.mantissa + 1 / 2
  | true, false => x = em.mantissa + 1 / 2
  | true, true => em.mantissa + 1 / 2 < x ∧ x < em.mantissa + 1

/-- Dropping the last bit of a mantissa halves the number. -/
theorem Locates.halve {em : ExtendedMantissa} {x : ℚ} (h : Locates em x) :
    Locates em.shiftRightOne (x / 2) := by
  obtain ⟨m, r, s⟩ := em
  have hm : ((m % 2 : Nat) : ℚ) + 2 * (m / 2 : Nat) = m := by exact_mod_cast Nat.mod_add_div m 2
  -- The bit that is dropped says which half the number is in, the two before it where in there.
  rcases Nat.mod_two_eq_zero_or_one m with hmod | hmod <;> rw [hmod] at hm <;> push_cast at hm <;>
    cases r <;> cases s <;> simp only [Locates, ExtendedMantissa.shiftRightOne, hmod] at h ⊢ <;>
    simp <;> grind

theorem Locates.shiftRight {em : ExtendedMantissa} {x : ℚ} (h : Locates em x) (k : Nat) :
    Locates (em >>> k) (x / 2 ^ k) := by
  induction k with
  | zero =>
    rw [pow_zero, div_one]
    exact h
  | succ k ih =>
    rw [pow_succ, ← div_div]
    exact ih.halve

/-- Rounding moves a number by at most half of the last place. -/
theorem Locates.abs_sub_le {em : ExtendedMantissa} {x : ℚ} (h : Locates em x) :
    |(em.roundedMantissa : ℚ) - x| ≤ 1 / 2 := by
  obtain ⟨m, r, s⟩ := em
  have hm : m % 2 = 0 ∨ m % 2 = 1 := Nat.mod_two_eq_zero_or_one m
  rw [abs_le]
  cases r <;> cases s <;> simp only [Locates, ExtendedMantissa.roundedMantissa,
    ExtendedMantissa.accuracy, Accuracy.roundToNearestEven] at h ⊢
  · constructor <;> linarith
  · constructor <;> linarith
  · rcases hm with hm | hm <;> rw [hm] <;> push_cast <;> constructor <;> linarith
  · push_cast
    constructor <;> linarith

/-! ### Numbers with a full mantissa -/

/-- An unpacked double stands for a number: for zero, or for one whose mantissa has 53 bits. -/
inductive Represents : UnpackedFloat → ℚ → Prop
  | zero : Represents (.zero .positive) 0
  | finite {m : Nat} {e : Int} (hpos : 0 < m) (hlow : 2 ^ 52 ≤ m) (hhigh : m < 2 ^ 53)
      (hmin : -1074 ≤ e) (hmax : e ≤ 971) : Represents (.finite .positive m e hpos) (m * 2 ^ e)

theorem Represents.nonneg {u : UnpackedFloat} {q : ℚ} (h : Represents u q) : 0 ≤ q := by
  cases h with
  | zero => exact le_rfl
  | finite => positivity

theorem Represents.isNaN_eq_false {u : UnpackedFloat} {q : ℚ} (h : Represents u q) :
    u.isNaN = false := by
  cases h <;> rfl

/-- A number with a full mantissa is not below the smallest one. -/
theorem two_zpow_le_of_full {m : Nat} {e : Int} (hlow : 2 ^ 52 ≤ m) (hmin : -1074 ≤ e) :
    (2 : ℚ) ^ (-1022 : ℤ) ≤ m * 2 ^ e := by
  have hm : (2 : ℚ) ^ 52 ≤ m := by exact_mod_cast hlow
  have hpow : (2 : ℚ) ^ (-1074 : ℤ) ≤ 2 ^ e := zpow_le_zpow_right₀ one_le_two hmin
  calc (2 : ℚ) ^ (-1022 : ℤ) = 2 ^ 52 * 2 ^ (-1074 : ℤ) := by
        rw [← zpow_natCast, ← zpow_add₀ two_ne_zero]
        rfl
    _ ≤ m * 2 ^ e := mul_le_mul hm hpow (by positivity) (by positivity)

/-- With full mantissas, what is smaller stands lower. -/
theorem Represents.rank_lt {u v : UnpackedFloat} {p q : ℚ} (hu : Represents u p)
    (hv : Represents v q) (h : p < q) : floatRank u < floatRank v := by
  cases hv with
  | zero => exact absurd h (not_lt.mpr hu.nonneg)
  | @finite n f _ _ hhigh _ _ =>
    cases hu with
    | zero => simp [floatRank, Prod.Lex.toLex_lt_toLex]
    | @finite m e _ hlow _ _ _ =>
      simp only [floatRank, Prod.Lex.toLex_lt_toLex, lt_self_iff_false, true_and, false_or]
      rcases lt_trichotomy e f with hlt | rfl | hgt
      · exact .inl hlt
      · refine .inr ⟨rfl, ?_⟩
        have hm : (m : ℚ) < n := lt_of_mul_lt_mul_right h (by positivity)
        exact_mod_cast hm
      · -- A mantissa of 53 bits outweighs any at a lower exponent.
        have hm : (2 : ℚ) ^ 52 ≤ m := by exact_mod_cast hlow
        have hn : (n : ℚ) < 2 ^ 53 := by exact_mod_cast hhigh
        have hpow : (2 : ℚ) ^ (f + 1) ≤ 2 ^ e := zpow_le_zpow_right₀ one_le_two hgt
        have hge : (n : ℚ) * 2 ^ f ≤ m * 2 ^ e :=
          calc (n : ℚ) * 2 ^ f ≤ 2 ^ 53 * 2 ^ f := by gcongr
            _ = 2 ^ 52 * 2 ^ (f + 1) := by rw [zpow_add_one₀ two_ne_zero]; ring
            _ ≤ m * 2 ^ e := mul_le_mul hm hpow (by positivity) (by positivity)
        exact absurd h hge.not_gt

/-! ### Shifting to 53 bits -/

theorem targetExponent_eq {m : Nat} {e : Int} (hmin : -1022 ≤ m.log2 + e) :
    Format.binary64.targetExponent (totalExponent m e) = m.log2 + e - 52 := by
  simp only [Format.targetExponent, totalExponent, Format.mantissaBits, Format.minExponent]
  norm_num
  omega

/-- A mantissa of `53 + k` bits is shifted by `k` of them. -/
theorem shiftToTargetExponent_of_log2 {m : Nat} {e : Int} {k : Nat} (hk : m.log2 = 52 + k)
    (hmin : -1074 ≤ e + k) :
    shiftToTargetExponent Format.binary64 m e .exact =
      ((⟨m, false, false⟩ : ExtendedMantissa) >>> k, e + k) := by
  have hshift : (Format.binary64.targetExponent (totalExponent m e) - e).toNat = k := by
    rw [targetExponent_eq (by omega)]
    omega
  simp only [shiftToTargetExponent, shiftToExponent, hshift]
  rfl

/-- A mantissa of 53 bits stays where it is. -/
theorem shiftToTargetExponent_full {m : Nat} {e : Int} (hlow : 2 ^ 52 ≤ m) (hhigh : m < 2 ^ 53)
    (hmin : -1074 ≤ e) :
    shiftToTargetExponent Format.binary64 m e .exact = (⟨m, false, false⟩, e) := by
  have hlog : m.log2 = 52 + 0 := (Nat.log2_eq_iff (by omega)).mpr ⟨hlow, hhigh⟩
  rw [shiftToTargetExponent_of_log2 hlog (by omega)]
  exact Prod.ext rfl (add_zero e)

/-- A mantissa that rounding has carried to 54 bits loses the last one. -/
theorem shiftToTargetExponent_carry {e : Int} (hmin : -1074 ≤ e) :
    shiftToTargetExponent Format.binary64 (2 ^ 53) e .exact = (⟨2 ^ 52, false, false⟩, e + 1) := by
  have hlog : (2 ^ 53).log2 = 52 + 1 := Nat.log2_two_pow
  rw [shiftToTargetExponent_of_log2 hlog (by omega)]
  rfl

theorem roundWithAccuracy_eq {m n : Nat} {e f g : Int} {a : ExtendedMantissa}
    (hfirst : shiftToTargetExponent Format.binary64 m e .exact = (a, f))
    (hsecond : shiftToTargetExponent Format.binary64 a.roundedMantissa f .exact =
      (⟨n, false, false⟩, g)) (hpos : 0 < n) :
    roundWithAccuracy Format.binary64 .positive m e .exact = .finite .positive n g hpos := by
  simp only [roundWithAccuracy, hfirst, hsecond]
  rw [dif_neg hpos.ne']

/-- A rounded mantissa is kept as it is, or after a carry with one bit less. -/
theorem represents_rounded {m : Nat} {e f : Int} {a : ExtendedMantissa}
    (hfirst : shiftToTargetExponent Format.binary64 m e .exact = (a, f)) (hmin : -1074 ≤ f)
    (hmax : f ≤ 970) (hlow : 2 ^ 52 ≤ a.roundedMantissa) (hhigh : a.roundedMantissa ≤ 2 ^ 53) :
    Represents (roundWithAccuracy Format.binary64 .positive m e .exact)
      (a.roundedMantissa * 2 ^ f) := by
  rcases hhigh.lt_or_eq with hlt | hcarry
  · have hsecond := shiftToTargetExponent_full hlow hlt hmin
    rw [roundWithAccuracy_eq hfirst hsecond (by omega)]
    exact .finite _ hlow hlt hmin (by omega)
  · -- Rounding up has carried into one bit more; the value is the least mantissa a step above.
    have hsecond := shiftToTargetExponent_carry hmin
    rw [← hcarry] at hsecond
    rw [roundWithAccuracy_eq hfirst hsecond (by decide), hcarry]
    have hvalue : ((2 ^ 53 : Nat) : ℚ) * 2 ^ f = (2 ^ 52 : Nat) * 2 ^ (f + 1) := by
      rw [zpow_add_one₀ two_ne_zero]
      push_cast
      ring
    rw [hvalue]
    exact .finite _ le_rfl (by decide) (by omega) (by omega)

/-! ### How far rounding moves a number -/

/-- The place of the highest bit follows from the size of a number. -/
theorem log2_add_mem {m : Nat} {e : Int} (hpos : 0 < m)
    (hmin : (2 : ℚ) ^ (-1022 : ℤ) ≤ m * 2 ^ e) (hmax : (m : ℚ) * 2 ^ e ≤ 2 ^ (1022 : ℤ)) :
    -1022 ≤ m.log2 + e ∧ m.log2 + e ≤ 1022 := by
  have hlow : (2 : ℚ) ^ m.log2 ≤ m := by exact_mod_cast Nat.log2_self_le hpos.ne'
  have hhigh : (m : ℚ) < 2 ^ (m.log2 + 1) := by exact_mod_cast Nat.lt_log2_self
  have hfloor : (2 : ℚ) ^ (m.log2 + e : ℤ) ≤ m * 2 ^ e := by
    rw [zpow_add₀ two_ne_zero, zpow_natCast]
    gcongr
  have hceil : m * 2 ^ e < (2 : ℚ) ^ ((m.log2 + 1 : Nat) + e : ℤ) := by
    rw [zpow_add₀ two_ne_zero, zpow_natCast]
    gcongr
  have hbelow := (zpow_lt_zpow_iff_right₀ one_lt_two).mp (hmin.trans_lt hceil)
  have habove := (zpow_le_zpow_iff_right₀ one_lt_two).mp (hfloor.trans hmax)
  omega

/-- A mantissa that is shifted to 53 bits and rounded carries by at most one bit. -/
theorem roundedMantissa_mem {m k : Nat} {a : ExtendedMantissa} (hm : m ≠ 0) (hk : m.log2 = 52 + k)
    (hround : |(a.roundedMantissa : ℚ) - m / 2 ^ k| ≤ 1 / 2) :
    2 ^ 52 ≤ a.roundedMantissa ∧ a.roundedMantissa ≤ 2 ^ 53 := by
  obtain ⟨hlow, hhigh⟩ := (Nat.log2_eq_iff hm).mp hk
  have hk0 : (0 : ℚ) < 2 ^ k := by positivity
  have hbelow : (2 : ℚ) ^ 52 ≤ m / 2 ^ k := by
    rw [le_div_iff₀ hk0, ← pow_add]
    exact_mod_cast hlow
  have habove : (m : ℚ) / 2 ^ k < 2 ^ 53 := by
    rw [div_lt_iff₀ hk0, ← pow_add, show 53 + k = 52 + k + 1 by omega]
    exact_mod_cast hhigh
  obtain ⟨hleft, hright⟩ := abs_le.mp hround
  constructor
  · have hlt : (2 : ℚ) ^ 52 < a.roundedMantissa + 1 := by linarith
    exact Nat.lt_add_one_iff.mp (by exact_mod_cast hlt)
  · have hlt : (a.roundedMantissa : ℚ) < 2 ^ 53 + 1 := by linarith
    exact Nat.lt_add_one_iff.mp (by exact_mod_cast hlt)

/-- Rounding a mantissa of 53 bits or more is off by at most one part in `2 ^ 53`. -/
theorem exists_represents_roundWithAccuracy {m : Nat} {e : Int} (hm : 2 ^ 52 ≤ m)
    (hmin : (2 : ℚ) ^ (-1022 : ℤ) ≤ m * 2 ^ e) (hmax : (m : ℚ) * 2 ^ e ≤ 2 ^ (1022 : ℤ)) :
    ∃ q, Represents (roundWithAccuracy Format.binary64 .positive m e .exact) q ∧
      |q - m * 2 ^ e| ≤ m * 2 ^ e / 2 ^ 53 := by
  have hne : m ≠ 0 := by omega
  obtain ⟨k, hk⟩ : ∃ k, m.log2 = 52 + k := Nat.exists_eq_add_of_le ((Nat.le_log2 hne).mpr hm)
  obtain ⟨hemin, hemax⟩ := log2_add_mem (Nat.pos_of_ne_zero hne) hmin hmax
  have hfirst := shiftToTargetExponent_of_log2 hk (e := e) (by omega)
  have hexact : Locates ⟨m, false, false⟩ m := rfl
  have hround := (hexact.shiftRight k).abs_sub_le
  generalize ((⟨m, false, false⟩ : ExtendedMantissa) >>> k) = a at hfirst hround
  obtain ⟨hlow, hhigh⟩ := roundedMantissa_mem hne hk hround
  refine ⟨_, represents_rounded hfirst (by omega) (by omega) hlow hhigh, ?_⟩
  -- The mantissa is off by half a unit, and the unit is a part in `2 ^ 52` of the mantissa at most.
  have hvalue : (a.roundedMantissa : ℚ) * 2 ^ (e + k) - m * 2 ^ e =
      (a.roundedMantissa - m / 2 ^ k) * (2 ^ k * 2 ^ e) := by
    rw [zpow_add₀ two_ne_zero, zpow_natCast]
    field_simp
  have hbits : (2 : ℚ) ^ (52 + k) ≤ m := by exact_mod_cast ((Nat.log2_eq_iff hne).mp hk).1
  rw [hvalue, abs_mul, abs_of_pos (by positivity : (0 : ℚ) < 2 ^ k * 2 ^ e)]
  calc |(a.roundedMantissa : ℚ) - m / 2 ^ k| * (2 ^ k * 2 ^ e)
      ≤ 1 / 2 * (2 ^ k * 2 ^ e) := by gcongr
    _ = 2 ^ (52 + k) * 2 ^ e / 2 ^ 53 := by rw [pow_add]; ring
    _ ≤ m * 2 ^ e / 2 ^ 53 := by gcongr

/-- Appending bits to a mantissa and lowering the exponent by as much changes nothing. -/
theorem shiftLeft_mul_zpow (m k : Nat) (e : Int) :
    ((m <<< k : Nat) : ℚ) * 2 ^ (e - k) = m * 2 ^ e := by
  rw [Nat.shiftLeft_eq, zpow_sub₀ two_ne_zero, zpow_natCast]
  push_cast
  field_simp

/-- Rounding is off by at most one part in `2 ^ 53`. -/
theorem exists_represents_round {m : Nat} {e : Int} (hpos : 0 < m)
    (hmin : (2 : ℚ) ^ (-1022 : ℤ) ≤ m * 2 ^ e) (hmax : (m : ℚ) * 2 ^ e ≤ 2 ^ (1022 : ℤ)) :
    ∃ q, Represents (UnpackedFloat.round Format.binary64 .positive m e) q ∧
      |q - m * 2 ^ e| ≤ m * 2 ^ e / 2 ^ 53 := by
  have htarget := targetExponent_eq (log2_add_mem hpos hmin hmax).1
  -- A shorter mantissa is first brought to 53 bits.
  have hfull : 2 ^ 52 ≤ m <<< (52 - m.log2) := by
    rw [Nat.shiftLeft_eq]
    calc 2 ^ 52 ≤ 2 ^ (m.log2 + (52 - m.log2)) := Nat.pow_le_pow_right two_pos (by omega)
      _ = 2 ^ m.log2 * 2 ^ (52 - m.log2) := pow_add ..
      _ ≤ m * 2 ^ (52 - m.log2) := Nat.mul_le_mul_right _ (Nat.log2_self_le hpos.ne')
  have hshift : (e - (m.log2 + e - 52)).toNat = 52 - m.log2 := by omega
  rw [← shiftLeft_mul_zpow m (52 - m.log2) e] at hmin hmax ⊢
  simp only [UnpackedFloat.round, htarget, decreaseExponent, hshift]
  exact exists_represents_roundWithAccuracy hfull hmin hmax

/-! ### Sums and products -/

/-- A sum is formed at the smaller exponent and rounded. -/
theorem add_finite {m n : Nat} {e f g : Int} (hm : 0 < m) (hn : 0 < n) (hg : g = min e f) :
    UnpackedFloat.add Format.binary64 (.finite .positive m e hm) (.finite .positive n f hn) =
      UnpackedFloat.round Format.binary64 .positive
        (m <<< (e - g).toNat + n <<< (f - g).toNat) g := by
  have hpos : 0 < m <<< (e - g).toNat + n <<< (f - g).toNat := by
    rw [Nat.shiftLeft_eq]
    positivity
  have hsign : compare (((m <<< (e - g).toNat : Nat) : Int) + (n <<< (f - g).toNat : Nat)) 0 =
      .gt := by
    rw [Int.compare_eq_gt]
    exact_mod_cast hpos
  simp only [UnpackedFloat.add, ← hg, decreaseExponent, Sign.apply, UnpackedFloat.normalize, hsign]
  rfl

/-- A sum is off by at most one part in `2 ^ 53`. -/
theorem Represents.exists_add {u v : UnpackedFloat} {p q : ℚ} (hu : Represents u p)
    (hv : Represents v q) (hmax : p + q ≤ 2 ^ (1022 : ℤ)) :
    ∃ r, Represents (UnpackedFloat.add Format.binary64 u v) r ∧
      |r - (p + q)| ≤ (p + q) / 2 ^ 53 := by
  cases hu with
  | zero =>
    have hadd : UnpackedFloat.add Format.binary64 (.zero .positive) v = v := by
      cases hv <;> rfl
    refine ⟨q, by rwa [hadd], ?_⟩
    rw [zero_add, sub_self, abs_zero]
    exact div_nonneg hv.nonneg (by positivity)
  | @finite m e hm hlow hhigh hemin hemax =>
    cases hv with
    | zero =>
      refine ⟨_, .finite hm hlow hhigh hemin hemax, ?_⟩
      rw [add_zero, sub_self, abs_zero]
      positivity
    | @finite n f hn _ _ _ _ =>
      -- Both mantissas are shifted to the lower exponent, where their sum is exact.
      obtain ⟨g, hg⟩ : ∃ g, g = min e f := ⟨_, rfl⟩
      have he : e - (e - g).toNat = g := by omega
      have hf : f - (f - g).toNat = g := by omega
      have hvalue : ((m <<< (e - g).toNat + n <<< (f - g).toNat : Nat) : ℚ) * 2 ^ g =
          m * 2 ^ e + n * 2 ^ f := by
        rw [← shiftLeft_mul_zpow m (e - g).toNat e, ← shiftLeft_mul_zpow n (f - g).toNat f, he, hf]
        push_cast
        ring
      have hpos : 0 < m <<< (e - g).toNat + n <<< (f - g).toNat := by
        rw [Nat.shiftLeft_eq]
        positivity
      have hmin : (2 : ℚ) ^ (-1022 : ℤ) ≤ m * 2 ^ e + n * 2 ^ f :=
        (two_zpow_le_of_full hlow hemin).trans (le_add_of_nonneg_right (by positivity))
      have hround := exists_represents_round hpos (e := g)
      rw [hvalue] at hround
      rw [add_finite hm hn hg]
      exact hround hmin hmax

/-- A product is off by at most one part in `2 ^ 53`. -/
theorem Represents.exists_mul {u v : UnpackedFloat} {p q : ℚ} (hu : Represents u p)
    (hv : Represents v q) (hmin : p * q = 0 ∨ 2 ^ (-1022 : ℤ) ≤ p * q)
    (hmax : p * q ≤ 2 ^ (1022 : ℤ)) :
    ∃ r, Represents (UnpackedFloat.mul Format.binary64 u v) r ∧ |r - p * q| ≤ p * q / 2 ^ 53 := by
  cases hu with
  | zero =>
    have hmul : UnpackedFloat.mul Format.binary64 (.zero .positive) v = .zero .positive := by
      cases hv <;> rfl
    refine ⟨0, by rw [hmul]; exact .zero, ?_⟩
    simp
  | @finite m e hm hlow _ _ _ =>
    cases hv with
    | zero =>
      refine ⟨0, .zero, ?_⟩
      simp
    | @finite n f hn _ _ _ _ =>
      -- The product of the mantissas is exact and has more bits than a double keeps.
      have hvalue : ((m * n : Nat) : ℚ) * 2 ^ (e + f) = m * 2 ^ e * (n * 2 ^ f) := by
        rw [zpow_add₀ two_ne_zero]
        push_cast
        ring
      have hne : (m : ℚ) * 2 ^ e * (n * 2 ^ f) ≠ 0 := by positivity
      have hfull : 2 ^ 52 ≤ m * n := hlow.trans (Nat.le_mul_of_pos_right m hn)
      have hround := exists_represents_roundWithAccuracy hfull (e := e + f)
      rw [hvalue] at hround
      exact hround (hmin.resolve_left hne) hmax

end Notebook
