/-
  TagCalc.Proofs.Number.Shortest

  Decimals by their values. The double nearest to a decimal depends on its value alone
  (`Decimal.nearestBits_eq`): where the exponent is so far from zero that the digits do
  not matter, rounding the value gives infinity or zero as well. The shortest decimal of
  a finite magnitude reads back as this magnitude (`nearestBits_shortestMagnitude`), be
  it found on one of the grids or given with all its digits, and so that of a finite
  double reads back as this double.
-/

import TagCalc.Number.Shortest
import TagCalc.Proofs.Number.Bits
import TagCalc.Proofs.Number.Rounding

namespace TagCalc.Number

/-- The value of a decimal without its sign. -/
def Decimal.magnitude (d : Decimal) : ℚ := d.digits * 10 ^ d.exponent

/-! ## The bounds on the exponent -/

theorem two_pow_le_ten_pow (n : ℕ) : (2 : ℚ) ^ (3 * n) ≤ 10 ^ n := by
  rw [pow_mul]
  exact pow_le_pow_left₀ (by norm_num) (by norm_num) n

/-- With an exponent of more than 400 any digits give a number beyond all doubles. -/
theorem Decimal.le_magnitude_of_exponent {d : Decimal} (filled : d.digits ≠ 0)
    (h : 400 < d.exponent) : (2 : ℚ) ^ (1024 : ℤ) ≤ d.magnitude := by
  have hdigits : (1 : ℚ) ≤ d.digits := by exact_mod_cast Nat.pos_of_ne_zero filled
  calc (2 : ℚ) ^ (1024 : ℤ) ≤ 2 ^ ((3 * 401 : ℕ) : ℤ) :=
        zpow_le_zpow_right₀ one_le_two (by norm_num)
    _ ≤ 10 ^ ((401 : ℕ) : ℤ) := by
        rw [zpow_natCast, zpow_natCast]
        exact two_pow_le_ten_pow 401
    _ ≤ 10 ^ d.exponent := zpow_le_zpow_right₀ (by norm_num) (by omega)
    _ ≤ d.magnitude := le_mul_of_one_le_left (by positivity) hdigits

/-- An exponent that outweighs 400 places and the digits gives a number that is nearer to
    zero than to any other double. -/
theorem Decimal.magnitude_lt_of_exponent {d : Decimal}
    (h : d.exponent < -(400 + d.digits.log2 : ℤ)) : d.magnitude < (2 : ℚ) ^ (-1075 : ℤ) := by
  have hdigits : (d.digits : ℚ) < 10 ^ ((d.digits.log2 + 1 : ℕ) : ℤ) := by
    calc (d.digits : ℚ) < 2 ^ (d.digits.log2 + 1) := by exact_mod_cast Nat.lt_log2_self
      _ ≤ 10 ^ (d.digits.log2 + 1) := pow_le_pow_left₀ (by norm_num) (by norm_num) _
      _ = 10 ^ ((d.digits.log2 + 1 : ℕ) : ℤ) := (zpow_natCast _ _).symm
  calc d.magnitude < 10 ^ ((d.digits.log2 + 1 : ℕ) : ℤ) * 10 ^ d.exponent :=
        mul_lt_mul_of_pos_right hdigits (by positivity)
    _ = 10 ^ (((d.digits.log2 + 1 : ℕ) : ℤ) + d.exponent) := by rw [zpow_add₀ (by norm_num)]
    _ ≤ 10 ^ (-((400 : ℕ) : ℤ)) := zpow_le_zpow_right₀ (by norm_num) (by omega)
    _ = (10 ^ 400)⁻¹ := by rw [zpow_neg, zpow_natCast]
    _ ≤ (2 ^ (3 * 400))⁻¹ := inv_anti₀ (by positivity) (two_pow_le_ten_pow 400)
    _ = 2 ^ (-((3 * 400 : ℕ) : ℤ)) := by rw [zpow_neg, zpow_natCast]
    _ ≤ 2 ^ (-1075 : ℤ) := zpow_le_zpow_right₀ one_le_two (by norm_num)

/-- The double nearest to a decimal is the one nearest to its value. -/
theorem Decimal.nearestBits_eq (d : Decimal) : d.nearestBits = bitsNearest d.magnitude := by
  rw [Decimal.nearestBits]
  by_cases hzero : d.digits = 0
  · rw [if_pos hzero, magnitude, hzero, Nat.cast_zero, zero_mul, bitsNearest, if_pos rfl]
  · rw [if_neg hzero]
    by_cases hlarge : 400 < d.exponent
    · rw [if_pos hlarge, bitsNearest_of_large (le_magnitude_of_exponent hzero hlarge)]
    · rw [if_neg hlarge]
      by_cases hsmall : d.exponent < -(400 + d.digits.log2 : ℤ)
      · have hpos : 0 ≤ d.magnitude := by
          rw [magnitude]
          positivity
        rw [if_pos hsmall, bitsNearest_of_small hpos (magnitude_lt_of_exponent hsmall)]
      · -- within the bounds the ratio that is rounded is the value
        rw [if_neg hsmall, magnitude]
        by_cases he : 0 ≤ d.exponent
        · obtain ⟨n, hn⟩ := Int.eq_ofNat_of_zero_le he
          rw [if_pos he, nearestBits_ratio _ one_pos, hn, Int.toNat_natCast, Nat.pow_eq,
            zpow_natCast]
          push_cast
          rw [div_one]
        · obtain ⟨n, hn⟩ := Int.exists_eq_neg_ofNat (Int.le_of_not_le he)
          rw [if_neg he, hn, neg_neg, Int.toNat_natCast, Nat.pow_eq,
            nearestBits_ratio _ (Nat.pow_pos (by norm_num)), zpow_neg, zpow_natCast]
          push_cast
          rw [div_eq_mul_inv]

/-! ## The shortest decimal -/

/-- All digits of a double have its value. -/
theorem magnitude_exactDecimal (bits : ℕ) :
    (exactDecimal bits).magnitude = magnitudeOfBits bits := by
  rw [exactDecimal, magnitudeOfBits]
  obtain ⟨m, q⟩ := significandAndExponent bits
  dsimp only
  by_cases hq : 0 ≤ q
  · obtain ⟨n, rfl⟩ := Int.eq_ofNat_of_zero_le hq
    rw [if_pos hq, Decimal.magnitude, Int.toNat_natCast, Nat.pow_eq, zpow_zero, mul_one,
      zpow_natCast]
    push_cast
    rfl
  · obtain ⟨n, rfl⟩ := Int.exists_eq_neg_ofNat (Int.le_of_not_le hq)
    have htwo : (5 : ℚ) ^ n * 10 ^ (-(n : ℤ)) = 2 ^ (-(n : ℤ)) := by
      have hten : (10 : ℚ) = 5 * 2 := by norm_num
      rw [hten, mul_zpow, ← zpow_natCast, ← mul_assoc, ← zpow_add₀ (by norm_num),
        add_neg_cancel, zpow_zero, one_mul]
    rw [if_neg hq, Decimal.magnitude, neg_neg, Int.toNat_natCast, Nat.pow_eq]
    push_cast
    rw [mul_assoc, htwo]

/-- The shortest decimal of a finite magnitude reads back. -/
theorem nearestBits_shortestMagnitude {bits : ℕ} (h : bits < infinityBits) :
    (shortestMagnitude bits).nearestBits = bits := by
  rw [shortestMagnitude]
  dsimp only
  generalize hgrids : List.findSome? _ _ = found
  cases found with
  | some d =>
    -- a decimal of a grid is only taken after it was read back
    obtain ⟨n, -, hn⟩ := List.exists_of_findSome?_eq_some hgrids
    exact nearestBits_nearest hn
  | none =>
    show (exactDecimal bits).nearestBits = bits
    rw [Decimal.nearestBits_eq, magnitude_exactDecimal, bitsNearest_magnitudeOfBits h]

/-- The shortest decimal of a finite double reads back. -/
theorem toFloat_shortest {x : Float} (h : x.isFinite = true) : (shortest x).toFloat = x := by
  have hbits : (shortest x).nearestBits = magnitudeBits x :=
    nearestBits_shortestMagnitude (magnitudeBits_lt h)
  rw [Decimal.toFloat, hbits]
  exact ofSignAndBits_self x

end TagCalc.Number
