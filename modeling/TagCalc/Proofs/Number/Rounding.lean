/-
  TagCalc.Proofs.Number.Rounding

  The nearest double as a function of a rational number. The program works on a numerator
  and a denominator, and rounds by logarithms and remainders of natural numbers; all of
  this depends on their ratio only (`nearestBits_ratio`). What is known of the rounding is
  then said of the ratio: a large one is infinite, a small one is zero, and the value of
  a double is rounded to this double (`bitsNearest_magnitudeOfBits`).
-/

import TagCalc.Number.Decimal
import Mathlib.Data.Int.Log
import Mathlib.Data.Rat.Floor
import Mathlib.Algebra.Order.Field.Power
import Mathlib.Algebra.Order.Floor.Semifield
import Mathlib.Tactic.Linarith
import Mathlib.Tactic.Positivity
import Mathlib.Tactic.Ring

namespace TagCalc.Number

/-! ## Rounding of a rational number -/

/-- The natural number nearest to a ratio, of two equally near the even one. -/
def halfEven (v : ℚ) : ℕ :=
  if 2 * (v - ⌊v⌋₊) < 1 then ⌊v⌋₊
  else if 1 < 2 * (v - ⌊v⌋₊) then ⌊v⌋₊ + 1
  else ⌊v⌋₊ + ⌊v⌋₊ % 2

/-- The exponent of the last binary place of a double near `v`. -/
def lastPlaceOf (v : ℚ) : ℤ := max (Int.log 2 v - 52) (-1074)

/-- The bits of the double nearest to `v`. -/
def bitsNearest (v : ℚ) : ℕ :=
  if v = 0 then 0
  else
    min infinityBits
      ((lastPlaceOf v + 1074).toNat * leadingBit + halfEven (v / 2 ^ lastPlaceOf v))

theorem roundHalfEven_eq (num : ℕ) {den : ℕ} (hden : 0 < den) :
    roundHalfEven num den = halfEven (num / den) := by
  have hpos : (0 : ℚ) < den := Nat.cast_pos.2 hden
  have hfloor : ⌊(num : ℚ) / den⌋₊ = num / den := Nat.floor_div_eq_div num den
  have hrest : 2 * ((num : ℚ) / den - (num / den : ℕ)) = ((2 * (num % den) : ℕ) : ℚ) / den := by
    have hsplit : (num : ℚ) = den * (num / den : ℕ) + (num % den : ℕ) := by
      exact_mod_cast (Nat.div_add_mod num den).symm
    rw [eq_div_iff hpos.ne', mul_assoc, sub_mul, div_mul_cancel₀ _ hpos.ne']
    push_cast
    linarith
  have hless : 2 * ((num : ℚ) / den - (num / den : ℕ)) < 1 ↔ 2 * (num % den) < den := by
    rw [hrest, div_lt_one hpos, Nat.cast_lt]
  have hmore : 1 < 2 * ((num : ℚ) / den - (num / den : ℕ)) ↔ den < 2 * (num % den) := by
    rw [hrest, one_lt_div hpos, Nat.cast_lt]
  rw [halfEven, hfloor, roundHalfEven]
  simp only [hless, hmore]

theorem halfEven_natCast (n : ℕ) : halfEven n = n := by
  rw [halfEven, Nat.floor_natCast, sub_self, mul_zero, if_pos one_pos]

theorem halfEven_of_lt_half {v : ℚ} (h : v < 1 / 2) : halfEven v = 0 := by
  have hfloor : ⌊v⌋₊ = 0 := Nat.floor_eq_zero.2 (by linarith)
  rw [halfEven, hfloor, Nat.cast_zero, sub_zero, if_pos (by linarith)]

theorem floor_le_halfEven (v : ℚ) : ⌊v⌋₊ ≤ halfEven v := by
  rw [halfEven]
  split_ifs <;> omega

/-! ## Powers of two -/

theorem leadingBit_mul_zpow (q : ℤ) : (leadingBit : ℚ) * 2 ^ q = 2 ^ (q + 52) := by
  rw [add_comm, zpow_add₀ two_ne_zero]
  norm_num [leadingBit]

theorem twice_leadingBit_mul_zpow (q : ℤ) :
    ((2 * leadingBit : ℕ) : ℚ) * 2 ^ q = 2 ^ (q + 53) := by
  have hstep : q + 53 = 1 + (q + 52) := by ring
  rw [hstep, zpow_one_add₀ two_ne_zero, ← leadingBit_mul_zpow, Nat.cast_mul, Nat.cast_ofNat,
    mul_assoc]

/-- A logarithm is known by the two powers around its argument. -/
theorem log_two_eq {v : ℚ} {k : ℤ} (hlow : 2 ^ k ≤ v) (hhigh : v < 2 ^ (k + 1)) :
    Int.log 2 v = k := by
  have hpos : 0 < v := lt_of_lt_of_le (zpow_pos two_pos k) hlow
  have h1 : k ≤ Int.log 2 v := (Int.zpow_le_iff_le_log one_lt_two hpos).1 (by exact_mod_cast hlow)
  have h2 : Int.log 2 v < k + 1 :=
    (Int.lt_zpow_iff_log_lt one_lt_two hpos).1 (by exact_mod_cast hhigh)
  omega

/-! ## Units -/

/-- Measuring a ratio in units divides it by the unit. -/
theorem inUnits_ratio {base : ℕ} (hbase : 0 < base) (e : ℤ) (num : ℕ) {den : ℕ}
    (hden : 0 < den) :
    0 < (inUnits base e num den).2
    ∧ ((inUnits base e num den).1 : ℚ) / (inUnits base e num den).2
        = num / den / (base : ℚ) ^ e := by
  have hpos : (0 : ℚ) < base := Nat.cast_pos.2 hbase
  unfold inUnits
  by_cases he : 0 ≤ e
  · obtain ⟨n, rfl⟩ := Int.eq_ofNat_of_zero_le he
    rw [if_pos he]
    refine ⟨Nat.mul_pos hden (Nat.pow_pos hbase), ?_⟩
    rw [Int.toNat_natCast, Nat.pow_eq, Nat.cast_mul, Nat.cast_pow, zpow_natCast, div_div]
  · obtain ⟨n, rfl⟩ := Int.exists_eq_neg_ofNat (Int.le_of_not_le he)
    rw [if_neg he]
    refine ⟨hden, ?_⟩
    rw [neg_neg, Int.toNat_natCast, Nat.pow_eq, Nat.cast_mul, Nat.cast_pow, zpow_neg,
      zpow_natCast, div_inv_eq_mul, div_mul_eq_mul_div]

/-- The difference of two logarithms is that of the ratio, or one more. -/
theorem ratio_bounds {num den : ℕ} (hnum : 0 < num) (hden : 0 < den) :
    (2 : ℚ) ^ ((num.log2 : ℤ) - den.log2 - 1) ≤ num / den
    ∧ (num : ℚ) / den < 2 ^ ((num.log2 : ℤ) - den.log2 + 1) := by
  have hpos : (0 : ℚ) < den := Nat.cast_pos.2 hden
  have hnumLow : (2 : ℚ) ^ (num.log2 : ℤ) ≤ num := by
    exact_mod_cast Nat.log2_self_le hnum.ne'
  have hnumHigh : (num : ℚ) < 2 ^ ((num.log2 : ℤ) + 1) := by
    exact_mod_cast Nat.lt_log2_self (n := num)
  have hdenLow : (2 : ℚ) ^ (den.log2 : ℤ) ≤ den := by
    exact_mod_cast Nat.log2_self_le hden.ne'
  have hdenHigh : (den : ℚ) < 2 ^ ((den.log2 : ℤ) + 1) := by
    exact_mod_cast Nat.lt_log2_self (n := den)
  constructor
  · rw [le_div_iff₀ hpos]
    calc (2 : ℚ) ^ ((num.log2 : ℤ) - den.log2 - 1) * den
        ≤ 2 ^ ((num.log2 : ℤ) - den.log2 - 1) * 2 ^ ((den.log2 : ℤ) + 1) := by gcongr
      _ = 2 ^ (num.log2 : ℤ) := by
          rw [← zpow_add₀ two_ne_zero]
          congr 1
          ring
      _ ≤ num := hnumLow
  · rw [div_lt_iff₀ hpos]
    calc (num : ℚ) < 2 ^ ((num.log2 : ℤ) + 1) := hnumHigh
      _ = 2 ^ ((num.log2 : ℤ) - den.log2 + 1) * 2 ^ (den.log2 : ℤ) := by
          rw [← zpow_add₀ two_ne_zero]
          congr 1
          ring
      _ ≤ 2 ^ ((num.log2 : ℤ) - den.log2 + 1) * den := by gcongr

theorem lastPlace_eq {num den : ℕ} (hnum : 0 < num) (hden : 0 < den) :
    lastPlace num den = lastPlaceOf (num / den) := by
  obtain ⟨hlow, hhigh⟩ := ratio_bounds hnum hden
  rw [lastPlace, lastPlaceOf]
  generalize hq : (num.log2 : ℤ) - den.log2 - 53 = q
  obtain ⟨hunit, hratio⟩ := inUnits_ratio two_pos q num hden
  -- the quotient in units tells on which side of `2 ^ (q + 53)` the ratio is
  have hside : 2 * leadingBit ≤ (inUnits 2 q num den).1 / (inUnits 2 q num den).2
      ↔ (2 : ℚ) ^ (q + 53) ≤ num / den := by
    rw [← Nat.floor_div_eq_div (K := ℚ), hratio, Nat.le_floor_iff (by positivity),
      le_div_iff₀ (by positivity), Nat.cast_ofNat, twice_leadingBit_mul_zpow]
  have hlog : Int.log 2 ((num : ℚ) / den) - 52
      = if 2 * leadingBit ≤ (inUnits 2 q num den).1 / (inUnits 2 q num den).2 then q + 1
        else q := by
    by_cases h : (2 : ℚ) ^ (q + 53) ≤ num / den
    · rw [if_pos (hside.2 h)]
      have hend : (2 : ℚ) ^ ((num.log2 : ℤ) - den.log2 + 1) = 2 ^ (q + 53 + 1) := by
        congr 1
        omega
      rw [log_two_eq h (hend ▸ hhigh)]
      ring
    · rw [if_neg (mt hside.1 h)]
      have hstart : (2 : ℚ) ^ ((num.log2 : ℤ) - den.log2 - 1) = 2 ^ (q + 52) := by
        congr 1
        omega
      have hend : (2 : ℚ) ^ (q + 53) = 2 ^ (q + 52 + 1) := by
        congr 1
        ring
      rw [log_two_eq (hstart ▸ hlow) (hend ▸ not_le.1 h)]
      ring
  rw [hlog]

/-- The bits of the nearest double depend on the ratio only. -/
theorem nearestBits_ratio (num : ℕ) {den : ℕ} (hden : 0 < den) :
    nearestBits num den = bitsNearest (num / den) := by
  have hpos : (0 : ℚ) < den := Nat.cast_pos.2 hden
  by_cases hnum : num = 0
  · rw [nearestBits, bitsNearest, if_pos hnum, if_pos (by rw [hnum, Nat.cast_zero, zero_div])]
  · have hvalue : (num : ℚ) / den ≠ 0 := div_ne_zero (Nat.cast_ne_zero.2 hnum) hpos.ne'
    rw [nearestBits, bitsNearest, if_neg hnum, if_neg hvalue]
    rw [lastPlace_eq (Nat.pos_of_ne_zero hnum) hden]
    generalize lastPlaceOf ((num : ℚ) / den) = q
    obtain ⟨hunit, hratio⟩ := inUnits_ratio two_pos q num hden
    dsimp only
    rw [roundHalfEven_eq _ hunit, hratio]
    rfl

/-! ## Large and small ratios -/

theorem bitsNearest_of_large {v : ℚ} (h : (2 : ℚ) ^ (1024 : ℤ) ≤ v) :
    bitsNearest v = infinityBits := by
  have hpos : 0 < v := lt_of_lt_of_le (zpow_pos two_pos _) h
  have hlog : 1024 ≤ Int.log 2 v :=
    (Int.zpow_le_iff_le_log one_lt_two hpos).1 (by rwa [Nat.cast_ofNat])
  have hplace : lastPlaceOf v = Int.log 2 v - 52 := by
    rw [lastPlaceOf]
    omega
  -- the leading bit alone takes the exponent field to its end
  have hlead : leadingBit ≤ halfEven (v / 2 ^ lastPlaceOf v) := by
    refine le_trans ?_ (floor_le_halfEven _)
    rw [Nat.le_floor_iff (by positivity), le_div_iff₀ (by positivity), hplace,
      leadingBit_mul_zpow, sub_add_cancel]
    exact_mod_cast Int.zpow_log_le_self one_lt_two hpos
  rw [bitsNearest, if_neg hpos.ne', min_eq_left]
  have hfield : 2046 * leadingBit ≤ (lastPlaceOf v + 1074).toNat * leadingBit :=
    Nat.mul_le_mul_right _ (by omega)
  rw [infinityBits]
  rw [leadingBit] at hfield hlead ⊢
  omega

theorem bitsNearest_of_small {v : ℚ} (hv : 0 ≤ v) (h : v < (2 : ℚ) ^ (-1075 : ℤ)) :
    bitsNearest v = 0 := by
  by_cases hzero : v = 0
  · rw [bitsNearest, if_pos hzero]
  · have hpos : 0 < v := lt_of_le_of_ne hv (Ne.symm hzero)
    have hlog : Int.log 2 v < -1075 :=
      (Int.lt_zpow_iff_log_lt one_lt_two hpos).1 (by rwa [Nat.cast_ofNat])
    have hplace : lastPlaceOf v = -1074 := by
      rw [lastPlaceOf]
      omega
    have hhalf : v / 2 ^ (-1074 : ℤ) < 1 / 2 := by
      rw [div_lt_iff₀ (by positivity)]
      have hstep : (-1075 : ℤ) = -1 + -1074 := by norm_num
      rwa [hstep, zpow_add₀ two_ne_zero, zpow_neg_one, ← one_div] at h
    rw [bitsNearest, if_neg hzero, hplace, halfEven_of_lt_half hhalf]
    rfl

/-! ## The values of doubles -/

/-- The value of a finite magnitude. -/
def magnitudeOfBits (bits : ℕ) : ℚ :=
  (significandAndExponent bits).1 * 2 ^ (significandAndExponent bits).2

section Scaled

-- a significand of at most 53 bits, with its leading bit unless the exponent is the least
variable {m : ℕ} {q : ℤ} (hfits : m < 2 * leadingBit) (hleast : -1074 ≤ q)
  (hlead : q = -1074 ∨ leadingBit ≤ m)
include hfits hleast hlead

theorem lastPlaceOf_scaled (hpos : 0 < m) : lastPlaceOf ((m : ℚ) * 2 ^ q) = q := by
  have hvalue : (0 : ℚ) < m * 2 ^ q := mul_pos (Nat.cast_pos.2 hpos) (zpow_pos two_pos _)
  have hhigh : Int.log 2 ((m : ℚ) * 2 ^ q) < q + 53 := by
    rw [← Int.lt_zpow_iff_log_lt one_lt_two hvalue]
    rw [Nat.cast_ofNat, ← twice_leadingBit_mul_zpow]
    gcongr
  have hlow : leadingBit ≤ m → q + 52 ≤ Int.log 2 ((m : ℚ) * 2 ^ q) := by
    intro hm
    rw [← Int.zpow_le_iff_le_log one_lt_two hvalue]
    rw [Nat.cast_ofNat, ← leadingBit_mul_zpow]
    gcongr
  rw [lastPlaceOf]
  rcases hlead with hq | hm
  · omega
  · have hlow := hlow hm
    omega

theorem bitsNearest_scaled :
    bitsNearest ((m : ℚ) * 2 ^ q) = min infinityBits ((q + 1074).toNat * leadingBit + m) := by
  by_cases hm : m = 0
  · have hq : q = -1074 := by
      rw [leadingBit] at hlead
      omega
    rw [bitsNearest, hm, hq, if_pos (by norm_num)]
    rfl
  · have hpos := Nat.pos_of_ne_zero hm
    have hpower : (2 : ℚ) ^ q ≠ 0 := zpow_ne_zero q two_ne_zero
    have hvalue : (m : ℚ) * 2 ^ q ≠ 0 := mul_ne_zero (Nat.cast_ne_zero.2 hm) hpower
    rw [bitsNearest, if_neg hvalue, lastPlaceOf_scaled hfits hleast hlead hpos,
      mul_div_cancel_right₀ _ hpower, halfEven_natCast]

end Scaled

/-- The value of a double is rounded to the double. -/
theorem bitsNearest_magnitudeOfBits {bits : ℕ} (h : bits < infinityBits) :
    bitsNearest (magnitudeOfBits bits) = bits := by
  have hfits : bits % leadingBit < leadingBit := Nat.mod_lt _ (by decide)
  have hbits : bits / leadingBit * leadingBit + bits % leadingBit = bits :=
    Nat.div_add_mod' bits leadingBit
  rw [magnitudeOfBits, significandAndExponent]
  generalize bits / leadingBit = field at hbits ⊢
  generalize bits % leadingBit = fraction at hbits hfits ⊢
  by_cases hfield : field = 0
  · rw [if_pos hfield, bitsNearest_scaled (by omega) le_rfl (Or.inl rfl)]
    rw [hfield] at hbits
    show min infinityBits (0 * leadingBit + fraction) = bits
    rw [hbits, min_eq_right h.le]
  · rw [if_neg hfield, bitsNearest_scaled (by omega) (by omega) (Or.inr (by omega))]
    -- the leading bit of the significand carries one into the exponent field
    have hexponent : ((field : ℤ) - 1075 + 1074).toNat = field - 1 := by omega
    have hcarry : (field - 1) * leadingBit + (leadingBit + fraction) = bits := by
      rw [← add_assoc, ← Nat.succ_mul, Nat.succ_eq_add_one, Nat.sub_add_cancel (by omega)]
      exact hbits
    rw [hexponent, hcarry, min_eq_right h.le]

end TagCalc.Number
