/-
  TagCalc.Proofs.Number.Bits

  Doubles as sign and magnitude. The library gives a double back from its bits; here its
  bits are taken apart into the sign and the magnitude (`ofSignAndBits_self`), and that of
  a finite double is below infinity (`magnitudeBits_lt`), for its exponent field is not
  the last one.
-/

import Mathlib
import TagCalc.Proofs.Number.NotANumber

namespace TagCalc.Number

open Float.Model (UnpackedFloat Format)
open Float.Model.UnpackedFloat (unpack unpackExponent)

/-! ## Kinds of doubles -/

/-- A double is finite, infinite, or not a number. -/
theorem isFinite_eq_false_iff {x : Float} :
    x.isFinite = false ↔ x.isNaN = true ∨ x.isInf = true := by
  show x.toModel.unpack.isFinite = false
    ↔ x.toModel.unpack.isNaN = true ∨ x.toModel.unpack.isInf = true
  cases x.toModel.unpack with
  | notANumber => exact ⟨fun _ => Or.inl rfl, fun _ => rfl⟩
  | infinity sign => exact ⟨fun _ => Or.inr rfl, fun _ => rfl⟩
  | zero sign => exact ⟨nofun, nofun⟩
  | finite sign mantissa exponent positive => exact ⟨nofun, nofun⟩

/-- Only the two zeros compare equal to zero. -/
theorem eq_zero_of_beq {x : Float} (h : (x == 0) = true) : x = 0 ∨ x = -0 := by
  obtain ⟨-, -, hzero | ⟨hzero, -⟩ | ⟨hzero, -⟩⟩ := Float.beq_iff_ne_nan_and_eq.1 h
  · exact Or.inl hzero
  · exact Or.inl hzero
  · exact Or.inr hzero

/-! ## Sign and magnitude -/

/-- A double is given back by its sign and its magnitude. -/
theorem ofSignAndBits_self (x : Float) : ofSignAndBits (isNegative x) (magnitudeBits x) = x := by
  have hlt : x.toBits.toNat < 2 ^ 64 := x.toBits.toNat_lt
  have hword : (if isNegative x then signBit + magnitudeBits x else magnitudeBits x)
      = x.toBits.toNat := by
    rw [isNegative, magnitudeBits]
    simp only [decide_eq_true_eq]
    rw [signBit]
    split <;> omega
  rw [ofSignAndBits, hword, UInt64.ofNat_toNat, Float.ofBits_toBits]

theorem toNat_unpackExponent (b : BitVec Format.binary64.numBits) :
    (unpackExponent b).toNat = b.toNat / leadingBit % 2048 := by
  rw [unpackExponent]
  simp [Nat.shiftRight_eq_div_pow, leadingBit]

/-- The exponent field of a finite double is not the last one. -/
theorem exponent_ne_of_isFinite {b : BitVec Format.binary64.numBits}
    (h : (unpack .binary64 b).isFinite = true) : b.toNat / leadingBit % 2048 ≠ 2047 := by
  rw [← toNat_unpackExponent]
  intro hfull
  have hexponent : unpackExponent b = -1#_ := BitVec.eq_of_toNat_eq hfull
  rw [unpack] at h
  rw [if_pos hexponent] at h
  split at h <;> cases h

/-- The magnitude of a finite double is below infinity. -/
theorem magnitudeBits_lt {x : Float} (h : x.isFinite = true) : magnitudeBits x < infinityBits := by
  have hfield : x.toBits.toNat / leadingBit % 2048 ≠ 2047 := exponent_ne_of_isFinite h
  rw [leadingBit] at hfield
  rw [magnitudeBits, signBit, infinityBits]
  omega

end TagCalc.Number
