/-
  TagCalc.Proofs.Number.Positional

  Positional notation against the reader. The text of a decimal is digits, or digits on
  both sides of a point (`Decimal.positional_text`); to the digits of the decimal it only
  adds zeros in front, and only zeros at the end are added or left out. So what the reader
  makes of the text may have other digits and another exponent than the decimal, but it
  has the same value, and the same double is nearest to it (`read?_positional`).
-/

import TagCalc.Proofs.Number.Grammar
import TagCalc.Proofs.Number.Shortest

namespace TagCalc.Number

/-- Digits, or digits on both sides of a point, and the value that they stand for. -/
inductive Positional : List Char → ℚ → Prop
  | whole {ds : List Char} (filled : isDigits ds = true) : Positional ds (digitsValue ds)
  | point {whole fraction : List Char} (before : isDigits whole = true)
      (after : isDigits fraction = true) :
      Positional (whole ++ '.' :: fraction)
        (digitsValue (whole ++ fraction) * 10 ^ (-(fraction.length : ℤ)))

/-! ## Zeros around digits -/

theorem digitsValue_toDigits (n : ℕ) : digitsValue (Nat.toDigits 10 n) = n :=
  Nat.ofDigitChars_ten_toDigits

theorem digitsValue_append_zeros (ds : List Char) (n : ℕ) :
    digitsValue (ds ++ List.replicate n '0') = digitsValue ds * 10 ^ n := by
  rw [mul_comm]
  exact (Nat.ofDigitChars_append 0).trans Nat.ofDigitChars_replicate_zero

theorem digitsValue_zeros_append (n : ℕ) (ds : List Char) :
    digitsValue (List.replicate n '0' ++ ds) = digitsValue ds := by
  have hzeros : Nat.ofDigitChars 10 (List.replicate n '0') 0 = 0 :=
    Nat.ofDigitChars_replicate_zero
  show Nat.ofDigitChars 10 (List.replicate n '0' ++ ds) 0 = _
  rw [Nat.ofDigitChars_append, hzeros]
  rfl

/-- Zeros at the end of the places after the point do not count. -/
theorem digitsValue_zeros_places (ds : List Char) (places n : ℕ) :
    (digitsValue (ds ++ List.replicate n '0') : ℚ) * 10 ^ (-((places + n : ℕ) : ℤ))
      = digitsValue ds * 10 ^ (-(places : ℤ)) := by
  have hpower : (10 : ℚ) ^ n * 10 ^ (-((places + n : ℕ) : ℤ)) = 10 ^ (-(places : ℤ)) := by
    rw [← zpow_natCast, ← zpow_add₀ (by norm_num)]
    congr 1
    omega
  rw [digitsValue_append_zeros, Nat.cast_mul, Nat.cast_pow, Nat.cast_ofNat, mul_assoc, hpower]

theorem isDigits_toDigits (n : ℕ) : isDigits (Nat.toDigits 10 n) = true :=
  isDigits_iff.2 ⟨Nat.toDigits_ne_nil,
    fun _ hc => Nat.isDigit_of_mem_toDigits (by norm_num) (by norm_num) hc⟩

theorem isDigit_of_mem_zeros {n : ℕ} {c : Char} (h : c ∈ List.replicate n '0') :
    c.isDigit = true := by
  rw [List.eq_of_mem_replicate h]
  rfl

/-- What is dropped at the end of a fraction are zeros. -/
theorem exists_dropTrailingZeros_append (cs : List Char) :
    ∃ n, cs = Decimal.dropTrailingZeros cs ++ List.replicate n '0' := by
  have hzeros : cs.rtakeWhile (· == '0')
      = List.replicate (cs.rtakeWhile (· == '0')).length '0' :=
    List.eq_replicate_of_mem fun c hc =>
      beq_iff_eq.1 (List.mem_rtakeWhile_imp (p := (· == '0')) hc)
  refine ⟨(cs.rtakeWhile (· == '0')).length, ?_⟩
  rw [← hzeros]
  exact List.rdropWhile_append_rtakeWhile.symm

/-! ## The text of a decimal -/

/-- Digits before and after a point stay positional without the zeros at their end, and
    without the point if nothing is left behind it. -/
theorem positional_dropTrailingZeros {whole places : List Char} (before : isDigits whole = true)
    (after : ∀ c ∈ places, c.isDigit = true) :
    Positional
      (match Decimal.dropTrailingZeros places with
        | [] => whole
        | fraction => whole ++ '.' :: fraction)
      (digitsValue (whole ++ places) * 10 ^ (-(places.length : ℤ))) := by
  obtain ⟨n, hplaces⟩ := exists_dropTrailingZeros_append places
  generalize Decimal.dropTrailingZeros places = fraction at hplaces ⊢
  rw [hplaces, ← List.append_assoc, List.length_append, List.length_replicate,
    digitsValue_zeros_places]
  cases fraction with
  | nil =>
    rw [List.append_nil, List.length_nil, Nat.cast_zero, neg_zero, zpow_zero, mul_one]
    exact .whole before
  | cons d rest =>
    have hdigits : ∀ c ∈ d :: rest, c.isDigit = true := by
      intro c hc
      apply after
      rw [hplaces]
      exact List.mem_append_left _ hc
    exact .point before (isDigits_iff.2 ⟨List.cons_ne_nil _ _, hdigits⟩)

/-- Digits with a point before the last places. -/
theorem positional_cut {ds : List Char} {places : ℕ} (digits : ∀ c ∈ ds, c.isDigit = true)
    (long : places < ds.length) :
    Positional
      (match Decimal.dropTrailingZeros (ds.drop (ds.length - places)) with
        | [] => ds.take (ds.length - places)
        | fraction => ds.take (ds.length - places) ++ '.' :: fraction)
      (digitsValue ds * 10 ^ (-(places : ℤ))) := by
  have before : isDigits (ds.take (ds.length - places)) = true := by
    refine isDigits_iff.2 ⟨?_, fun c hc => digits c (List.mem_of_mem_take hc)⟩
    rw [← List.length_pos_iff, List.length_take]
    omega
  have after : ∀ c ∈ ds.drop (ds.length - places), c.isDigit = true :=
    fun c hc => digits c (List.mem_of_mem_drop hc)
  have hplaces : (ds.drop (ds.length - places)).length = places := by
    rw [List.length_drop]
    omega
  have htext := positional_dropTrailingZeros before after
  rwa [List.take_append_drop, hplaces] at htext

/-- A decimal is written in positional notation, and the text has its value. -/
theorem Decimal.positional_text (d : Decimal) : Positional d.positionalMagnitude d.magnitude := by
  obtain ⟨hfilled, hdigits⟩ := isDigits_iff.1 (isDigits_toDigits d.digits)
  rw [positionalMagnitude, magnitude]
  by_cases he : 0 ≤ d.exponent
  · obtain ⟨n, hn⟩ := Int.eq_ofNat_of_zero_le he
    rw [if_pos he, hn, Int.toNat_natCast, zpow_natCast]
    by_cases hzero : d.digits = 0
    · rw [if_pos hzero, hzero, Nat.cast_zero, zero_mul]
      exact .whole rfl
    · have hvalue : (d.digits : ℚ) * 10 ^ n
          = digitsValue (Nat.toDigits 10 d.digits ++ List.replicate n '0') := by
        rw [digitsValue_append_zeros, digitsValue_toDigits]
        push_cast
        rfl
      rw [if_neg hzero, hvalue]
      refine .whole (isDigits_iff.2 ⟨by simp [hfilled], ?_⟩)
      intro c hc
      exact (List.mem_append.1 hc).elim (hdigits c) isDigit_of_mem_zeros
  · obtain ⟨places, hplaces⟩ := Int.exists_eq_neg_ofNat (Int.le_of_not_le he)
    -- the zeros in front leave at least one digit before the point
    have hall : ∀ c ∈ List.replicate (places + 1 - (Nat.toDigits 10 d.digits).length) '0'
        ++ Nat.toDigits 10 d.digits, c.isDigit = true :=
      fun c hc => (List.mem_append.1 hc).elim isDigit_of_mem_zeros (hdigits c)
    have hlong : places < (List.replicate (places + 1 - (Nat.toDigits 10 d.digits).length) '0'
        ++ Nat.toDigits 10 d.digits).length := by
      rw [List.length_append, List.length_replicate]
      omega
    have htext := positional_cut hall hlong
    rw [digitsValue_zeros_append, digitsValue_toDigits] at htext
    rw [if_neg he, hplaces, neg_neg, Int.toNat_natCast]
    exact htext

/-! ## Reading positional notation -/

namespace Positional

variable {cs : List Char} {v : ℚ}

theorem numeral (h : Positional cs v) : Numeral cs := by
  cases h with
  | whole filled => exact (Mantissa.digits filled).numeral
  | point before after => exact (Mantissa.pointBefore (isDigits_iff.1 before).2 after).numeral

/-- The reader makes a decimal of the text that has its value. -/
theorem readUnsigned_eq (h : Positional cs v) (negative : Bool) :
    ∃ d, readUnsigned negative cs = some d ∧ d.negative = negative ∧ d.magnitude = v := by
  cases h with
  | whole filled =>
    refine ⟨_, readUnsigned_digits filled negative, rfl, ?_⟩
    rw [Decimal.magnitude, zpow_zero, mul_one]
  | point before after =>
    exact ⟨_, readUnsigned_point (isDigits_iff.1 before).2 after negative, rfl, rfl⟩

/-- After a minus sign, or no sign, the text is read as the double nearest to its value. -/
theorem read?_eq (h : Positional cs v) (negative : Bool) :
    read? (if negative then '-' :: cs else cs) = some (ofSignAndBits negative (bitsNearest v)) := by
  obtain ⟨d, hread, hsign, hvalue⟩ := h.readUnsigned_eq negative
  have hsplit : splitSign (if negative then '-' :: cs else cs) = (negative, cs) := by
    cases negative with
    | true => rfl
    | false =>
      obtain ⟨hminus, hplus⟩ := h.numeral.head?_ne_sign
      rw [if_neg Bool.false_ne_true, splitSign_eq hplus, beq_eq_false_iff_ne.2 hminus]
      exact congrArg _ (dropMinus_append (Or.inl rfl) hminus)
  rw [read?, hsplit]
  dsimp only
  rw [hread]
  dsimp only
  rw [Decimal.toFloat, hsign, Decimal.nearestBits_eq, hvalue]

end Positional

/-- The text of a decimal reads as the double that is nearest to it. -/
theorem read?_positional (d : Decimal) : read? d.positional = some d.toFloat := by
  rw [Decimal.positional, d.positional_text.read?_eq, Decimal.toFloat, Decimal.nearestBits_eq]

/-- The text of a finite double is the positional notation of its shortest decimal. -/
theorem text_of_isFinite {x : Float} (h : x.isFinite = true) :
    text x = String.ofList (shortest x).positional := by
  have hkinds : ¬(x.isNaN = true ∨ x.isInf = true) := by
    rw [← isFinite_eq_false_iff, h]
    exact Bool.noConfusion
  obtain ⟨hnan, hinf⟩ := not_or.1 hkinds
  rw [text, if_neg hnan, if_neg hinf]

end TagCalc.Number
