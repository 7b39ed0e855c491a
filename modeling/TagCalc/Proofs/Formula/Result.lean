/-
  TagCalc.Proofs.Formula.Result

  The text of a result, typed back. A finite result is shown in positional notation, which
  is a decimal literal, and is read as the same result (`resultText_reads_back`); only the
  sign of a negative zero is lost. There is no such text for the other results.
-/

import TagCalc.Proofs.Formula.TextValue
import TagCalc.Proofs.Number.Positional

namespace TagCalc

open Number

/-! ## Positional notation as a literal -/

/-- Positional notation is a decimal literal, after a minus sign or without one. -/
theorem Number.Positional.decimalParts {cs : List Char} {v : ℚ} (h : Positional cs v)
    (negative : Bool) : DecimalParts (if negative then '-' :: cs else cs) := by
  have hsign : ∃ sign, (sign = [] ∨ sign = ['-'])
      ∧ (if negative then '-' :: cs else cs) = sign ++ cs := by
    cases negative with
    | true => exact ⟨['-'], Or.inr rfl, rfl⟩
    | false => exact ⟨[], Or.inl rfl, rfl⟩
  obtain ⟨sign, hsign, hcs⟩ := hsign
  rw [hcs]
  cases h with
  | whole filled => exact ⟨sign, [], [], cs, hsign, nofun, Or.inl rfl, filled, rfl⟩
  | @point whole fraction before after =>
    exact ⟨sign, whole, ['.'], fraction, hsign, (isDigits_iff.1 before).2, Or.inr rfl, after, rfl⟩

theorem decimalParts_positional (d : Decimal) : DecimalParts d.positional :=
  d.positional_text.decimalParts d.negative

/-- A decimal has no blanks that could be trimmed off. -/
theorem trimmed_of_decimalParts {cs : List Char} (h : DecimalParts cs) : Text.trimmed cs = cs := by
  have hvisible : ∀ c ∈ cs, Text.isBlank c = false :=
    fun c hc => isBlank_of_isPlainChar (isPlainChar_of_decimalParts h c hc)
  exact Text.trimmed_of_ends (fun c hc => hvisible c (List.mem_of_head? hc))
    fun c hc => hvisible c (List.mem_of_getLast? hc)

/-- The text of a decimal is a number that is no fraction, and denotes the double nearest
    to the decimal. -/
theorem positional_literal (d : Decimal) :
    classify (String.ofList d.positional) = .number
    ∧ isFractionLiteral d.positional = false
    ∧ literalValue (String.ofList d.positional) = d.toFloat := by
  have hparts := decimalParts_positional d
  have htrimmed := trimmed_of_decimalParts hparts
  have hfraction := hparts.not_isFractionLiteral
  refine ⟨?_, by simpa using hfraction, ?_⟩
  · rw [classify_eq_number_iff, Text.toList_trim, String.toList_ofList, htrimmed]
    exact Or.inl hparts
  · rw [literalValue, String.toList_ofList]
    rw [htrimmed, if_neg hfraction, Number.read, read?_positional, Option.getD_some]

/-! ## The text of a result -/

/-- The text of a finite result is a number literal, no fraction, and denotes the result;
    that of negative zero denotes zero. Other results are invalid. -/
theorem resultText_reads_back (x : Float) :
    (x.isFinite = true →
      classify (resultText x) = .number
      ∧ isFractionLiteral (resultText x).toList = false
      ∧ literalValue (resultText x) = if x = -0 then 0 else x)
    ∧ (x.isNaN = true ∨ x.isInf = true → resultText x = "Invalid") := by
  constructor
  · intro hfinite
    rw [resultText, hfinite]
    rw [if_neg (by decide)]
    by_cases hzero : (x == 0) = true
    · -- both zeros are shown without a sign
      rw [if_pos hzero]
      refine ⟨by decide +kernel, by decide +kernel, ?_⟩
      have hread : literalValue "0" = 0 := by decide +kernel
      rw [hread]
      rcases eq_zero_of_beq hzero with rfl | rfl
      · rw [ite_self]
      · rw [if_pos rfl]
    · have hnegative : x ≠ -0 := by
        rintro rfl
        exact hzero rfl
      rw [if_neg hzero, if_neg hnegative, text_of_isFinite hfinite, String.toList_ofList]
      obtain ⟨hkind, hfraction, hvalue⟩ := positional_literal (shortest x)
      exact ⟨hkind, hfraction, hvalue.trans (toFloat_shortest hfinite)⟩
  · intro h
    rw [resultText, isFinite_eq_false_iff.2 h]
    rfl

/-- The least positive double, whose text has 324 places, negative zero, and two results
    that are invalid. -/
theorem resultText_reads_back_least :
    let least := Float.ofBits 1
    let infinity := Float.ofBits 0x7FF0000000000000
    least.isFinite = true ∧ classify (resultText least) = .number
    ∧ isFractionLiteral (resultText least).toList = false
    ∧ literalValue (resultText least) = least
    ∧ (-0 : Float).isFinite = true ∧ literalValue (resultText (-0)) = 0
    ∧ nan.isNaN = true ∧ resultText nan = "Invalid"
    ∧ infinity.isInf = true ∧ resultText infinity = "Invalid" := by
  intro least infinity
  have hleast : least.isFinite = true := by decide +kernel
  have hnegative : (-0 : Float).isFinite = true := rfl
  have hnan : nan.isNaN = true := rfl
  have hinfinity : infinity.isInf = true := by decide +kernel
  obtain ⟨hkind, hfraction, hvalue⟩ := (resultText_reads_back least).1 hleast
  obtain ⟨-, -, hzero⟩ := (resultText_reads_back (-0)).1 hnegative
  rw [if_neg (by decide)] at hvalue
  rw [if_pos rfl] at hzero
  exact ⟨hleast, hkind, hfraction, hvalue, hnegative, hzero, hnan,
    (resultText_reads_back nan).2 (Or.inl hnan), hinfinity,
    (resultText_reads_back infinity).2 (Or.inr hinfinity)⟩

end TagCalc
