/-
  TagCalc.Proofs.Formula.Classification

  The kinds of texts by their grammar: the seven symbols of operands, number literals by
  their parts, and all other texts (`classify_by_grammar`). The literals are given as the
  parts that they are put together from, whereas the program looks for the end of the
  digits; a decimal can be put together in more than one way, for its digits need not
  have a point in between.
-/

import TagCalc.Proofs.Number.Grammar

namespace TagCalc

/-- The symbols of the operands. -/
def operandSymbols : List String := ["+", "-", "*", "/", "^", "(", ")"]

/-- A decimal by its parts: a minus sign or none, digits or none, a point or none, and
    digits. -/
def DecimalParts (cs : List Char) : Prop :=
  ∃ sign whole point fraction : List Char, (sign = [] ∨ sign = ['-'])
    ∧ (∀ c ∈ whole, c.isDigit = true) ∧ (point = [] ∨ point = ['.'])
    ∧ isDigits fraction = true ∧ cs = sign ++ (whole ++ (point ++ fraction))

/-- A fraction by its parts: a minus sign or none, digits, a slash, and digits. -/
def FractionParts (cs : List Char) : Prop :=
  ∃ sign above below : List Char, (sign = [] ∨ sign = ['-'])
    ∧ isDigits above = true ∧ isDigits below = true ∧ cs = sign ++ (above ++ '/' :: below)

/-- A number literal by its parts. -/
def NumberParts (cs : List Char) : Prop :=
  DecimalParts cs ∨ FractionParts cs

/-! ## Literals by their parts -/

/-- What follows the sign of a decimal is a numeral without an exponent. -/
theorem mantissa_of_parts {whole point fraction : List Char}
    (hwhole : ∀ c ∈ whole, c.isDigit = true) (hpoint : point = [] ∨ point = ['.'])
    (hfraction : isDigits fraction = true) : Number.Mantissa (whole ++ (point ++ fraction)) := by
  rcases hpoint with rfl | rfl
  · exact .digits (isDigits_append hwhole hfraction)
  · exact .pointBefore hwhole hfraction

theorem isDecimalLiteral_iff_parts {cs : List Char} :
    isDecimalLiteral cs = true ↔ DecimalParts cs := by
  rw [isDecimalLiteral_iff]
  constructor
  · obtain ⟨sign, hsign, hcs⟩ := sign_append_dropMinus cs
    rintro (hdigits | ⟨whole, fraction, hwhole, hfraction, hbody⟩)
    · -- without a point all digits are taken as those that must be there
      exact ⟨sign, [], [], _, hsign, nofun, Or.inl rfl, hdigits, hcs⟩
    · refine ⟨sign, whole, ['.'], fraction, hsign, hwhole, Or.inr rfl, hfraction, ?_⟩
      rw [hcs, hbody]
      rfl
  · rintro ⟨sign, whole, point, fraction, hsign, hwhole, hpoint, hfraction, rfl⟩
    have hminus := (mantissa_of_parts hwhole hpoint hfraction).numeral.head?_ne_sign.1
    rw [dropMinus_append hsign hminus]
    rcases hpoint with rfl | rfl
    · exact Or.inl (isDigits_append hwhole hfraction)
    · exact Or.inr ⟨whole, fraction, hwhole, hfraction, rfl⟩

theorem isFractionLiteral_iff_parts {cs : List Char} :
    isFractionLiteral cs = true ↔ FractionParts cs := by
  rw [isFractionLiteral_iff]
  constructor
  · obtain ⟨sign, hsign, hcs⟩ := sign_append_dropMinus cs
    rintro ⟨above, below, habove, hbelow, hbody⟩
    exact ⟨sign, above, below, hsign, habove, hbelow, hbody ▸ hcs⟩
  · rintro ⟨sign, above, below, hsign, habove, hbelow, rfl⟩
    obtain ⟨d, hd, hhead⟩ := Number.head?_isDigits habove
    have hfirst : (above ++ '/' :: below).head? = some d := by
      rw [List.head?_append, hhead]
      rfl
    have hminus := (Number.head?_ne_sign_of_isDigit hd hfirst).1
    exact ⟨above, below, habove, hbelow, dropMinus_append hsign hminus⟩

theorem isNumberLiteral_iff_parts {cs : List Char} :
    isNumberLiteral cs = true ↔ NumberParts cs := by
  rw [isNumberLiteral, Bool.or_eq_true, isDecimalLiteral_iff_parts, isFractionLiteral_iff_parts,
    NumberParts]

/-- A decimal is a numeral after a minus sign or none. -/
theorem DecimalParts.signed_numeral {cs : List Char} (h : DecimalParts cs) :
    Number.Signed Number.Numeral cs := by
  obtain ⟨sign, whole, point, fraction, hsign, hwhole, hpoint, hfraction, rfl⟩ := h
  exact ⟨sign, _, hsign.imp_right Or.inl, (mantissa_of_parts hwhole hpoint hfraction).numeral, rfl⟩

/-- No decimal has a slash. -/
theorem DecimalParts.slash_not_mem {cs : List Char} (h : DecimalParts cs) : '/' ∉ cs := by
  obtain ⟨sign, whole, point, fraction, hsign, hwhole, hpoint, hfraction, rfl⟩ := h
  have hdigits := (isDigits_iff.1 hfraction).2
  have hsign' : '/' ∉ sign := by rcases hsign with rfl | rfl <;> decide
  have hpoint' : '/' ∉ point := by rcases hpoint with rfl | rfl <;> decide
  have hwhole' : '/' ∉ whole := fun hmem => absurd (hwhole _ hmem) (by decide)
  have hfraction' : '/' ∉ fraction := fun hmem => absurd (hdigits _ hmem) (by decide)
  simp [hsign', hwhole', hpoint', hfraction']

theorem DecimalParts.not_isFractionLiteral {cs : List Char} (h : DecimalParts cs) :
    ¬isFractionLiteral cs = true := by
  rw [isFractionLiteral_iff_parts]
  rintro ⟨sign, above, below, -, -, -, rfl⟩
  exact h.slash_not_mem (by simp)

/-! ## Kinds -/

theorem isSome_ofSymbol?_iff {s : String} :
    (Operator.ofSymbol? s).isSome = true ↔ s ∈ operandSymbols := by
  have hall : operandSymbols = Operator.all.map Operator.symbol := rfl
  rw [Operator.ofSymbol?, List.find?_isSome, hall, List.mem_map]
  simp only [beq_iff_eq]

/-- No symbol of an operand is a number literal. -/
theorem isNumberLiteral_of_mem_operandSymbols :
    ∀ s ∈ operandSymbols, isNumberLiteral s.toList = false := by
  decide +kernel

theorem classify_eq_operand_iff {s : String} :
    classify s = .operand ↔ Text.trim s ∈ operandSymbols := by
  constructor
  · intro h
    obtain ⟨o, ho⟩ := ofSymbol?_of_classify h
    exact isSome_ofSymbol?_iff.1 (Option.isSome_of_eq_some ho)
  · intro h
    rw [classify]
    rw [if_pos (isSome_ofSymbol?_iff.2 h)]

theorem classify_eq_number_iff {s : String} :
    classify s = .number ↔ NumberParts (Text.trim s).toList := by
  rw [← isNumberLiteral_iff_parts]
  constructor
  · exact isNumberLiteral_of_classify
  · intro h
    have hsymbol : ¬(Operator.ofSymbol? (Text.trim s)).isSome = true := by
      intro hsome
      have hnot := isNumberLiteral_of_mem_operandSymbols _ (isSome_ofSymbol?_iff.1 hsome)
      rw [h] at hnot
      cases hnot
    rw [classify]
    rw [if_neg hsymbol, if_pos h]

/-! ## What the evaluator reads -/

/-- A decimal is read in one go. -/
theorem literalValue_of_decimalParts {s : String} (h : DecimalParts (Text.trim s).toList) :
    ∃ x, Number.read? (Text.trim s).toList = some x ∧ literalValue s = x := by
  obtain ⟨x, hx⟩ := Number.read?_of_isDecimalLiteral (isDecimalLiteral_iff_parts.2 h)
  have hdecimal := h.not_isFractionLiteral
  refine ⟨x, hx, ?_⟩
  rw [Text.toList_trim] at hdecimal hx
  rw [literalValue]
  rw [if_neg hdecimal, Number.read, hx]
  rfl

/-- A fraction has one slash, and what stands on each side of it is read by itself. -/
theorem literalValue_of_fractionParts {s : String} (h : FractionParts (Text.trim s).toList) :
    ∃ above below, (Text.trim s).toList = above ++ '/' :: below ∧ '/' ∉ above ∧ '/' ∉ below
      ∧ ∃ x y, Number.read? above = some x ∧ Number.read? below = some y
        ∧ literalValue s = x / y := by
  have hfraction := isFractionLiteral_iff_parts.2 h
  obtain ⟨sign, above, below, hsign, habove, hbelow, hcs⟩ := h
  have hleft := isDecimalLiteral_digits hsign habove
  have hright : isDecimalLiteral below = true := isDecimalLiteral_digits (Or.inl rfl) hbelow
  obtain ⟨x, hx⟩ := Number.read?_of_isDecimalLiteral hleft
  obtain ⟨y, hy⟩ := Number.read?_of_isDecimalLiteral hright
  rw [← List.append_assoc] at hcs
  refine ⟨sign ++ above, below, hcs, (isDecimalLiteral_iff_parts.1 hleft).slash_not_mem,
    (isDecimalLiteral_iff_parts.1 hright).slash_not_mem, x, y, hx, hy, ?_⟩
  obtain ⟨htake, hdrop⟩ := split_slash hsign habove below
  rw [Text.toList_trim] at hfraction hcs
  rw [literalValue]
  rw [if_pos hfraction, hcs, htake, hdrop, List.drop_one, List.tail_cons, Number.read,
    Number.read, hx, hy]
  rfl

/-! ## The grammar of the classifier -/

/-- An operand is one of the seven symbols; a number is a decimal or a fraction by its
    parts; every other text is a tag. No text is an operand and a number. A decimal is
    written as a double is and read as one; a fraction has one slash between two texts
    that are. So a number never has the value that stands in for what cannot be read. -/
theorem classify_by_grammar (s : String) :
    (classify s = .operand ↔ Text.trim s ∈ operandSymbols)
    ∧ (classify s = .number ↔ NumberParts (Text.trim s).toList)
    ∧ (classify s = .tag ↔
        Text.trim s ∉ operandSymbols ∧ ¬NumberParts (Text.trim s).toList)
    ∧ ¬(Text.trim s ∈ operandSymbols ∧ NumberParts (Text.trim s).toList)
    ∧ (DecimalParts (Text.trim s).toList →
        Number.Written (Text.trim s).toList
        ∧ ∃ x, Number.read? (Text.trim s).toList = some x ∧ literalValue s = x)
    ∧ (FractionParts (Text.trim s).toList →
        ∃ above below, (Text.trim s).toList = above ++ '/' :: below
          ∧ '/' ∉ above ∧ '/' ∉ below ∧ Number.Written above ∧ Number.Written below
          ∧ ∃ x y, Number.read? above = some x ∧ Number.read? below = some y
            ∧ literalValue s = x / y) := by
  have hoperand : classify s = .operand ↔ Text.trim s ∈ operandSymbols := classify_eq_operand_iff
  have hnumber : classify s = .number ↔ NumberParts (Text.trim s).toList :=
    classify_eq_number_iff
  refine ⟨hoperand, hnumber, ?_, ?_, ?_, ?_⟩
  · rw [← hoperand, ← hnumber]
    cases classify s with
    | tag => simp
    | operand => simp
    | number => simp
  · rw [← hoperand, ← hnumber]
    rintro ⟨hop, hnum⟩
    rw [hop] at hnum
    cases hnum
  · intro h
    obtain ⟨x, hx, hvalue⟩ := literalValue_of_decimalParts h
    exact ⟨Number.read?_isSome_iff.1 (Option.isSome_of_eq_some hx), x, hx, hvalue⟩
  · intro h
    obtain ⟨above, below, hu, habove, hbelow, x, y, hx, hy, hvalue⟩ :=
      literalValue_of_fractionParts h
    exact ⟨above, below, hu, habove, hbelow,
      Number.read?_isSome_iff.1 (Option.isSome_of_eq_some hx),
      Number.read?_isSome_iff.1 (Option.isSome_of_eq_some hy), x, y, hx, hy, hvalue⟩

/-- A decimal without a digit before its point, and a fraction. -/
theorem classify_by_grammar_half :
    DecimalParts (Text.trim " -.5").toList ∧ FractionParts (Text.trim "-1/2 ").toList
    ∧ classify " -.5" = .number ∧ classify "-1/2 " = .number
    ∧ Number.Written (Text.trim " -.5").toList
    ∧ ∃ above below, (Text.trim "-1/2 ").toList = above ++ '/' :: below
      ∧ Number.Written above ∧ Number.Written below := by
  have hpoint : DecimalParts (Text.trim " -.5").toList :=
    ⟨['-'], [], ['.'], ['5'], Or.inr rfl, nofun, Or.inr rfl, rfl, by decide +kernel⟩
  have hslash : FractionParts (Text.trim "-1/2 ").toList :=
    ⟨['-'], ['1'], ['2'], Or.inr rfl, rfl, rfl, by decide +kernel⟩
  obtain ⟨-, hnumber, -, -, hdecimal, -⟩ := classify_by_grammar " -.5"
  obtain ⟨-, hnumber', -, -, -, hfraction⟩ := classify_by_grammar "-1/2 "
  obtain ⟨above, below, hu, -, -, habove, hbelow, -⟩ := hfraction hslash
  exact ⟨hpoint, hslash, hnumber.2 (Or.inl hpoint), hnumber'.2 (Or.inr hslash),
    (hdecimal hpoint).1, above, below, hu, habove, hbelow⟩

end TagCalc
