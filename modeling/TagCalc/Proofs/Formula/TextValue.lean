/-
  TagCalc.Proofs.Formula.TextValue

  Values that are given as texts, against number literals. A text value may only hold
  the characters of plain decimals, a literal is read as it stands. What is a numeral
  holds no other characters (`Numeral.isPlainChar`), so the two readings part only on
  blank texts, on fractions and on words (`text_value_read_as_literal`).
-/

import TagCalc.Formula.Evaluation
import TagCalc.Proofs.Formula.Classification
import TagCalc.Proofs.Number.NotANumber

namespace TagCalc

open Value Number

/-! ## Characters -/

theorem Value.isPlainChar_of_isDigit {c : Char} (h : c.isDigit = true) : isPlainChar c = true := by
  rw [isPlainChar, h]
  rfl

theorem isPlainChar_of_mem_sign {sign : List Char} (h : Sign sign) :
    ∀ c ∈ sign, isPlainChar c = true := by
  intro c hc
  rcases h with rfl | rfl | rfl
  · cases hc
  · cases List.mem_singleton.1 hc
    rfl
  · cases List.mem_singleton.1 hc
    rfl

/-- All that a numeral holds are characters of plain decimals. -/
theorem Number.Numeral.isPlainChar {cs : List Char} (h : Numeral cs) :
    ∀ c ∈ cs, isPlainChar c = true := by
  obtain ⟨mantissa, exponent, hmantissa, hexponent, rfl⟩ := h
  have hdigits : ∀ {ds : List Char}, isDigits ds = true → ∀ c ∈ ds, Value.isPlainChar c = true :=
    fun hds c hc => isPlainChar_of_isDigit ((isDigits_iff.1 hds).2 c hc)
  have hpoint : ∀ {whole fraction : List Char}, (∀ c ∈ whole, c.isDigit = true) →
      (∀ c ∈ fraction, c.isDigit = true) →
      ∀ c ∈ whole ++ '.' :: fraction, Value.isPlainChar c = true := by
    intro whole fraction hwhole hfraction c hc
    rcases List.mem_append.1 hc with hc | hc
    · exact isPlainChar_of_isDigit (hwhole c hc)
    · rcases List.mem_cons.1 hc with rfl | hc
      · rfl
      · exact isPlainChar_of_isDigit (hfraction c hc)
  intro c hc
  rcases List.mem_append.1 hc with hc | hc
  · cases hmantissa with
    | digits filled => exact hdigits filled c hc
    | pointAfter filled digits => exact hpoint (isDigits_iff.1 filled).2 digits c hc
    | pointBefore digits filled => exact hpoint digits (isDigits_iff.1 filled).2 c hc
  · cases hexponent with
    | absent => cases hc
    | marked known signed filled =>
      rcases List.mem_cons.1 hc with rfl | hc
      · rcases known with rfl | rfl <;> rfl
      · rcases List.mem_append.1 hc with hc | hc
        · exact isPlainChar_of_mem_sign signed c hc
        · exact hdigits filled c hc

theorem isPlainChar_of_signed_numeral {cs : List Char} (h : Signed Numeral cs) :
    ∀ c ∈ cs, isPlainChar c = true := by
  obtain ⟨sign, body, hsign, hbody, rfl⟩ := h
  intro c hc
  exact (List.mem_append.1 hc).elim (isPlainChar_of_mem_sign hsign c) (hbody.isPlainChar c)

theorem isPlainChar_of_decimalParts {cs : List Char} (h : DecimalParts cs) :
    ∀ c ∈ cs, isPlainChar c = true :=
  isPlainChar_of_signed_numeral h.signed_numeral

/-- The characters of plain decimals are ASCII, so what is checked there holds of them. -/
theorem forall_isPlainChar {p : Char → Prop}
    (hascii : ∀ n < 0x80, isPlainChar (Char.ofNat n) = true → p (Char.ofNat n)) {c : Char}
    (h : isPlainChar c = true) : p c := by
  have hlt : c.toNat < 0x80 := by
    simp only [isPlainChar, Char.isDigit, Bool.or_eq_true, Bool.and_eq_true, decide_eq_true_eq,
      beq_iff_eq] at h
    -- a digit lies in the range of digits, the other characters are given one by one
    rcases h with ((((h | rfl) | rfl) | rfl) | rfl) | rfl
    · exact Nat.lt_of_le_of_lt (UInt32.le_iff_toNat_le.1 h.2) (by decide)
    all_goals decide
  have hc := hascii c.toNat hlt
  rw [Char.ofNat_toNat] at hc
  exact hc h

theorem isBlank_of_isPlainChar {c : Char} (h : isPlainChar c = true) : Text.isBlank c = false :=
  forall_isPlainChar (p := fun c => Text.isBlank c = false) (by decide +kernel) h

/-- No character of a plain decimal is the letter that words for infinity start with. -/
theorem toLower_ne_of_isPlainChar {c : Char} (h : isPlainChar c = true) : c.toLower ≠ 'i' :=
  forall_isPlainChar (p := fun c => c.toLower ≠ 'i') (by decide +kernel) h

/-- A word for infinity is no text of a value. -/
theorem exists_not_isPlainChar_of_infinity {cs : List Char} (h : Signed InfinityWord cs) :
    ∃ c ∈ cs, ¬isPlainChar c = true := by
  obtain ⟨sign, body, -, hword, rfl⟩ := h
  have hhead : body.head?.map Char.toLower = some 'i' := by
    rw [← List.head?_map]
    rcases hword with h | h
    · rw [h]
      rfl
    · rw [h]
      rfl
  obtain ⟨c, hc, hlower⟩ := Option.map_eq_some_iff.1 hhead
  exact ⟨c, List.mem_append_right sign (List.mem_of_head? hc),
    fun hplain => toLower_ne_of_isPlainChar hplain hlower⟩

/-! ## The value of a text -/

theorem ofText_of_blank {cs : List Char} (h : Text.trimmed cs = []) : ofText cs = 0 := by
  rw [ofText, h]
  rfl

theorem ofText_of_plain {cs : List Char} (filled : Text.trimmed cs ≠ [])
    (plain : ∀ c ∈ Text.trimmed cs, isPlainChar c = true) :
    ofText cs = read (Text.trimmed cs) := by
  rw [ofText, if_neg (by simpa using filled), if_pos (List.all_eq_true.2 plain)]

theorem ofText_of_not_plain {cs : List Char} {c : Char} (hc : c ∈ Text.trimmed cs)
    (other : ¬isPlainChar c = true) : ofText cs = nan := by
  have hfilled : ¬(Text.trimmed cs).isEmpty = true := by
    rw [List.isEmpty_iff]
    exact List.ne_nil_of_mem hc
  have hall : ¬(Text.trimmed cs).all isPlainChar = true := by
    rw [List.all_eq_true]
    exact fun h => other (h c hc)
  rw [ofText, if_neg hfilled, if_neg hall]

/-- A text with other characters than those of plain decimals is read as what is not a
    number, unless it is a word for infinity. -/
theorem read_of_not_plain {cs : List Char} {c : Char} (hc : c ∈ cs)
    (other : ¬isPlainChar c = true) (hword : ¬Signed InfinityWord cs) : read cs = nan := by
  rw [Number.read]
  cases hread : read? cs with
  | none => rfl
  | some x =>
    rcases read?_cases hread with hnumeral | hinfinity | ⟨-, rfl⟩
    · exact absurd (isPlainChar_of_signed_numeral hnumeral c hc) other
    · exact absurd hinfinity hword
    · rfl

/-- A text value is infinite only if it is a numeral, then one too large for a double. -/
theorem signed_numeral_of_isInf {cs : List Char} (h : (ofText cs).isInf = true) :
    Signed Numeral (Text.trimmed cs) := by
  by_cases hblank : Text.trimmed cs = []
  · rw [ofText_of_blank hblank] at h
    cases h
  · by_cases hplain : ∀ c ∈ Text.trimmed cs, isPlainChar c = true
    · rw [ofText_of_plain hblank hplain, Number.read] at h
      cases hread : read? (Text.trimmed cs) with
      | none =>
        rw [hread] at h
        cases h
      | some x =>
        rw [hread, Option.getD_some] at h
        rcases read?_cases hread with hnumeral | hinfinity | ⟨-, rfl⟩
        · exact hnumeral
        · -- the check of the characters came before the reader, so this is no word
          obtain ⟨c, hc, other⟩ := exists_not_isPlainChar_of_infinity hinfinity
          exact absurd (hplain c hc) other
        · cases h
    · obtain ⟨c, hc⟩ := Classical.not_forall.1 hplain
      obtain ⟨hmem, other⟩ := Classical.not_imp.1 hc
      rw [ofText_of_not_plain hmem other] at h
      cases h

/-! ## Text values and literals -/

theorem ofText_of_fractionParts {cs : List Char} (h : FractionParts (Text.trimmed cs)) :
    ofText cs = nan := by
  obtain ⟨sign, above, below, -, -, -, hparts⟩ := h
  have hslash : '/' ∈ Text.trimmed cs := by
    rw [hparts]
    simp
  exact ofText_of_not_plain hslash (by decide)

theorem ofText_of_infinity {cs : List Char} (h : Signed InfinityWord (Text.trimmed cs)) :
    ofText cs = nan := by
  obtain ⟨c, hc, other⟩ := exists_not_isPlainChar_of_infinity h
  exact ofText_of_not_plain hc other

/-- Where the text is neither blank nor a fraction nor a word for infinity, the value is
    that of the literal: what keeps a text value from being read is not in a numeral. -/
theorem ofText_eq_literalValue {s : String} (filled : Text.trimmed s.toList ≠ [])
    (hfraction : ¬FractionParts (Text.trimmed s.toList))
    (hword : ¬Signed InfinityWord (Text.trimmed s.toList)) :
    ofText s.toList = literalValue s := by
  rw [← isFractionLiteral_iff_parts] at hfraction
  rw [literalValue]
  rw [if_neg hfraction]
  by_cases hplain : ∀ c ∈ Text.trimmed s.toList, isPlainChar c = true
  · exact ofText_of_plain filled hplain
  · -- the text value is refused at a character that the literal cannot be read with either
    obtain ⟨c, hc⟩ := Classical.not_forall.1 hplain
    obtain ⟨hmem, other⟩ := Classical.not_imp.1 hc
    rw [ofText_of_not_plain hmem other, read_of_not_plain hmem other hword]

/-- A decimal is none of the texts that are excepted. -/
theorem ofText_of_decimalParts {s : String} (h : DecimalParts (Text.trimmed s.toList)) :
    ofText s.toList = literalValue s := by
  apply ofText_eq_literalValue
  · obtain ⟨sign, whole, point, fraction, -, -, -, hfraction, hparts⟩ := h
    rw [hparts]
    simp [(isDigits_iff.1 hfraction).1]
  · rw [← isFractionLiteral_iff_parts]
    exact h.not_isFractionLiteral
  · intro hinfinity
    obtain ⟨c, hc, other⟩ := exists_not_isPlainChar_of_infinity hinfinity
    exact other (isPlainChar_of_decimalParts h c hc)

/-- A text value is the number that its text is as a literal, with three exceptions: a
    blank text is zero, a fraction and a word for infinity are not numbers. So a tag with
    a decimal as its text value counts as the decimal typed as a number does, and no word
    in a text value is infinite, only a numeral can be. -/
theorem text_value_read_as_literal (s : String) :
    ((Text.trim s).toList = [] → (Value.text s).toFloat = 0)
    ∧ (FractionParts (Text.trim s).toList → (Value.text s).toFloat.isNaN = true)
    ∧ (Signed InfinityWord (Text.trim s).toList → (Value.text s).toFloat.isNaN = true)
    ∧ ((Text.trim s).toList ≠ [] → ¬FractionParts (Text.trim s).toList →
        ¬Signed InfinityWord (Text.trim s).toList → (Value.text s).toFloat = literalValue s)
    ∧ (DecimalParts (Text.trim s).toList → ∀ tag number : Token,
        tag.kind = .tag → tag.suggestion.map (·.value) = some (.text s) →
        number.kind = .number → number.value = s → tag.number? = number.number?)
    ∧ ((Value.text s).toFloat.isInf = true → Signed Numeral (Text.trim s).toList) := by
  have hvalue : (Value.text s).toFloat = ofText s.toList := rfl
  rw [Text.toList_trim, hvalue]
  refine ⟨ofText_of_blank, ?_, ?_, ofText_eq_literalValue, ?_, signed_numeral_of_isInf⟩
  · intro hfraction
    rw [ofText_of_fractionParts hfraction]
    exact isNaN_nan
  · intro hword
    rw [ofText_of_infinity hword]
    exact isNaN_nan
  · intro hdecimal tag number htag hsuggestion hnumber htext
    obtain ⟨entry, hentry, hentryValue⟩ := Option.map_eq_some_iff.1 hsuggestion
    rw [Token.number?, Token.number?, htag, hnumber, htext, hentry]
    dsimp only
    rw [Option.map_some, hentryValue, Option.getD_some, hvalue, ofText_of_decimalParts hdecimal]

/-- A decimal; a numeral that is no literal; a fraction; a word; and a numeral that is
    too large for a finite double. -/
theorem text_value_read_as_literal_cost :
    let cost : Token := ⟨1, "cost", .tag, some ⟨"2", "cost", "finance", .text " 45.5"⟩⟩
    let typed : Token := ⟨1, " 45.5", .number, none⟩
    DecimalParts (Text.trim " 45.5").toList ∧ cost.number? = typed.number?
    ∧ (Text.trim "+1e3").toList ≠ [] ∧ ¬FractionParts (Text.trim "+1e3").toList
    ∧ ¬Signed InfinityWord (Text.trim "+1e3").toList
    ∧ (Value.text "+1e3").toFloat = literalValue "+1e3"
    ∧ FractionParts (Text.trim "3/4").toList ∧ (Value.text "3/4").toFloat.isNaN = true
    ∧ Signed InfinityWord (Text.trim "-INF").toList ∧ (Value.text "-INF").toFloat.isNaN = true
    ∧ (Value.text "1e999").toFloat.isInf = true ∧ Signed Numeral (Text.trim "1e999").toList := by
  intro cost typed
  have hdecimal : DecimalParts (Text.trim " 45.5").toList :=
    ⟨[], ['4', '5'], ['.'], ['5'], Or.inl rfl, List.all_eq_true.1 rfl, Or.inr rfl, rfl,
      by decide +kernel⟩
  have hfilled : (Text.trim "+1e3").toList ≠ [] := by decide +kernel
  have hfraction : ¬FractionParts (Text.trim "+1e3").toList := by
    rw [← isFractionLiteral_iff_parts]
    decide +kernel
  have hplain : ∀ c ∈ (Text.trim "+1e3").toList, isPlainChar c = true :=
    List.all_eq_true.1 (by decide +kernel)
  have hword : ¬Signed InfinityWord (Text.trim "+1e3").toList := by
    intro hinfinity
    obtain ⟨c, hc, other⟩ := exists_not_isPlainChar_of_infinity hinfinity
    exact other (hplain c hc)
  have hquarters : FractionParts (Text.trim "3/4").toList :=
    ⟨[], ['3'], ['4'], Or.inl rfl, rfl, rfl, by decide +kernel⟩
  have hinfinity : Signed InfinityWord (Text.trim "-INF").toList :=
    ⟨['-'], ['I', 'N', 'F'], Or.inr (Or.inl rfl), Or.inl rfl, by decide +kernel⟩
  have hlarge : (Value.text "1e999").toFloat.isInf = true := by decide +kernel
  obtain ⟨-, -, -, -, hsame, -⟩ := text_value_read_as_literal " 45.5"
  obtain ⟨-, -, -, halike, -⟩ := text_value_read_as_literal "+1e3"
  obtain ⟨-, hnan, -⟩ := text_value_read_as_literal "3/4"
  obtain ⟨-, -, hnan', -⟩ := text_value_read_as_literal "-INF"
  obtain ⟨-, -, -, -, -, hnumeral⟩ := text_value_read_as_literal "1e999"
  exact ⟨hdecimal, hsame hdecimal cost typed rfl rfl rfl rfl, hfilled, hfraction, hword,
    halike hfilled hfraction hword, hquarters, hnan hquarters, hinfinity, hnan' hinfinity,
    hlarge, hnumeral hlarge⟩

end TagCalc
