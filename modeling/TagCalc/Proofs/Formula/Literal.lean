/-
  TagCalc.Proofs.Formula.Literal

  Number literals and the reader of doubles. The shapes of literals are given by their
  parts (`isDecimalLiteral_iff`, `isFractionLiteral_iff`), and a text in one of these
  shapes is one that the reader takes (`literalValue?_of_isNumberLiteral`): the value of
  a literal never falls back to what is not a number.
-/

import TagCalc.Formula.Literal

namespace TagCalc

/-- The number that a literal denotes, if its text can be read: that of a decimal, or
    both sides of a fraction. -/
def literalValue? (s : String) : Option Float :=
  let cs := Text.trimmed s.toList
  if isFractionLiteral cs then
    match Number.read? (cs.takeWhile (· != '/')),
        Number.read? ((cs.dropWhile (· != '/')).drop 1) with
    | some above, some below => some (above / below)
    | _, _ => none
  else
    Number.read? cs

/-! ## Digits -/

theorem isDigits_iff {cs : List Char} :
    isDigits cs = true ↔ cs ≠ [] ∧ ∀ c ∈ cs, c.isDigit = true := by
  rw [isDigits]
  simp

/-- Digits before other digits are one run with them. -/
theorem isDigits_append {whole fraction : List Char} (hwhole : ∀ c ∈ whole, c.isDigit = true)
    (hfraction : isDigits fraction = true) : isDigits (whole ++ fraction) = true := by
  obtain ⟨hfilled, hdigits⟩ := isDigits_iff.1 hfraction
  refine isDigits_iff.2 ⟨List.append_ne_nil_of_right_ne_nil whole hfilled, ?_⟩
  intro c hc
  exact (List.mem_append.1 hc).elim (hwhole c) (hdigits c)

/-- A text that starts with a run of characters and goes on with another one is split
    where the run ends. -/
theorem split_run {p : Char → Bool} {run rest : List Char} (hrun : ∀ c ∈ run, p c = true)
    (hrest : ∀ c, rest.head? = some c → p c = false) :
    (run ++ rest).takeWhile p = run ∧ (run ++ rest).dropWhile p = rest := by
  have hstop : rest.takeWhile p = [] ∧ rest.dropWhile p = rest := by
    cases rest with
    | nil => exact ⟨rfl, rfl⟩
    | cons c rest =>
      have hc : ¬p c = true := by
        rw [hrest c rfl]
        exact Bool.false_ne_true
      exact ⟨List.takeWhile_cons_of_neg hc, List.dropWhile_cons_of_neg hc⟩
  rw [List.takeWhile_append_of_pos hrun, List.dropWhile_append_of_pos hrun, hstop.1, hstop.2,
    List.append_nil]
  exact ⟨rfl, rfl⟩

/-- Digits up to the end of the text. -/
theorem split_digits {ds : List Char} (h : isDigits ds = true) :
    ds.takeWhile Char.isDigit = ds ∧ ds.dropWhile Char.isDigit = [] := by
  have hsplit : (ds ++ []).takeWhile Char.isDigit = ds ∧ (ds ++ []).dropWhile Char.isDigit = [] :=
    split_run (isDigits_iff.1 h).2 nofun
  rw [List.append_nil] at hsplit
  exact hsplit

/-- Digits up to a mark. -/
theorem split_mark {ds : List Char} (h : ∀ c ∈ ds, c.isDigit = true) (mark : Char)
    (hmark : mark.isDigit = false) (rest : List Char) :
    (ds ++ mark :: rest).takeWhile Char.isDigit = ds
    ∧ (ds ++ mark :: rest).dropWhile Char.isDigit = mark :: rest := by
  apply split_run h
  intro c hc
  cases Option.some.inj hc
  exact hmark

/-- A text is the digits that it starts with and what follows them. -/
theorem digits_append_rest (cs : List Char) :
    (∀ c ∈ cs.takeWhile Char.isDigit, c.isDigit = true)
    ∧ cs = cs.takeWhile Char.isDigit ++ cs.dropWhile Char.isDigit :=
  ⟨List.all_eq_true.1 List.all_takeWhile, List.takeWhile_append_dropWhile.symm⟩

/-! ## The shapes of literals -/

/-- An optional minus sign is all that is dropped. -/
theorem sign_append_dropMinus (cs : List Char) :
    ∃ sign, (sign = [] ∨ sign = ['-']) ∧ cs = sign ++ dropMinus cs := by
  unfold dropMinus
  split
  · exact ⟨['-'], Or.inr rfl, rfl⟩
  · exact ⟨[], Or.inl rfl, rfl⟩

/-- What follows a minus sign, or no sign, is kept if it does not start with one. -/
theorem dropMinus_append {sign body : List Char} (hsign : sign = [] ∨ sign = ['-'])
    (hbody : body.head? ≠ some '-') : dropMinus (sign ++ body) = body := by
  rcases hsign with rfl | rfl
  · rw [List.nil_append]
    unfold dropMinus
    split
    · exact absurd rfl hbody
    · rfl
  · rfl

/-- A decimal literal is digits, or digits that may be absent, a point and digits,
    after an optional minus sign. -/
theorem isDecimalLiteral_iff {cs : List Char} :
    isDecimalLiteral cs = true
      ↔ isDigits (dropMinus cs) = true
        ∨ ∃ whole fraction, (∀ c ∈ whole, c.isDigit = true) ∧ isDigits fraction = true
          ∧ dropMinus cs = whole ++ '.' :: fraction := by
  unfold isDecimalLiteral
  dsimp only
  generalize dropMinus cs = body
  obtain ⟨hdigits, hbody⟩ := digits_append_rest body
  constructor
  · intro h
    -- after the digits comes nothing, a point, or what no decimal has
    split at h
    · rename_i hend
      rw [hend, List.append_nil] at hbody
      rw [isDigits_iff]
      refine Or.inl ⟨by simpa using h, ?_⟩
      rw [hbody]
      exact hdigits
    · rename_i fraction hpoint
      rw [hpoint] at hbody
      exact Or.inr ⟨_, fraction, hdigits, h, hbody⟩
    · cases h
  · rintro (h | ⟨whole, fraction, hwhole, hfraction, heq⟩)
    · rw [(split_digits h).2]
      simpa using (isDigits_iff.1 h).1
    · rw [heq, (split_mark hwhole '.' rfl fraction).2]
      exact hfraction

/-- A fraction literal is digits, a slash and digits, after an optional minus sign. -/
theorem isFractionLiteral_iff {cs : List Char} :
    isFractionLiteral cs = true
      ↔ ∃ above below, isDigits above = true ∧ isDigits below = true
        ∧ dropMinus cs = above ++ '/' :: below := by
  unfold isFractionLiteral
  dsimp only
  generalize dropMinus cs = body
  obtain ⟨hdigits, hbody⟩ := digits_append_rest body
  constructor
  · intro h
    split at h
    · rename_i below hslash
      rw [Bool.and_eq_true] at h
      rw [hslash] at hbody
      have habove : isDigits (body.takeWhile Char.isDigit) = true :=
        isDigits_iff.2 ⟨by simpa using h.1, hdigits⟩
      exact ⟨_, below, habove, h.2, hbody⟩
    · cases h
  · rintro ⟨above, below, habove, hbelow, heq⟩
    obtain ⟨hfilled, hall⟩ := isDigits_iff.1 habove
    obtain ⟨htake, hdrop⟩ := split_mark hall '/' rfl below
    rw [heq, hdrop, htake]
    simp [hfilled, hbelow]

/-! ## Reading literals -/

namespace Number

theorem readUnsigned_digits {ds : List Char} (h : isDigits ds = true) (negative : Bool) :
    readUnsigned negative ds = some ⟨negative, digitsValue ds, 0⟩ := by
  obtain ⟨htake, hdrop⟩ := split_digits h
  have hfilled : ds.isEmpty = false := by simpa using (isDigits_iff.1 h).1
  rw [readUnsigned, htake, hdrop]
  simp [splitFraction, readExponent, hfilled]

theorem readUnsigned_point {whole fraction : List Char} (hwhole : ∀ c ∈ whole, c.isDigit = true)
    (hfraction : isDigits fraction = true) (negative : Bool) :
    readUnsigned negative (whole ++ '.' :: fraction)
      = some ⟨negative, digitsValue (whole ++ fraction), -fraction.length⟩ := by
  obtain ⟨htake, hdrop⟩ := split_mark hwhole '.' rfl fraction
  obtain ⟨htake', hdrop'⟩ := split_digits hfraction
  have hfilled : fraction.isEmpty = false := by simpa using (isDigits_iff.1 hfraction).1
  rw [readUnsigned, htake, hdrop]
  simp [splitFraction, readExponent, htake', hdrop', hfilled]

/-- Without a plus sign in front the sign is an optional minus. -/
theorem splitSign_eq {cs : List Char} (h : cs.head? ≠ some '+') :
    splitSign cs = (cs.head? == some '-', dropMinus cs) := by
  unfold splitSign
  split
  · rfl
  · exact absurd rfl h
  · rename_i hminus _
    cases cs with
    | nil => rfl
    | cons c rest =>
      have hc : c ≠ '-' := by
        rintro rfl
        exact hminus rest rfl
      have hhead : ((c :: rest).head? == some '-') = false := by simp [hc]
      have hdrop : dropMinus (c :: rest) = c :: rest := by
        unfold dropMinus
        split
        · rename_i heq
          exact absurd (List.cons.inj heq).1 hc
        · rfl
      rw [hhead, hdrop]

/-- A decimal literal is read. -/
theorem read?_of_isDecimalLiteral {cs : List Char} (h : isDecimalLiteral cs = true) :
    ∃ x, read? cs = some x := by
  have hbody : ∀ negative, ∃ d, readUnsigned negative (dropMinus cs) = some d := by
    intro negative
    rcases isDecimalLiteral_iff.1 h with hdigits | ⟨whole, fraction, hwhole, hfraction, heq⟩
    · exact ⟨_, readUnsigned_digits hdigits negative⟩
    · rw [heq]
      exact ⟨_, readUnsigned_point hwhole hfraction negative⟩
  -- a plus sign is neither the minus sign nor a digit nor the point
  have hsign : cs.head? ≠ some '+' := by
    intro hplus
    obtain ⟨rest, rfl⟩ : ∃ rest, cs = '+' :: rest := by
      cases cs with
      | nil => cases hplus
      | cons c rest => exact ⟨rest, by rw [Option.some.inj hplus]⟩
    cases h
  obtain ⟨d, hd⟩ := hbody (cs.head? == some '-')
  refine ⟨d.toFloat, ?_⟩
  rw [read?, splitSign_eq hsign]
  dsimp only
  rw [hd]

end Number

/-! ## The value of a literal -/

/-- Digits after an optional minus sign are a decimal literal. -/
theorem isDecimalLiteral_digits {sign ds : List Char} (hsign : sign = [] ∨ sign = ['-'])
    (h : isDigits ds = true) : isDecimalLiteral (sign ++ ds) = true := by
  have hminus : ds.head? ≠ some '-' := by
    intro hhead
    have hdigit := (isDigits_iff.1 h).2 '-' (List.mem_of_head? hhead)
    exact absurd hdigit (by decide)
  rw [isDecimalLiteral_iff, dropMinus_append hsign hminus]
  exact Or.inl h

/-- Neither a sign nor a digit is a slash, so the first slash is the one after them. -/
theorem split_slash {sign above : List Char} (hsign : sign = [] ∨ sign = ['-'])
    (habove : isDigits above = true) (below : List Char) :
    (sign ++ above ++ '/' :: below).takeWhile (· != '/') = sign ++ above
    ∧ (sign ++ above ++ '/' :: below).dropWhile (· != '/') = '/' :: below := by
  apply split_run
  · intro c hc
    rw [bne_iff_ne]
    rintro rfl
    rcases List.mem_append.1 hc with hc | hc
    · rcases hsign with rfl | rfl
      · cases hc
      · exact absurd (List.mem_singleton.1 hc) (by decide)
    · exact absurd ((isDigits_iff.1 habove).2 '/' hc) (by decide)
  · intro c hc
    cases Option.some.inj hc
    rfl

/-- The two sides of a fraction literal are decimal literals. -/
theorem isDecimalLiteral_of_isFractionLiteral {cs : List Char}
    (h : isFractionLiteral cs = true) :
    isDecimalLiteral (cs.takeWhile (· != '/')) = true
    ∧ isDecimalLiteral ((cs.dropWhile (· != '/')).drop 1) = true := by
  obtain ⟨above, below, habove, hbelow, hbody⟩ := isFractionLiteral_iff.1 h
  obtain ⟨sign, hsign, hcs⟩ := sign_append_dropMinus cs
  rw [hbody, ← List.append_assoc] at hcs
  obtain ⟨htake, hdrop⟩ := split_slash hsign habove below
  rw [hcs, htake, hdrop]
  exact ⟨isDecimalLiteral_digits hsign habove, isDecimalLiteral_digits (Or.inl rfl) hbelow⟩

theorem literalValue?_of_isFractionLiteral {s : String}
    (h : isFractionLiteral (Text.trimmed s.toList) = true) :
    literalValue? s = some (literalValue s) := by
  obtain ⟨habove, hbelow⟩ := isDecimalLiteral_of_isFractionLiteral h
  obtain ⟨x, hx⟩ := Number.read?_of_isDecimalLiteral habove
  obtain ⟨y, hy⟩ := Number.read?_of_isDecimalLiteral hbelow
  rw [literalValue?, literalValue]
  rw [if_pos h, if_pos h, Number.read, Number.read, hx, hy]
  rfl

/-- The value of a text is not a number where the text cannot be read. -/
theorem literalValue_eq (s : String) : literalValue s = (literalValue? s).getD Number.nan := by
  by_cases h : isFractionLiteral (Text.trimmed s.toList) = true
  · rw [literalValue?_of_isFractionLiteral h, Option.getD_some]
  · rw [literalValue?, literalValue]
    rw [if_neg h, if_neg h, Number.read]

/-- A number literal is read: the value of one is never a fallback. -/
theorem literalValue?_of_isNumberLiteral {s : String}
    (h : isNumberLiteral (Text.trimmed s.toList) = true) :
    literalValue? s = some (literalValue s) := by
  by_cases hfraction : isFractionLiteral (Text.trimmed s.toList) = true
  · exact literalValue?_of_isFractionLiteral hfraction
  · have hdecimal : isDecimalLiteral (Text.trimmed s.toList) = true := by
      rw [isNumberLiteral, Bool.or_eq_true] at h
      exact h.resolve_right hfraction
    obtain ⟨x, hx⟩ := Number.read?_of_isDecimalLiteral hdecimal
    have hread : literalValue? s = some x := by
      rw [literalValue?]
      rw [if_neg hfraction, hx]
    rw [literalValue_eq, hread, Option.getD_some]

/-! ## The kind of a text -/

/-- A text that is an operand is the symbol of an operator, blanks at its ends aside. -/
theorem ofSymbol?_of_classify {s : String} (h : classify s = .operand) :
    ∃ o, Operator.ofSymbol? (Text.trim s) = some o := by
  rw [classify] at h
  split at h
  · rename_i hsome
    exact Option.isSome_iff_exists.1 hsome
  · split at h <;> cases h

/-- A text that is a number is a number literal, blanks at its ends aside. -/
theorem isNumberLiteral_of_classify {s : String} (h : classify s = .number) :
    isNumberLiteral (Text.trim s).toList = true := by
  rw [classify] at h
  split at h
  · cases h
  · split at h
    · rename_i hliteral
      exact hliteral
    · cases h

end TagCalc
