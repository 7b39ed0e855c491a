/-
  TagCalc.Proofs.Number.Grammar

  The grammar of the texts that stand for doubles, and the reader against it. In words:

      double   ::= sign? (numeral | "inf" | "infinity" | "nan")
      numeral  ::= (digit+ | digit+ "." digit* | digit* "." digit+) exponent?
      exponent ::= "e" sign? digit+
      sign     ::= "+" | "-"

  where the case of a letter does not matter. The reader takes just the texts of this
  grammar (`read?_isSome_iff`). A numeral holds no letter besides the mark of its
  exponent (`Numeral.isPlainChar`), which keeps numerals and words apart.
-/

import TagCalc.Proofs.Formula.Literal

namespace TagCalc.Number

/-! ## The grammar -/

/-- A sign, or none. -/
def Sign (cs : List Char) : Prop :=
  cs = [] ∨ cs = ['-'] ∨ cs = ['+']

/-- Digits, with a point after, between or before them if there is one. -/
inductive Mantissa : List Char → Prop
  | digits {ds : List Char} (filled : isDigits ds = true) : Mantissa ds
  | pointAfter {whole fraction : List Char} (filled : isDigits whole = true)
      (digits : ∀ c ∈ fraction, c.isDigit = true) : Mantissa (whole ++ '.' :: fraction)
  | pointBefore {whole fraction : List Char} (digits : ∀ c ∈ whole, c.isDigit = true)
      (filled : isDigits fraction = true) : Mantissa (whole ++ '.' :: fraction)

/-- An exponent of ten with its mark, or none. -/
inductive Exponent : List Char → Prop
  | absent : Exponent []
  | marked {mark : Char} {sign ds : List Char} (known : mark = 'e' ∨ mark = 'E')
      (signed : Sign sign) (filled : isDigits ds = true) : Exponent (mark :: (sign ++ ds))

/-- A decimal number without a sign. -/
def Numeral (cs : List Char) : Prop :=
  ∃ mantissa exponent, Mantissa mantissa ∧ Exponent exponent ∧ cs = mantissa ++ exponent

/-- A word for infinity, in any case. -/
def InfinityWord (cs : List Char) : Prop :=
  cs.map Char.toLower = ['i', 'n', 'f']
  ∨ cs.map Char.toLower = ['i', 'n', 'f', 'i', 'n', 'i', 't', 'y']

/-- The word for what is not a number, in any case. -/
def NaNWord (cs : List Char) : Prop :=
  cs.map Char.toLower = ['n', 'a', 'n']

/-- A text with a sign or none in front of a body of some shape. -/
def Signed (body : List Char → Prop) (cs : List Char) : Prop :=
  ∃ sign rest, Sign sign ∧ body rest ∧ cs = sign ++ rest

/-- A text that stands for a double. -/
def Written (cs : List Char) : Prop :=
  Signed Numeral cs ∨ Signed InfinityWord cs ∨ Signed NaNWord cs

/-! ## Signs -/

/-- The sign that is split off is one. -/
theorem exists_sign_splitSign (cs : List Char) :
    ∃ sign, Sign sign ∧ cs = sign ++ (splitSign cs).2 := by
  unfold splitSign
  split
  · exact ⟨['-'], Or.inr (Or.inl rfl), rfl⟩
  · exact ⟨['+'], Or.inr (Or.inr rfl), rfl⟩
  · exact ⟨[], Or.inl rfl, rfl⟩

/-- A sign is split off a body that does not start with one itself. -/
theorem splitSign_append {sign body : List Char} (hsign : Sign sign)
    (hbody : body.head? ≠ some '-' ∧ body.head? ≠ some '+') :
    (splitSign (sign ++ body)).2 = body := by
  rcases hsign with rfl | rfl | rfl
  · rw [List.nil_append]
    unfold splitSign
    split
    · exact absurd rfl hbody.1
    · exact absurd rfl hbody.2
    · rfl
  · rfl
  · rfl

theorem head?_isDigits {ds : List Char} (h : isDigits ds = true) :
    ∃ d, d.isDigit = true ∧ ds.head? = some d := by
  obtain ⟨hfilled, hdigits⟩ := isDigits_iff.1 h
  cases ds with
  | nil => exact absurd rfl hfilled
  | cons d rest => exact ⟨d, hdigits d (List.mem_cons_self ..), rfl⟩

/-- No sign is a digit. -/
theorem head?_ne_sign_of_isDigit {cs : List Char} {d : Char} (hd : d.isDigit = true)
    (hhead : cs.head? = some d) : cs.head? ≠ some '-' ∧ cs.head? ≠ some '+' := by
  rw [hhead]
  constructor
  · rintro ⟨⟩
    exact absurd hd (by decide)
  · rintro ⟨⟩
    exact absurd hd (by decide)

/-! ## Numerals -/

theorem readExponent_isSome_iff {cs : List Char} :
    (readExponent cs).isSome = true ↔ Exponent cs := by
  constructor
  · intro h
    cases cs with
    | nil => exact .absent
    | cons mark rest =>
      rw [readExponent] at h
      dsimp only at h
      split at h
      · rename_i hread
        obtain ⟨sign, hsign, hrest⟩ := exists_sign_splitSign rest
        have hmark : mark = 'e' ∨ mark = 'E' := by
          simp only [Bool.and_eq_true, Bool.or_eq_true, beq_iff_eq] at hread
          exact hread.1.1
        have hdigits : isDigits (splitSign rest).2 = true := by
          simp only [Bool.and_eq_true] at hread
          rw [isDigits, hread.1.2, hread.2]
          rfl
        rw [hrest]
        exact .marked hmark hsign hdigits
      · cases h
  · intro h
    cases h with
    | absent => rfl
    | @marked mark sign ds known signed filled =>
      obtain ⟨d, hd, hhead⟩ := head?_isDigits filled
      have hsplit := splitSign_append signed (head?_ne_sign_of_isDigit hd hhead)
      have hmark : (mark == 'e' || mark == 'E') = true := by simpa using known
      have hread : ((mark == 'e' || mark == 'E') && !ds.isEmpty && ds.all Char.isDigit) = true := by
        rw [Bool.and_assoc, hmark]
        exact filled
      rw [readExponent]
      dsimp only
      rw [hsplit, if_pos hread]
      rfl

/-- An exponent starts with a letter, which is neither a digit nor the point. -/
theorem Exponent.head?_cases {cs : List Char} (h : Exponent cs) :
    ∀ c, cs.head? = some c → c.isDigit = false ∧ c ≠ '.' := by
  cases h with
  | absent => nofun
  | marked known signed filled =>
    intro c hc
    cases Option.some.inj hc
    rcases known with rfl | rfl
    · decide
    · decide

/-- The reader goes on if the text has a digit before or after the point, and then needs
    an exponent. -/
theorem readUnsigned_isSome {negative : Bool} {cs whole body fraction exponent : List Char}
    (hwhole : cs.takeWhile Char.isDigit = whole) (hbody : cs.dropWhile Char.isDigit = body)
    (hsplit : splitFraction body = (fraction, exponent)) :
    (readUnsigned negative cs).isSome = true
      ↔ (whole ≠ [] ∨ fraction ≠ []) ∧ Exponent exponent := by
  rw [readUnsigned, hwhole, hbody, hsplit]
  dsimp only
  by_cases hfilled : (whole.isEmpty && fraction.isEmpty) = true
  · rw [if_pos hfilled]
    rw [Bool.and_eq_true, List.isEmpty_iff, List.isEmpty_iff] at hfilled
    simp [hfilled]
  · rw [if_neg hfilled, Option.isSome_map, readExponent_isSome_iff]
    rw [Bool.and_eq_true, List.isEmpty_iff, List.isEmpty_iff, Decidable.not_and_iff_not_or_not]
      at hfilled
    rw [and_iff_right hfilled]

/-- A text that starts with a point has the digits after it as its fraction, any other
    text has none. -/
theorem splitFraction_cases (cs : List Char) :
    (∃ fraction rest, splitFraction cs = (fraction, rest) ∧ cs = '.' :: (fraction ++ rest)
      ∧ ∀ c ∈ fraction, c.isDigit = true)
    ∨ splitFraction cs = ([], cs) := by
  unfold splitFraction
  split
  · rename_i rest
    obtain ⟨hfraction, hrest⟩ := digits_append_rest rest
    exact Or.inl ⟨_, _, rfl, congrArg _ hrest, hfraction⟩
  · exact Or.inr rfl

/-- The reader takes a text without a sign just when it is a numeral. -/
theorem readUnsigned_isSome_iff {negative : Bool} {cs : List Char} :
    (readUnsigned negative cs).isSome = true ↔ Numeral cs := by
  constructor
  · intro h
    obtain ⟨hwhole, hcs⟩ := digits_append_rest cs
    rcases splitFraction_cases (cs.dropWhile Char.isDigit) with
      ⟨fraction, exponent, hsplit, hbody, hfraction⟩ | hsplit
    · obtain ⟨hfilled, hexponent⟩ := (readUnsigned_isSome rfl rfl hsplit).1 h
      refine ⟨cs.takeWhile Char.isDigit ++ '.' :: fraction, exponent, ?_, hexponent, ?_⟩
      · rcases hfilled with hfilled | hfilled
        · exact .pointAfter (isDigits_iff.2 ⟨hfilled, hwhole⟩) hfraction
        · exact .pointBefore hwhole (isDigits_iff.2 ⟨hfilled, hfraction⟩)
      · rw [List.append_assoc, List.cons_append, ← hbody]
        exact hcs
    · obtain ⟨hfilled, hexponent⟩ := (readUnsigned_isSome rfl rfl hsplit).1 h
      have hdigits := isDigits_iff.2 ⟨hfilled.resolve_right (absurd rfl), hwhole⟩
      exact ⟨_, _, .digits hdigits, hexponent, hcs⟩
  · rintro ⟨mantissa, exponent, hmantissa, hexponent, rfl⟩
    have hstop : ∀ c, exponent.head? = some c → c.isDigit = false :=
      fun c hc => (hexponent.head?_cases c hc).1
    -- where there is a point, the reader goes through two runs of digits
    have hpoint : ∀ {whole fraction : List Char}, (∀ c ∈ whole, c.isDigit = true) →
        (∀ c ∈ fraction, c.isDigit = true) → (whole ≠ [] ∨ fraction ≠ []) →
        (readUnsigned negative ((whole ++ '.' :: fraction) ++ exponent)).isSome = true := by
      intro whole fraction hwhole hfraction hfilled
      obtain ⟨htake, hdrop⟩ := split_mark hwhole '.' rfl (fraction ++ exponent)
      obtain ⟨htake', hdrop'⟩ := split_run hfraction hstop
      have hsplit : splitFraction ('.' :: (fraction ++ exponent)) = (fraction, exponent) := by
        rw [splitFraction, htake', hdrop']
      rw [List.append_assoc, List.cons_append]
      exact (readUnsigned_isSome htake hdrop hsplit).2 ⟨hfilled, hexponent⟩
    cases hmantissa with
    | digits filled =>
      obtain ⟨hfilled, hdigits⟩ := isDigits_iff.1 filled
      obtain ⟨htake, hdrop⟩ := split_run hdigits hstop
      have hsplit : splitFraction exponent = ([], exponent) := by
        unfold splitFraction
        split
        · exact absurd rfl (hexponent.head?_cases '.' rfl).2
        · rfl
      exact (readUnsigned_isSome htake hdrop hsplit).2 ⟨Or.inl hfilled, hexponent⟩
    | pointAfter filled digits =>
      obtain ⟨hfilled, hdigits⟩ := isDigits_iff.1 filled
      exact hpoint hdigits digits (Or.inl hfilled)
    | pointBefore digits filled =>
      obtain ⟨hfilled, hdigits⟩ := isDigits_iff.1 filled
      exact hpoint digits hdigits (Or.inr hfilled)

theorem Mantissa.exists_head {cs : List Char} (h : Mantissa cs) :
    ∃ c rest, cs = c :: rest ∧ (c.isDigit = true ∨ c = '.') := by
  cases h with
  | digits filled =>
    obtain ⟨d, hd, hhead⟩ := head?_isDigits filled
    obtain ⟨rest, rfl⟩ := List.head?_eq_some_iff.1 hhead
    exact ⟨d, rest, rfl, Or.inl hd⟩
  | pointAfter filled digits =>
    obtain ⟨d, hd, hhead⟩ := head?_isDigits filled
    obtain ⟨rest, rfl⟩ := List.head?_eq_some_iff.1 hhead
    exact ⟨d, _, rfl, Or.inl hd⟩
  | @pointBefore whole fraction digits filled =>
    cases whole with
    | nil => exact ⟨'.', fraction, rfl, Or.inr rfl⟩
    | cons d rest => exact ⟨d, _, rfl, Or.inl (digits d (List.mem_cons_self ..))⟩

theorem Mantissa.numeral {cs : List Char} (h : Mantissa cs) : Numeral cs :=
  ⟨cs, [], h, .absent, (List.append_nil cs).symm⟩

/-- A numeral starts with a digit or the point. -/
theorem Numeral.head?_ne_sign {cs : List Char} (h : Numeral cs) :
    cs.head? ≠ some '-' ∧ cs.head? ≠ some '+' := by
  obtain ⟨mantissa, exponent, hmantissa, -, rfl⟩ := h
  obtain ⟨c, rest, rfl, hc | rfl⟩ := hmantissa.exists_head
  · exact head?_ne_sign_of_isDigit hc rfl
  · exact ⟨nofun, nofun⟩

/-! ## Words -/

/-- A word starts with one of its letters. -/
theorem head?_ne_sign_of_toLower {cs word : List Char} (h : cs.map Char.toLower = word)
    (hword : word.head? ≠ some '-' ∧ word.head? ≠ some '+') :
    cs.head? ≠ some '-' ∧ cs.head? ≠ some '+' := by
  have hhead : cs.head?.map Char.toLower = word.head? := by rw [← List.head?_map, h]
  refine ⟨fun hc => hword.1 ?_, fun hc => hword.2 ?_⟩
  · rw [← hhead, hc]
    rfl
  · rw [← hhead, hc]
    rfl

theorem InfinityWord.head?_ne_sign {cs : List Char} (h : InfinityWord cs) :
    cs.head? ≠ some '-' ∧ cs.head? ≠ some '+' := by
  rcases h with h | h
  · exact head?_ne_sign_of_toLower h ⟨by decide, by decide⟩
  · exact head?_ne_sign_of_toLower h ⟨by decide, by decide⟩

theorem NaNWord.head?_ne_sign {cs : List Char} (h : NaNWord cs) :
    cs.head? ≠ some '-' ∧ cs.head? ≠ some '+' :=
  head?_ne_sign_of_toLower h ⟨by decide, by decide⟩

/-- A word that is read stands for an infinity, or for what is not a number. -/
theorem readWord_cases {negative : Bool} {cs : List Char} {x : Float}
    (h : readWord negative cs = some x) : InfinityWord cs ∨ NaNWord cs ∧ x = nan := by
  unfold readWord at h
  split at h
  · rename_i hword
    exact Or.inl (Or.inl hword)
  · rename_i hword
    exact Or.inl (Or.inr hword)
  · rename_i hword
    exact Or.inr ⟨hword, (Option.some.inj h).symm⟩
  · cases h

theorem readWord_isSome {negative : Bool} {cs : List Char} (h : InfinityWord cs ∨ NaNWord cs) :
    (readWord negative cs).isSome = true := by
  unfold readWord
  rcases h with (h | h) | h
  · rw [h]
    rfl
  · rw [h]
    rfl
  · rw [NaNWord] at h
    rw [h]
    rfl

/-! ## The reader -/

/-- What is read is a signed numeral, or a signed word. -/
theorem read?_cases {cs : List Char} {x : Float} (h : read? cs = some x) :
    Signed Numeral cs ∨ Signed InfinityWord cs ∨ Signed NaNWord cs ∧ x = nan := by
  obtain ⟨sign, hsign, hcs⟩ := exists_sign_splitSign cs
  unfold read? at h
  dsimp only at h
  split at h
  · rename_i hread
    exact Or.inl ⟨sign, _, hsign, readUnsigned_isSome_iff.1 (Option.isSome_of_eq_some hread), hcs⟩
  · rcases readWord_cases h with hword | ⟨hword, hnan⟩
    · exact Or.inr (Or.inl ⟨sign, _, hsign, hword, hcs⟩)
    · exact Or.inr (Or.inr ⟨⟨sign, _, hsign, hword, hcs⟩, hnan⟩)

/-- The reader takes just the texts of the grammar. -/
theorem read?_isSome_iff {cs : List Char} : (read? cs).isSome = true ↔ Written cs := by
  constructor
  · intro h
    obtain ⟨x, hx⟩ := Option.isSome_iff_exists.1 h
    rcases read?_cases hx with hnumeral | hword | ⟨hword, -⟩
    · exact Or.inl hnumeral
    · exact Or.inr (Or.inl hword)
    · exact Or.inr (Or.inr hword)
  · intro h
    unfold read?
    dsimp only
    split
    · rfl
    · rename_i hnone
      -- the body is a word then, since the reader would have taken a numeral
      rcases h with ⟨sign, body, hsign, hbody, rfl⟩ | ⟨sign, body, hsign, hbody, rfl⟩
        | ⟨sign, body, hsign, hbody, rfl⟩
      · rw [splitSign_append hsign hbody.head?_ne_sign] at hnone
        have hread : (readUnsigned (splitSign (sign ++ body)).1 body).isSome = true :=
          readUnsigned_isSome_iff.2 hbody
        rw [hnone] at hread
        cases hread
      · rw [splitSign_append hsign hbody.head?_ne_sign]
        exact readWord_isSome (Or.inl hbody)
      · rw [splitSign_append hsign hbody.head?_ne_sign]
        exact readWord_isSome (Or.inr hbody)

end TagCalc.Number
