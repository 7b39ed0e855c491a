/-
  TagCalc.Proofs.Formula.Invalid

  A value that is not a number makes the result of a formula invalid, with one
  exception: a power whose exponent is zero, or whose base is one, is one whatever the
  other number is (`evaluate_of_givesOne`). Each token after the value that is not a
  number keeps the result from being one (`isNaN_take_succ`), unless it makes such a
  power.
-/

import TagCalc.Proofs.Formula.Alternation
import TagCalc.Proofs.Formula.Evaluation
import TagCalc.Proofs.Formula.WellFormed
import TagCalc.Proofs.Number.NotANumber

namespace TagCalc

/-- An operator other than a bracket does not make a number of what is not one, unless
    it raises to the power zero or raises one. -/
theorem Operator.isNaN_apply {o : Operator} (hgrouping : o.isGrouping = false) {r x : Float}
    (h : r.isNaN = true ∨ x.isNaN = true)
    (hpow : o = .pow → ¬((x == 0) = true ∨ (r == 1) = true)) (kind : Kind) :
    (o.apply r x kind).isNaN = true := by
  cases o with
  | add => exact Number.isNaN_add h
  | sub => exact Number.isNaN_sub h
  | mul => exact Number.isNaN_mul h
  | div =>
    apply Number.isNaN_div
    rcases h with hr | hx
    · exact Or.inl hr
    · -- what is not a number is not the literal zero that is left out
      rw [Number.beq_of_isNaN hx, Bool.and_false, if_neg Bool.false_ne_true]
      exact Or.inr hx
  | pow =>
    obtain ⟨hzero, hone⟩ := not_or.1 (hpow rfl)
    have hnan : (r.isNaN || x.isNaN) = true := by
      rw [Bool.or_eq_true]
      exact h
    show (power r x).isNaN = true
    rw [power, if_neg hzero, if_neg hone, if_pos hnan]
    exact Number.isNaN_nan
  | opening => cases hgrouping
  | closing => cases hgrouping

/-! ## Powers that are one -/

/-- The value at a position is the exponent of a power that is one whatever one of its
    two numbers is: the exponent is zero, or the base is one. -/
def GivesOne (f : List Token) (k : Nat) : Prop :=
  ∃ t x, f[k]? = some t ∧ t.number? = some x ∧ latched? (f.take k) = some .pow
    ∧ ((x == 0) = true ∨ (evaluate (f.take k) == 1) = true)

theorem take_succ_of_getElem? {f : List Token} {k : Nat} {t : Token} (h : f[k]? = some t) :
    f.take (k + 1) = f.take k ++ [t] := by
  rw [List.take_add_one, h]
  rfl

/-- Such a power is one. -/
theorem evaluate_of_givesOne {f : List Token} {k : Nat} (h : GivesOne f k) :
    evaluate (f.take (k + 1)) = 1 := by
  obtain ⟨t, x, ht, hx, hlatched, hone⟩ := h
  rw [take_succ_of_getElem? ht, evaluate_append_value (ne_nil_of_latched? hlatched) hx,
    hlatched]
  show power (evaluate (f.take k)) x = 1
  rw [power]
  rcases hone with hzero | hbase
  · rw [if_pos hzero]
  · rw [if_pos hbase, ite_self]

/-- Only a power can be one in this way. -/
theorem not_givesOne {f : List Token} (h : ∀ t ∈ f, t.operator? ≠ some .pow) (k : Nat) :
    ¬GivesOne f k := by
  rintro ⟨-, -, -, -, hlatched, -⟩
  have hmem := (List.mem_filter.1 (List.mem_of_getLast? hlatched)).1
  obtain ⟨t, ht, hpow⟩ := List.mem_filterMap.1 hmem
  exact h t (List.mem_of_mem_take ht) hpow

/-! ## Formulas without brackets -/

/-- Values and operators in turn, a value first, and no brackets. -/
structure Plain (f : List Token) : Prop where
  alternates : Alternating (f.map (·.kind))
  operator : ∀ t ∈ f, t.kind = .operand → ∃ o, t.operator? = some o ∧ o.isGrouping = false

/-- Every value but the first one comes after an operator. -/
theorem Plain.latched {f : List Token} (h : Plain f) {k : Nat} {t : Token}
    (ht : f[k + 1]? = some t) (hvalue : t.kind ≠ .operand) :
    ∃ o, latched? (f.take (k + 1)) = some o := by
  have hlt : k < f.length := Nat.lt_of_succ_lt (List.getElem?_eq_some_iff.1 ht).1
  have hu : f[k]? = some f[k] := List.getElem?_eq_getElem hlt
  -- the token before a value is no value, so it has an operator
  have hoperand : f[k].kind = .operand := by
    rw [← Kind.isValue_eq_false_iff, h.alternates.isValue_eq_not hu ht, Bool.not_eq_false']
    rw [← Bool.not_eq_false, Kind.isValue_eq_false_iff]
    exact hvalue
  obtain ⟨o, ho, hgrouping⟩ := h.operator f[k] (List.getElem_mem hlt) hoperand
  refine ⟨o, ?_⟩
  rw [take_succ_of_getElem? hu, latched?_append, latched?_singleton, ho]
  simp [Option.filter, hgrouping]

/-! ## Results that are not a number -/

/-- A result that is not a number stays so at the next token. -/
theorem isNaN_take_succ {f : List Token} {k : Nat} {t : Token} (ht : f[k]? = some t)
    (hone : ¬GivesOne f k) (h : (evaluate (f.take k)).isNaN = true) :
    (evaluate (f.take (k + 1))).isNaN = true := by
  rw [take_succ_of_getElem? ht]
  by_cases hk : t.kind = .operand
  · rw [evaluate_append_operand _ hk]
    exact h
  · obtain ⟨x, hx⟩ := Token.number?_of_value hk
    have hfilled : f.take k ≠ [] := by
      -- the empty formula is worth zero, which is a number
      intro hempty
      rw [hempty] at h
      cases h
    rw [evaluate_append_value hfilled hx]
    cases hlatched : latched? (f.take k) with
    | none => exact h
    | some o =>
      apply Operator.isNaN_apply (isGrouping_of_latched? hlatched) (Or.inl h)
      rintro rfl
      exact fun hpow => hone ⟨t, x, ht, hx, hlatched, hpow⟩

/-- A value that is not a number makes the result so. -/
theorem isNaN_of_value {f : List Token} (h : Plain f) {k : Nat} {t : Token} {x : Float}
    (ht : f[k]? = some t) (hx : t.number? = some x) (hone : ¬GivesOne f k)
    (hnan : x.isNaN = true) : (evaluate (f.take (k + 1))).isNaN = true := by
  rw [take_succ_of_getElem? ht]
  cases k with
  | zero =>
    rw [List.take_zero, List.nil_append, evaluate_singleton_value hx]
    exact hnan
  | succ k =>
    obtain ⟨o, hlatched⟩ := h.latched ht (Token.value_of_number? hx)
    rw [evaluate_append_value (ne_nil_of_latched? hlatched) hx, hlatched]
    apply Operator.isNaN_apply (isGrouping_of_latched? hlatched) (Or.inr hnan)
    rintro rfl
    exact fun hpow => hone ⟨t, x, ht, hx, hlatched, hpow⟩

/-- From a value that is not a number on, no result is one, as long as no power is one
    all the same. -/
theorem isNaN_take {f : List Token} (h : Plain f) {i : Nat} {t : Token} {x : Float}
    (ht : f[i]? = some t) (hx : t.number? = some x) (hnan : x.isNaN = true)
    (hone : ∀ k, i ≤ k → ¬GivesOne f k) {n : Nat} (hi : i < n) (hn : n ≤ f.length) :
    (evaluate (f.take n)).isNaN = true := by
  -- the value itself comes last in the first prefix, and each longer one adds a token
  induction n with
  | zero => omega
  | succ n ih =>
    by_cases hlast : i = n
    · subst hlast
      exact isNaN_of_value h ht hx (hone i (Nat.le_refl i)) hnan
    · have hn' : f[n]? = some f[n] := List.getElem?_eq_getElem hn
      exact isNaN_take_succ hn' (hone n (by omega)) (ih (by omega) (by omega))

theorem isNaN_evaluate {f : List Token} (h : Plain f) {i : Nat} {t : Token} {x : Float}
    (ht : f[i]? = some t) (hx : t.number? = some x) (hnan : x.isNaN = true)
    (hone : ∀ k, i ≤ k → ¬GivesOne f k) : (evaluate f).isNaN = true := by
  have hlt : i < f.length := (List.getElem?_eq_some_iff.1 ht).1
  have hall := isNaN_take h ht hx hnan hone hlt (Nat.le_refl _)
  rw [List.take_length] at hall
  exact hall

theorem resultText_of_isNaN {x : Float} (h : x.isNaN = true) : resultText x = invalidResult := by
  rw [resultText, Number.isFinite_of_isNaN h]
  rfl

/-! ## Built formulas -/

theorem Store.build_alternates {texts : List String} {catalog : Catalog} {built : Store}
    (h : Store.build texts catalog = .ok built) : Alternating built.kinds := by
  refine Store.appendTexts_induction (P := fun s => Alternating s.kinds) ?_ ?_ h
  · intro raw _ s htakes hs
    rw [Store.takes, Bool.and_eq_true] at htakes
    exact hs.appendToken htakes.2 _ _
  · exact .nil

/-- The value of each token is one of the texts, without the blanks around it. -/
theorem Store.value_of_mem_build {texts : List String} {catalog : Catalog} {built : Store}
    (h : Store.build texts catalog = .ok built) :
    ∀ t ∈ built.tokens, ∃ raw ∈ texts, t.value = Text.trim raw := by
  refine Store.appendTexts_induction
    (P := fun s => ∀ t ∈ s.tokens, ∃ raw ∈ texts, t.value = Text.trim raw) ?_ ?_ h
  · intro raw hraw s _ hs t ht
    rw [Store.withText, Store.tokens_append] at ht
    rcases List.mem_append.1 ht with ht | ht
    · exact hs t ht
    · rw [List.mem_singleton.1 ht]
      exact ⟨raw, hraw, rfl⟩
  · intro t ht
    cases ht

theorem Plain.build {texts : List String} {catalog : Catalog} {built : Store}
    (h : Store.build texts catalog = .ok built)
    (hplain : ∀ raw ∈ texts, Text.trim raw ≠ "(" ∧ Text.trim raw ≠ ")") :
    Plain built.tokens := by
  refine ⟨Store.build_alternates h, ?_⟩
  intro t ht hkind
  obtain ⟨o, ho, hvalue⟩ := (Store.WellFormed.build h t ht).operand hkind
  refine ⟨o, ho, ?_⟩
  obtain ⟨raw, hraw, htext⟩ := Store.value_of_mem_build h t ht
  obtain ⟨hopening, hclosing⟩ := hplain raw hraw
  -- the symbol of a bracket would be one of the texts
  rw [← htext, hvalue] at hopening hclosing
  cases o with
  | opening => exact absurd rfl hopening
  | closing => exact absurd rfl hclosing
  | add => rfl
  | sub => rfl
  | mul => rfl
  | div => rfl
  | pow => rfl

/-- A token that is the power operator has its symbol. -/
theorem Token.WellFormed.value_of_pow {t : Token} (h : t.WellFormed)
    (hpow : t.operator? = some .pow) : t.value = "^" := by
  obtain ⟨o, ho, hvalue⟩ := h.operand (kind_of_operator? hpow)
  obtain rfl : o = .pow := Option.some.inj (ho.symm.trans hpow)
  exact hvalue

/-- In a formula built from texts without brackets, a value that is not a number makes
    the result invalid, unless it or a value after it is the exponent of a power that is
    one whatever one of its numbers is. What came before such a power is lost: the
    result there is one. Without the power operator there is no such power. -/
theorem result_invalid_of_value (texts : List String) (catalog : Catalog) (built : Store)
    (hbuilt : Store.build texts catalog = .ok built)
    (hplain : ∀ raw ∈ texts, Text.trim raw ≠ "(" ∧ Text.trim raw ≠ ")") :
    (∀ i t x, built.tokens[i]? = some t → t.number? = some x → x.isNaN = true →
      (∀ k, i ≤ k → ¬GivesOne built.tokens k) →
      (evaluate built.tokens).isNaN = true ∧ resultText (evaluate built.tokens) = "Invalid")
    ∧ (∀ k, GivesOne built.tokens k → evaluate (built.tokens.take (k + 1)) = 1)
    ∧ ((∀ raw ∈ texts, Text.trim raw ≠ "^") → ∀ k, ¬GivesOne built.tokens k) := by
  refine ⟨?_, fun k => evaluate_of_givesOne, ?_⟩
  · intro i t x ht hx hnan hone
    have hinvalid := isNaN_evaluate (.build hbuilt hplain) ht hx hnan hone
    exact ⟨hinvalid, resultText_of_isNaN hinvalid⟩
  · intro hnopow
    apply not_givesOne
    intro t ht hpow
    obtain ⟨raw, hraw, htext⟩ := Store.value_of_mem_build hbuilt t ht
    have hvalue := (Store.WellFormed.build hbuilt t ht).value_of_pow hpow
    exact hnopow raw hraw (htext.symm.trans hvalue)

/-- The sum of a tag whose value is no number, and two. -/
def labelPlusTwo : Store where
  tokens :=
    [⟨1, "label", .tag, some ⟨"1", "label", "notes", .text "n/a"⟩⟩, ⟨2, "+", .operand, none⟩,
      ⟨3, "2", .number, none⟩]
  issued := 3
  revision := 3

theorem result_invalid_of_value_label :
    Store.build ["label", "+", "2"] [⟨"1", "label", "notes", .text "n/a"⟩] = .ok labelPlusTwo
    ∧ (evaluate labelPlusTwo.tokens).isNaN = true
    ∧ resultText (evaluate labelPlusTwo.tokens) = "Invalid" := by
  have hbuilt : Store.build ["label", "+", "2"] [⟨"1", "label", "notes", .text "n/a"⟩]
      = .ok labelPlusTwo := rfl
  obtain ⟨hinvalid, -, hnone⟩ := result_invalid_of_value ["label", "+", "2"]
    [⟨"1", "label", "notes", .text "n/a"⟩] labelPlusTwo hbuilt (by decide)
  exact ⟨hbuilt, hinvalid 0 _ Number.nan rfl rfl rfl fun k _ => hnone (by decide) k⟩

/-- Zero by zero to the power zero, and one to the power zero by zero, are one. -/
theorem result_valid_with_value_not_a_number :
    (∃ built, Store.build ["0/0", "^", "0"] [] = .ok built
      ∧ (∃ t x, built.tokens[0]? = some t ∧ t.number? = some x ∧ x.isNaN = true)
      ∧ (evaluate built.tokens).isNaN = false ∧ resultText (evaluate built.tokens) = "1")
    ∧ ∃ built, Store.build ["1", "^", "0/0"] [] = .ok built
      ∧ (∃ t x, built.tokens[2]? = some t ∧ t.number? = some x ∧ x.isNaN = true)
      ∧ (evaluate built.tokens).isNaN = false ∧ resultText (evaluate built.tokens) = "1" := by
  refine ⟨⟨_, rfl, ⟨_, _, rfl, rfl, ?_⟩, ?_, ?_⟩, ⟨_, rfl, ⟨_, _, rfl, rfl, ?_⟩, ?_, ?_⟩⟩
  · rfl
  · rfl
  · rfl
  · rfl
  · rfl
  · rfl

end TagCalc
