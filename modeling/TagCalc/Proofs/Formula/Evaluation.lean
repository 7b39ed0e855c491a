/-
  TagCalc.Proofs.Formula.Evaluation

  The value of a formula as a recursion on its last token. All that a formula leaves
  to the tokens that follow it is its value and the operator that applies next, which
  is its last one that is no bracket (`Reduction.of_eq`). So a value is read when its
  token comes and never again, and brackets may be left out wherever they stand
  behind another token (`evaluate_filter_brackets`).
-/

import TagCalc.Formula.Evaluation

namespace TagCalc

/-- Whether a token is a bracket. -/
def Token.isBracket (t : Token) : Bool := t.operator?.any Operator.isGrouping

/-- The operator that applies to a value after some tokens: of their operators that
    are no brackets, the last one. -/
def latched? (f : List Token) : Option Operator :=
  ((f.filterMap Token.operator?).filter (!·.isGrouping)).getLast?

namespace Token

theorem operator?_of_value {t : Token} (h : t.kind ≠ .operand) : t.operator? = none := by
  unfold operator?
  cases hk : t.kind with
  | tag => rfl
  | number => rfl
  | operand => exact absurd hk h

theorem kind_of_operator? {t : Token} {o : Operator} (h : t.operator? = some o) :
    t.kind = .operand := by
  by_cases hk : t.kind = .operand
  · exact hk
  · rw [operator?_of_value hk] at h
    cases h

theorem number?_of_value {t : Token} (h : t.kind ≠ .operand) : ∃ x, t.number? = some x := by
  unfold number?
  cases hk : t.kind with
  | tag => exact ⟨_, rfl⟩
  | number => exact ⟨_, rfl⟩
  | operand => exact absurd hk h

theorem number?_of_operand {t : Token} (h : t.kind = .operand) : t.number? = none := by
  unfold number?
  rw [h]

/-- A token that has a number has no operator. -/
theorem value_of_number? {t : Token} {x : Float} (h : t.number? = some x) :
    t.kind ≠ .operand := by
  intro hk
  rw [number?_of_operand hk] at h
  cases h

end Token

/-! ## The operator that applies next -/

theorem latched?_append (f g : List Token) :
    latched? (f ++ g) = (latched? g).or (latched? f) := by
  rw [latched?, List.filterMap_append, List.filter_append, List.getLast?_append]
  rfl

/-- A single token is latched if it is an operator other than a bracket. -/
theorem latched?_singleton (t : Token) : latched? [t] = t.operator?.filter (!·.isGrouping) := by
  unfold latched?
  cases ho : t.operator? with
  | none => simp [ho]
  | some o => cases hg : o.isGrouping <;> simp [ho, hg, Option.filter]

theorem latched?_cons (t : Token) (rest : List Token) :
    latched? (t :: rest) = (latched? rest).or (latched? [t]) := latched?_append [t] rest

theorem latched?_value {t : Token} (h : t.kind ≠ .operand) : latched? [t] = none := by
  rw [latched?_singleton, Token.operator?_of_value h, Option.filter_none]

theorem ne_nil_of_latched? {f : List Token} {o : Operator} (h : latched? f = some o) :
    f ≠ [] := by
  rintro rfl
  cases h

/-- What is latched is no bracket. -/
theorem isGrouping_of_latched? {f : List Token} {o : Operator} (h : latched? f = some o) :
    o.isGrouping = false := by
  have hmem := (List.mem_filter.1 (List.mem_of_getLast? h)).2
  simpa using hmem

/-! ## Reading one token -/

namespace Reduction

theorem step_operand (r : Reduction) {t : Token} (h : t.kind = .operand) :
    r.step t = ⟨r.result, (latched? [t]).or r.pending⟩ := by
  rw [latched?_singleton, step, Token.number?_of_operand h]
  cases ho : t.operator? with
  | none => rfl
  | some o => cases hg : o.isGrouping <;> simp [latch, hg, Option.filter]

theorem step_value (r : Reduction) {t : Token} {x : Float} (h : t.number? = some x) :
    r.step t
      = ⟨match r.pending with
          | some o => o.apply r.result x t.kind
          | none => r.result,
        r.pending⟩ := by
  rw [step, Token.operator?_of_value (Token.value_of_number? h), h]
  cases hp : r.pending with
  | none => simp only [← hp]
  | some o => rfl

/-- A token changes the operator that applies next just when it is one that can
    be latched. -/
theorem pending_step (r : Reduction) (t : Token) :
    (r.step t).pending = (latched? [t]).or r.pending := by
  by_cases hk : t.kind = .operand
  · rw [step_operand r hk]
  · obtain ⟨x, hx⟩ := Token.number?_of_value hk
    rw [step_value r hx, latched?_value hk, Option.none_or]

theorem step_bracket (r : Reduction) {t : Token} (h : t.isBracket = true) : r.step t = r := by
  rw [Token.isBracket, Option.any_eq_true] at h
  obtain ⟨o, ho, hg⟩ := h
  rw [step, ho]
  exact if_pos hg

/-! ## Reading a formula -/

/-- What a formula leaves to the tokens that follow it. -/
def of : List Token → Reduction
  | [] => ⟨0, none⟩
  | t :: rest => rest.foldl step (.first t)

theorem first_operand {t : Token} (h : t.kind = .operand) : first t = ⟨0, latched? [t]⟩ := by
  rw [latched?_singleton, first, Token.number?_of_operand h]
  cases ho : t.operator? with
  | none => rfl
  | some o => cases hg : o.isGrouping <;> simp [latch, hg, Option.filter]

theorem first_value {t : Token} {x : Float} (h : t.number? = some x) : first t = ⟨x, none⟩ := by
  rw [first, Token.operator?_of_value (Token.value_of_number? h), h]

theorem pending_first (t : Token) : (first t).pending = latched? [t] := by
  by_cases hk : t.kind = .operand
  · rw [first_operand hk]
  · obtain ⟨x, hx⟩ := Token.number?_of_value hk
    rw [first_value hx, latched?_value hk]

theorem of_append {f : List Token} (h : f ≠ []) (rest : List Token) :
    of (f ++ rest) = rest.foldl step (of f) := by
  cases f with
  | nil => exact absurd rfl h
  | cons t front => exact List.foldl_append ..

theorem pending_foldl_step (r : Reduction) (rest : List Token) :
    (rest.foldl step r).pending = (latched? rest).or r.pending := by
  induction rest generalizing r with
  | nil => rfl
  | cons t rest ih =>
    rw [List.foldl_cons, ih, pending_step, latched?_cons t rest, Option.or_assoc]

/-- A formula leaves its value and the last operator that is no bracket. -/
theorem of_eq (f : List Token) : of f = ⟨evaluate f, latched? f⟩ := by
  have hpending : (of f).pending = latched? f := by
    cases f with
    | nil => rfl
    | cons t rest =>
      rw [of, pending_foldl_step, pending_first, latched?_cons t rest]
  have hresult : (of f).result = evaluate f := by
    cases f <;> rfl
  rw [← hpending, ← hresult]

end Reduction

/-! ## The value of a formula by its last token -/

theorem evaluate_append_operand (f : List Token) {t : Token} (h : t.kind = .operand) :
    evaluate (f ++ [t]) = evaluate f := by
  have hread : (Reduction.of (f ++ [t])).result = (Reduction.of f).result := by
    by_cases hf : f = []
    · subst hf
      show (Reduction.first t).result = 0
      rw [Reduction.first_operand h]
    · rw [Reduction.of_append hf, List.foldl_cons, List.foldl_nil, Reduction.step_operand _ h]
  rw [Reduction.of_eq, Reduction.of_eq] at hread
  exact hread

theorem evaluate_singleton_value {t : Token} {x : Float} (h : t.number? = some x) :
    evaluate [t] = x := congrArg Reduction.result (Reduction.first_value h)

theorem evaluate_append_value {f : List Token} (hf : f ≠ []) {t : Token} {x : Float}
    (h : t.number? = some x) :
    evaluate (f ++ [t])
      = match latched? f with
        | some o => o.apply (evaluate f) x t.kind
        | none => evaluate f := by
  have hread := congrArg Reduction.result (Reduction.of_append hf [t])
  rw [List.foldl_cons, List.foldl_nil, Reduction.step_value _ h, Reduction.of_eq,
    Reduction.of_eq] at hread
  exact hread

/-- A formula acts on what follows it by its value and its latched operator only. -/
theorem evaluate_append_congr {f g : List Token} (hempty : g.isEmpty = f.isEmpty)
    (hvalue : evaluate g = evaluate f) (hlatched : latched? g = latched? f)
    (rest : List Token) : evaluate (g ++ rest) = evaluate (f ++ rest) := by
  by_cases hf : f = []
  · have hg : g = [] := by
      rw [hf] at hempty
      exact List.isEmpty_iff.1 hempty
    rw [hf, hg]
  · have hg : g ≠ [] := by
      intro hg
      rw [hg] at hempty
      exact hf (List.isEmpty_iff.1 hempty.symm)
    have hsame : Reduction.of (g ++ rest) = Reduction.of (f ++ rest) := by
      rw [Reduction.of_append hg, Reduction.of_append hf, Reduction.of_eq, Reduction.of_eq,
        hvalue, hlatched]
    rw [Reduction.of_eq, Reduction.of_eq] at hsame
    exact congrArg Reduction.result hsame

/-- Of a value only its number and its kind are read. -/
theorem evaluate_replace_value {t u : Token} {x : Float} (ht : t.number? = some x)
    (hu : u.number? = some x) (hkind : u.kind = t.kind) (front rest : List Token) :
    evaluate (front ++ u :: rest) = evaluate (front ++ t :: rest) := by
  have hvalue : evaluate (front ++ [u]) = evaluate (front ++ [t]) := by
    by_cases hfront : front = []
    · subst hfront
      exact (evaluate_singleton_value hu).trans (evaluate_singleton_value ht).symm
    · rw [evaluate_append_value hfront hu, evaluate_append_value hfront ht, hkind]
  have hlatched : latched? (front ++ [u]) = latched? (front ++ [t]) := by
    rw [latched?_append, latched?_append, latched?_value (Token.value_of_number? hu),
      latched?_value (Token.value_of_number? ht)]
  have hempty : (front ++ [u]).isEmpty = (front ++ [t]).isEmpty := by
    cases front <;> rfl
  rw [List.append_cons, List.append_cons front t]
  exact evaluate_append_congr hempty hvalue hlatched rest

/-! ## Brackets -/

theorem foldl_step_filter_brackets (r : Reduction) (rest : List Token) :
    (rest.filter (!·.isBracket)).foldl Reduction.step r = rest.foldl Reduction.step r := by
  induction rest generalizing r with
  | nil => rfl
  | cons t rest ih =>
    cases hb : t.isBracket with
    | true =>
      rw [List.filter_cons_of_neg (by simp [hb]), List.foldl_cons, r.step_bracket hb, ih]
    | false => rw [List.filter_cons_of_pos (by simp [hb]), List.foldl_cons, List.foldl_cons, ih]

/-- Without its brackets a formula has the same value. A bracket in front would be
    different: the value after it is not the first token and is ignored. -/
theorem evaluate_filter_brackets {f : List Token}
    (h : ∀ t, f.head? = some t → t.isBracket = false) :
    evaluate (f.filter (!·.isBracket)) = evaluate f := by
  cases f with
  | nil => rfl
  | cons t rest =>
    rw [List.filter_cons_of_pos (by simp [h t rfl])]
    exact congrArg Reduction.result (foldl_step_filter_brackets (.first t) rest)

/-- The value of a formula follows from its last token and from what the tokens before
    it leave. The empty formula is worth zero, and an operand at the end leaves the
    value as it is. A value at the end is the value of the formula if it comes first;
    else the last operator that is no bracket applies to the value so far and to it,
    and it is ignored if there is none. So brackets behind the first token do not
    matter, and two formulas of one value and one such operator stay equal in value
    whatever is appended to both. -/
theorem evaluate_by_last_token (f : List Token) (t : Token) :
    evaluate [] = 0
    ∧ (t.kind = .operand → evaluate (f ++ [t]) = evaluate f)
    ∧ (t.kind ≠ .operand → ∃ x, t.number? = some x
        ∧ evaluate [t] = x
        ∧ (f ≠ [] → evaluate (f ++ [t])
            = match latched? f with
              | some o => o.apply (evaluate f) x t.kind
              | none => evaluate f))
    ∧ ((∀ u, f.head? = some u → u.isBracket = false) →
        evaluate (f.filter (!·.isBracket)) = evaluate f)
    ∧ (∀ g, g.isEmpty = f.isEmpty → evaluate g = evaluate f → latched? g = latched? f →
        ∀ rest, evaluate (g ++ rest) = evaluate (f ++ rest)) := by
  refine ⟨rfl, evaluate_append_operand f, ?_, evaluate_filter_brackets, ?_⟩
  · intro hk
    obtain ⟨x, hx⟩ := Token.number?_of_value hk
    exact ⟨x, hx, evaluate_singleton_value hx, fun hf => evaluate_append_value hf hx⟩
  · intro g hempty hvalue hlatched rest
    exact evaluate_append_congr hempty hvalue hlatched rest

/-- After `2 + )` the value `4` is added: the bracket leaves the addition in place, as
    if it were not there. -/
theorem evaluate_by_last_token_after_bracket :
    let f : List Token :=
      [⟨1, "2", .number, none⟩, ⟨2, "+", .operand, none⟩, ⟨3, ")", .operand, none⟩]
    let g : List Token := [⟨1, "2", .number, none⟩, ⟨2, "+", .operand, none⟩]
    let t : Token := ⟨4, "4", .number, none⟩
    t.kind ≠ .operand ∧ f ≠ [] ∧ (∀ u, f.head? = some u → u.isBracket = false)
    ∧ evaluate (f ++ [t]) = Operator.apply .add (evaluate f) (literalValue "4") .number
    ∧ evaluate (f.filter (!·.isBracket)) = evaluate f
    ∧ evaluate (g ++ [t]) = evaluate (f ++ [t]) := by
  intro f g t
  have hvalue : t.kind ≠ .operand := by decide
  have hfilled : f ≠ [] := List.cons_ne_nil _ _
  have hfront : ∀ u, f.head? = some u → u.isBracket = false := by
    intro u hu
    cases Option.some.inj hu
    decide
  obtain ⟨-, -, hlast, hbrackets, hsame⟩ := evaluate_by_last_token f t
  obtain ⟨x, hx, -, happend⟩ := hlast hvalue
  cases Option.some.inj hx
  exact ⟨hvalue, hfilled, hfront, happend hfilled, hbrackets hfront, hsame g rfl rfl rfl [t]⟩

end TagCalc
