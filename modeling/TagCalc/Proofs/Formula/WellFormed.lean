/-
  TagCalc.Proofs.Formula.WellFormed

  Tokens whose parts agree. The value of an operand is the symbol of an operator, that
  of a number is a literal that can be read, and a suggestion comes with a tag only,
  under its own name, case aside. There are three ways to enter a token: by its text
  (`WellFormed.text`), by a suggestion (`WellFormed.picked`), and under another name in
  the place of a tag (`WellFormed.retag`). Each is well formed, and so is a formula all
  of whose tokens were entered so.
-/

import TagCalc.Proofs.Catalog.Search
import TagCalc.Proofs.Formula.Build
import TagCalc.Proofs.Formula.Literal
import TagCalc.Proofs.Formula.Store
import TagCalc.Formula.Evaluation

namespace TagCalc

/-- The parts of a token agree. -/
structure Token.WellFormed (t : Token) : Prop where
  operand : t.kind = .operand → ∃ o, t.operator? = some o ∧ t.value = o.symbol
  number : t.kind = .number →
    Text.trim t.value = t.value ∧ isNumberLiteral t.value.toList = true
    ∧ ∃ x, literalValue? t.value = some x ∧ t.number? = some x
  carried : ∀ s, t.suggestion = some s →
    t.kind = .tag ∧ Text.lowercase s.name = Text.lowercase t.value

/-! ## Tokens as they are entered -/

namespace Token.WellFormed

/-- The token of a text, with a suggestion of its name if it is a tag. -/
theorem text {t : Token} (raw : String) (catalog : Catalog) (hvalue : t.value = Text.trim raw)
    (hkind : t.kind = classify (Text.trim raw))
    (hfound : ∀ s, t.suggestion = some s →
      t.kind = .tag ∧ catalog.findNamed? (Text.trim raw) = some s) : t.WellFormed := by
  refine ⟨?_, ?_, ?_⟩
  · intro hoperand
    obtain ⟨o, ho⟩ := ofSymbol?_of_classify (hkind.symm.trans hoperand)
    rw [Text.trim_trim] at ho
    refine ⟨o, ?_, ?_⟩
    · rw [operator?, hoperand, hvalue]
      exact ho
    · rw [hvalue]
      exact (Operator.symbol_of_ofSymbol? ho).symm
  · intro hnumber
    have hliteral := isNumberLiteral_of_classify (hkind.symm.trans hnumber)
    have hread : literalValue? t.value = some (literalValue t.value) := by
      apply literalValue?_of_isNumberLiteral
      rw [← Text.toList_trim, hvalue]
      exact hliteral
    rw [Text.trim_trim, ← hvalue] at hliteral
    refine ⟨?_, hliteral, _, hread, ?_⟩
    · rw [hvalue, Text.trim_trim]
    · rw [number?, hnumber]
  · intro s hs
    obtain ⟨htag, hnamed⟩ := hfound s hs
    rw [hvalue]
    exact ⟨htag, Catalog.lowercase_of_findNamed? hnamed⟩

/-- The tag of a suggestion. -/
theorem picked (id : Nat) (s : Suggestion) :
    (⟨id, s.name, .tag, Store.carried .tag (some s)⟩ : Token).WellFormed := by
  refine ⟨nofun, nofun, ?_⟩
  intro s' hs
  obtain rfl : s = s' := Option.some.inj hs
  exact ⟨rfl, rfl⟩

/-- A tag under another name, with a suggestion of exactly this name if there is one. -/
theorem retag {t : Token} (htag : t.kind = .tag) (name : String) (catalog : Catalog) :
    (Store.retag name (catalog.find? (·.name == name)) t).WellFormed := by
  have hkind : (Store.retag name (catalog.find? (·.name == name)) t).kind = .tag := htag
  refine ⟨fun h => ?_, fun h => ?_, ?_⟩
  -- the kind stays that of a tag
  · cases hkind.symm.trans h
  · cases hkind.symm.trans h
  · intro s hs
    have hfound : catalog.find? (·.name == name) = some s := by
      rw [Store.retag, htag] at hs
      exact hs
    have hname := List.find?_some hfound
    exact ⟨hkind, congrArg Text.lowercase (eq_of_beq hname)⟩

end Token.WellFormed

/-! ## Formulas -/

namespace Store

/-- All tokens of a formula are well formed. -/
def WellFormed (s : Store) : Prop := ∀ t ∈ s.tokens, t.WellFormed

theorem WellFormed.empty : Store.empty.WellFormed := by
  intro t ht
  cases ht

theorem WellFormed.append {s : Store} (h : s.WellFormed) {value : String} {kind : Kind}
    {suggestion : Option Suggestion}
    (hnew : (⟨s.freshId, value, kind, Store.carried kind suggestion⟩ : Token).WellFormed) :
    (s.append value kind suggestion).WellFormed := by
  intro t ht
  rw [tokens_append] at ht
  rcases List.mem_append.1 ht with ht | ht
  · exact h t ht
  · rw [List.mem_singleton.1 ht]
    exact hnew

theorem WellFormed.withText {s : Store} (h : s.WellFormed) (catalog : Catalog) (raw : String) :
    (s.withText catalog raw).WellFormed := by
  rw [Store.withText]
  apply h.append
  apply Token.WellFormed.text raw catalog
  · dsimp only
  · dsimp only
  · -- a suggestion is looked for, and carried, where the kind is that of a tag
    intro found hfound
    dsimp only at hfound ⊢
    by_cases htag : classify (Text.trim raw) = .tag
    · rw [if_pos htag, carried, if_pos htag] at hfound
      exact ⟨htag, hfound⟩
    · rw [carried, if_neg htag] at hfound
      cases hfound

theorem WellFormed.remove {s : Store} (h : s.WellFormed) (id : Nat) :
    (s.remove id).WellFormed := by
  intro t ht
  rw [tokens_remove] at ht
  exact h t (List.mem_filter.1 ht).1

theorem WellFormed.retag {s : Store} (h : s.WellFormed) {id : Nat} {t : Token}
    (found : s.get? id = some t) (htag : t.kind = .tag) (name : String) (catalog : Catalog) :
    (s.update id name (catalog.find? (·.name == name))).WellFormed := by
  intro u hu
  rw [Store.tokens_update] at hu
  rcases mem_updateFirst hu with hu | ⟨t', -, hfound, rfl⟩
  · exact h u hu
  · obtain rfl : t = t' := Option.some.inj (found.symm.trans hfound)
    exact .retag htag name catalog

theorem WellFormed.clear (s : Store) : s.clear.WellFormed := by
  intro t ht
  rw [tokens_clear] at ht
  cases ht

/-- A formula built from texts is well formed. -/
theorem WellFormed.build {texts : List String} {catalog : Catalog} {built : Store}
    (h : Store.build texts catalog = .ok built) : built.WellFormed :=
  appendTexts_induction (fun raw _ _ _ hs => hs.withText catalog raw) .empty h

end Store

end TagCalc
