/-
  TagCalc.Proofs.Editor.Alternation

  Whatever happens to an editor, the formula alternates between values and
  operands. Ids are in order as well, which the removal of the last token relies
  on: both are kept by every change of the formula, and a step is such a change.
-/

import TagCalc.Proofs.Editor.Run
import TagCalc.Proofs.Formula.Alternation

namespace TagCalc.Editor

/-- Ids stay in order and kinds alternate, in every run. -/
theorem run_ordered_alternating {e : Editor} (hord : e.store.Ordered)
    (halt : Alternating e.store.kinds) (happenings : List Happening) :
    (e.run happenings).store.Ordered ∧ Alternating (e.run happenings).store.kinds := by
  induction happenings generalizing e with
  | nil => exact ⟨hord, halt⟩
  | cons h rest ih =>
    have hc := (e.step_edit h).change
    exact ih (hord.change hc) (halt.change hord hc)

/-- In every run of an editor over any service, the tokens at even positions are
    values and those at odd positions are operands. So no operand comes first, and
    of two neighbours one is a value and the other one an operand. -/
theorem formula_alternates (service : Service) (debounce start : Nat)
    (happenings : List Happening) :
    let tokens := ((Editor.new service debounce start).run happenings).store.tokens
    (∀ i t, tokens[i]? = some t →
      if i % 2 = 0 then t.kind = .tag ∨ t.kind = .number else t.kind = .operand)
    ∧ (∀ t, tokens[0]? = some t → t.kind ≠ .operand)
    ∧ (∀ i t u, tokens[i]? = some t → tokens[i + 1]? = some u →
      t.kind.isValue = !u.kind.isValue) := by
  intro tokens
  obtain ⟨-, halt⟩ := run_ordered_alternating (e := Editor.new service debounce start) .empty .nil
    happenings
  have hkind : ∀ i t, tokens[i]? = some t → t.kind.isValue = (i % 2 == 0) := by
    intro i t ht
    apply halt i
    rw [Store.kinds, List.getElem?_map, show _ = some t from ht]
    rfl
  refine ⟨?_, ?_, ?_⟩
  · intro i t ht
    have hv := hkind i t ht
    by_cases hi : i % 2 = 0
    · rw [if_pos hi]
      rw [hi] at hv
      exact Kind.isValue_iff.1 hv
    · rw [if_neg hi]
      rw [beq_false_of_ne hi] at hv
      exact Kind.isValue_eq_false_iff.1 hv
  · intro t ht hk
    have hv := hkind 0 t ht
    rw [hk] at hv
    cases hv
  · intro i t u ht hu
    rw [hkind i t ht, hkind (i + 1) u hu, succ_mod_two_beq, Bool.not_not]

end TagCalc.Editor
