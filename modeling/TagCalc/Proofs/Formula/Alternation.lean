/-
  TagCalc.Proofs.Formula.Alternation

  Formulas in which values and operands alternate, a value first. The rule for
  appending keeps this, and so does every other change of a formula, since it
  drops tokens from the end or leaves the kinds alone.
-/

import TagCalc.Proofs.Formula.Store

namespace TagCalc

theorem Kind.isValue_iff {k : Kind} : k.isValue = true ↔ k = .tag ∨ k = .number := by
  cases k <;> simp [isValue]

theorem Kind.isValue_eq_false_iff {k : Kind} : k.isValue = false ↔ k = .operand := by
  cases k <;> simp [isValue]

/-- Neighbours differ in parity. -/
theorem succ_mod_two_beq (n : Nat) : ((n + 1) % 2 == 0) = !(n % 2 == 0) := by
  rcases Nat.mod_two_eq_zero_or_one n with h0 | h1
  · have : (n + 1) % 2 = 1 := by omega
    simp [h0, this]
  · have : (n + 1) % 2 = 0 := by omega
    simp [h1, this]

/-- Values at even positions, operands at odd ones. -/
def Alternating (kinds : List Kind) : Prop :=
  ∀ i k, kinds[i]? = some k → k.isValue = (i % 2 == 0)

theorem Alternating.nil : Alternating [] := by
  intro i k h
  cases h

/-- Of two neighbours one is a value and the other one an operand. -/
theorem Alternating.isValue_eq_not {f : List Token} (h : Alternating (f.map (·.kind))) {i : Nat}
    {t u : Token} (ht : f[i]? = some t) (hu : f[i + 1]? = some u) :
    t.kind.isValue = !u.kind.isValue := by
  have hkind : ∀ j v, f[j]? = some v → v.kind.isValue = (j % 2 == 0) := by
    intro j v hv
    apply h j
    rw [List.getElem?_map, hv, Option.map_some]
  rw [hkind i t ht, hkind (i + 1) u hu, succ_mod_two_beq, Bool.not_not]

/-- A kind may come next just when it stands for a value and the length is even, or for an
    operand and the length is odd. -/
theorem Alternating.canFollow_iff {kinds : List Kind} (h : Alternating kinds) {k : Kind} :
    k.canFollow kinds.getLast? = true ↔ k.isValue = (kinds.length % 2 == 0) := by
  cases hl : kinds.getLast? with
  | none =>
    rw [List.getLast?_eq_none_iff] at hl
    subst hl
    exact Iff.rfl
  | some last =>
    obtain ⟨front, rfl⟩ := List.getLast?_eq_some_iff.1 hl
    -- the last kind stands one before the end, so its parity is the other one
    have hlast := h front.length last (by simp)
    rw [Kind.canFollow, bne_iff_ne, hlast, List.length_append, List.length_singleton,
      succ_mod_two_beq]
    exact Bool.eq_not.symm

theorem Alternating.append {kinds : List Kind} (h : Alternating kinds) {k : Kind}
    (hk : k.canFollow kinds.getLast? = true) : Alternating (kinds ++ [k]) := by
  intro i k' hi
  rw [List.getElem?_append] at hi
  split at hi
  · exact h i k' hi
  · rename_i hge
    have hnew := h.canFollow_iff.1 hk
    have hi0 : i = kinds.length := by
      have hlt := (List.getElem?_eq_some_iff.1 hi).1
      simp only [List.length_singleton] at hlt
      omega
    subst hi0
    simp only [Nat.sub_self, List.getElem?_cons_zero, Option.some.injEq] at hi
    rw [← hi]
    exact hnew

theorem Alternating.dropLast {kinds : List Kind} (h : Alternating kinds) :
    Alternating kinds.dropLast := by
  intro i k hi
  have hlt := (List.getElem?_eq_some_iff.1 hi).1
  rw [List.length_dropLast] at hlt
  rw [List.getElem?_dropLast, if_pos hlt] at hi
  exact h i k hi

/-- A token that may come next keeps the alternation. -/
theorem Alternating.appendToken {s : Store} (h : Alternating s.kinds) {kind : Kind}
    (accepted : s.accepts kind = true) (value : String) (suggestion : Option Suggestion) :
    Alternating (s.append value kind suggestion).kinds := by
  have hkinds : (s.append value kind suggestion).kinds = s.kinds ++ [kind] := by
    simp [Store.kinds]
  rw [hkinds]
  apply h.append
  rw [Store.kinds, List.getLast?_map]
  exact accepted

/-- Every change of a formula keeps the alternation. -/
theorem Alternating.change {s s' : Store} (h : Alternating s.kinds) (hord : s.Ordered)
    (hc : Store.Change s s') : Alternating s'.kinds := by
  cases hc with
  | same => exact h
  | append value kind suggestion accepted => exact h.appendToken accepted value suggestion
  | removeLast t last =>
    rw [Store.kinds, Store.tokens_remove_last hord last, List.map_dropLast]
    exact h.dropLast
  | update id value suggestion t found tag =>
    rw [Store.kinds_update]
    exact h
  | clear =>
    rw [Store.kinds, Store.tokens_clear]
    exact .nil

end TagCalc
