/-
  TagCalc.Proofs.Editor.WellFormed

  Every token of a formula is well formed, whether it was typed and committed, picked,
  given another name later, or built from a list of texts: each edit keeps this
  (`WellFormed.edit`). So the evaluation meets no operand without an operator and no
  number that cannot be read.
-/

import TagCalc.Proofs.Editor.Run
import TagCalc.Proofs.Formula.WellFormed

namespace TagCalc

/-- Every edit of a formula keeps its tokens well formed. -/
theorem Store.WellFormed.edit {e : Editor} {s : Store} (h : e.store.WellFormed)
    (hedit : e.Edit s) : s.WellFormed := by
  cases hedit with
  | same => exact h
  | typed filled accepted => exact h.withText e.catalog e.input
  | picked s accepted => exact h.append (.picked e.store.freshId s)
  | removeLast t last => exact h.remove t.id
  | retagged id name named t found tag => exact h.retag found tag name e.catalog
  | clear => exact .clear e.store

namespace Editor

theorem wellFormed_run {e : Editor} (h : e.store.WellFormed) (happenings : List Happening) :
    (e.run happenings).store.WellFormed := by
  induction happenings generalizing e with
  | nil => exact h
  | cons x rest ih => exact ih (h.edit (e.step_edit x))

/-- In every run of an editor over any service, and in every formula built from a list
    of texts, an operand is the symbol of an operator, a number is a literal without
    blanks around it that can be read, and only tags carry suggestions, of their own
    name, case aside. -/
theorem tokens_wellFormed (service : Service) (debounce start : Nat)
    (happenings : List Happening) (texts : List String) (catalog : Catalog) :
    (∀ t ∈ ((Editor.new service debounce start).run happenings).store.tokens, t.WellFormed)
    ∧ ∀ built, Store.build texts catalog = .ok built → ∀ t ∈ built.tokens, t.WellFormed :=
  ⟨wellFormed_run .empty happenings, fun _ hbuilt => Store.WellFormed.build hbuilt⟩

/-- Half of a tag that was found by its name in lower case. -/
def halfRent : Store where
  tokens :=
    [⟨1, "rent", .tag, some ⟨"1", "Rent", "housing", .text "900"⟩⟩, ⟨2, "*", .operand, none⟩,
      ⟨3, "1/2", .number, none⟩]
  issued := 3
  revision := 3

theorem tokens_wellFormed_halfRent :
    Store.build ["rent ", "*", "1/2"] [⟨"1", "Rent", "housing", .text "900"⟩] = .ok halfRent
    ∧ ∀ t ∈ halfRent.tokens, t.WellFormed := by
  have hbuilt : Store.build ["rent ", "*", "1/2"] [⟨"1", "Rent", "housing", .text "900"⟩]
      = .ok halfRent := rfl
  obtain ⟨-, hall⟩ := tokens_wellFormed (.new (.fixed []) (.empty 1000 100) .inline) 150 0 []
    ["rent ", "*", "1/2"] [⟨"1", "Rent", "housing", .text "900"⟩]
  exact ⟨hbuilt, hall halfRent hbuilt⟩

end Editor

end TagCalc
