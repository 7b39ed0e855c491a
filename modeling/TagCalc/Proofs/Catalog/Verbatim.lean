/-
  TagCalc.Proofs.Catalog.Verbatim

  Entries that contain a query as it is written. Query and field are put in lower case
  each by itself, so what counts is whether the query comes out the same inside the field
  and alone. It does unless it has a capital sigma at the edge of a word that goes on in
  the field (`filterBy_keeps_verbatim`).
-/

import TagCalc.Proofs.Catalog.Search
import TagCalc.Proofs.Text.Lowercase

namespace TagCalc.Catalog

open Text

/-- Where a query occurs in the name or the category of an entry, it occurs in lower case
    too just when each of its capital sigmas ends a word there as it does in the query. If
    so, as always without a capital sigma or without a cased character next to the query,
    the query finds the entry. -/
theorem filterBy_keeps_verbatim {c : Catalog} {s : Suggestion} (hs : s ∈ c) {query field : String}
    (hfield : field = s.name ∨ field = s.category) {before after : List Char}
    (occurs : field.toList = before ++ query.toList ++ after) :
    let there := lowerBetween before.reverse query.toList after
    (lowercase field).toList
        = lowerBetween [] before (query.toList ++ after) ++ there
          ++ lowerBetween (query.toList.reverse ++ before.reverse) after []
    ∧ (there = (lowercase query).toList
        ↔ SigmasAlike query.toList before.reverse after [] [])
    ∧ (SigmasAlike query.toList before.reverse after [] [] → s ∈ c.filterBy query)
    ∧ ('Σ' ∉ query.toList → s ∈ c.filterBy query)
    ∧ (startsCased before.reverse = false → startsCased after = false →
        s ∈ c.filterBy query) := by
  intro there
  have hlower : (lowercase field).toList
      = lowerBetween [] before (query.toList ++ after) ++ there
        ++ lowerBetween (query.toList.reverse ++ before.reverse) after [] := by
    rw [toList_lowercase, occurs, lowerBetween_of_occurs]
  have halike : there = (lowercase query).toList
      ↔ SigmasAlike query.toList before.reverse after [] [] := by
    rw [toList_lowercase]
    exact lowerBetween_eq_iff
  have hkept : SigmasAlike query.toList before.reverse after [] [] → s ∈ c.filterBy query := by
    intro h
    have hinfix : (lowercase query).toList <:+: (lowercase field).toList := by
      rw [hlower, ← halike.2 h]
      exact ⟨_, _, rfl⟩
    refine mem_filterBy.2 ⟨hs, Or.inr (Suggestion.isMatch_iff.2 ?_)⟩
    rcases hfield with rfl | rfl
    · exact Or.inl hinfix
    · exact Or.inr hinfix
  refine ⟨hlower, halike, hkept, ?_, ?_⟩
  · intro hnone
    exact hkept (sigmasAlike_of_not_mem hnone _ _ _ _)
  · intro hbefore hafter
    exact hkept (sigmasAlike_of_startsCased hbefore hafter _)

/-- In `"ΔΑΣΟΣ"` the query `"ΣΟΣ"` has one sigma inside the word and one at its end, as it
    has by itself. -/
theorem filterBy_keeps_verbatim_forest :
    let forest : Suggestion := ⟨"1", "ΔΑΣΟΣ", "land", .text "1"⟩
    forest.name.toList = ['Δ', 'Α'] ++ "ΣΟΣ".toList ++ []
    ∧ forest ∈ Catalog.filterBy "ΣΟΣ" [forest] := by
  intro forest
  have occurs : forest.name.toList = ['Δ', 'Α'] ++ "ΣΟΣ".toList ++ [] := by decide +kernel
  obtain ⟨-, halike, hkept, -⟩ :=
    filterBy_keeps_verbatim (List.mem_singleton_self forest) (Or.inl rfl) occurs
  exact ⟨occurs, hkept (halike.1 (by decide +kernel))⟩

/-- The query `"ΑΣ"` ends in a final sigma, though in `"ΑΣΦΑΛΕΙΑ"`, which starts with it,
    the word goes on. -/
theorem filterBy_loses_insurance :
    let insurance : Suggestion := ⟨"1", "ΑΣΦΑΛΕΙΑ", "x", .text "1"⟩
    "ΑΣ".toList <:+: insurance.name.toList ∧ Catalog.filterBy "ΑΣ" [insurance] = [] := by
  refine ⟨⟨[], ['Φ', 'Α', 'Λ', 'Ε', 'Ι', 'Α'], rfl⟩, ?_⟩
  decide +kernel

end TagCalc.Catalog
