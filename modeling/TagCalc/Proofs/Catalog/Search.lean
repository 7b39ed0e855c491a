/-
  TagCalc.Proofs.Catalog.Search

  What a lookup finds: no id twice, and only entries that match the query. What is
  found by name is the first entry of this name, case aside. The query of an input only
  grows while the input does (`prefix_queryOf`).
-/

import TagCalc.Lookup.Source

namespace TagCalc

/-- A suggestion matches when its name or its category contains the query, all in
    lower case. -/
theorem Suggestion.isMatch_iff {query : String} {s : Suggestion} :
    s.isMatch query = true ↔
      (Text.lowercase query).toList <:+: (Text.lowercase s.name).toList
      ∨ (Text.lowercase query).toList <:+: (Text.lowercase s.category).toList := by
  rw [isMatch, Bool.or_eq_true, occursIn_iff, occursIn_iff]

namespace Catalog

/-- No id is kept that was seen before, and none is kept twice. -/
theorem dropSeen_ids (seen : List String) (c : Catalog) :
    (∀ s ∈ dropSeen seen c, s.id ∉ seen) ∧ ((dropSeen seen c).map (·.id)).Nodup := by
  induction c generalizing seen with
  | nil => exact ⟨fun _ hs => absurd hs List.not_mem_nil, List.nodup_nil⟩
  | cons s rest ih =>
    rw [dropSeen]
    by_cases hseen : seen.contains s.id = true
    · rw [if_pos hseen]
      exact ih seen
    · rw [if_neg hseen]
      -- the id kept here counts as seen for the rest
      obtain ⟨hfresh, hnodup⟩ := ih (s.id :: seen)
      have hnew : s.id ∉ seen := by simpa using hseen
      refine ⟨?_, ?_⟩
      · intro u hu
        rcases List.mem_cons.1 hu with rfl | hu
        · exact hnew
        · exact fun hmem => hfresh u hu (List.mem_cons_of_mem _ hmem)
      · rw [List.map_cons, List.nodup_cons]
        refine ⟨?_, hnodup⟩
        intro hmem
        obtain ⟨u, hu, hid⟩ := List.mem_map.1 hmem
        exact hfresh u hu (hid ▸ List.mem_cons_self ..)

theorem dedup_ids_nodup (c : Catalog) : ((dedup c).map (·.id)).Nodup := (dropSeen_ids [] c).2

theorem filterBy_sublist (query : String) (c : Catalog) : (c.filterBy query).Sublist c := by
  rw [filterBy]
  split
  · exact List.Sublist.refl _
  · exact List.filter_sublist

@[simp] theorem filterBy_empty (c : Catalog) : c.filterBy "" = c := rfl

theorem mem_filterBy {query : String} {c : Catalog} {s : Suggestion} :
    s ∈ c.filterBy query ↔ s ∈ c ∧ (query = "" ∨ s.isMatch query = true) := by
  rw [filterBy]
  by_cases hquery : query = ""
  · rw [if_pos (by simpa using hquery)]
    exact ⟨fun h => ⟨h, Or.inl hquery⟩, And.left⟩
  · rw [if_neg (by simpa using hquery), List.mem_filter, or_iff_right hquery]

theorem isMatch_of_mem_filterBy {query : String} {c : Catalog} {s : Suggestion}
    (hquery : query ≠ "") (hs : s ∈ c.filterBy query) : s.isMatch query = true :=
  (mem_filterBy.1 hs).2.resolve_left hquery

theorem lowercase_of_findNamed? {name : String} {c : Catalog} {s : Suggestion}
    (h : c.findNamed? name = some s) : Text.lowercase s.name = Text.lowercase name := by
  have hnamed : s.isNamed name = true := List.find?_some h
  rw [Suggestion.isNamed] at hnamed
  exact eq_of_beq hnamed

/-- An entry of a name, case aside, with no entry of this name before it. -/
def FirstNamed (entries : Catalog) (name : String) (s : Suggestion) : Prop :=
  ∃ i : Nat, entries[i]? = some s ∧ Text.lowercase s.name = Text.lowercase name
    ∧ ∀ (j : Nat) u, j < i → entries[j]? = some u → Text.lowercase u.name ≠ Text.lowercase name

theorem findNamed?_eq_some_iff {entries : Catalog} {name : String} {s : Suggestion} :
    entries.findNamed? name = some s ↔ entries.FirstNamed name s := by
  rw [findNamed?, List.find?_eq_some_iff_getElem]
  constructor
  · rintro ⟨hnamed, i, hi, rfl, hbefore⟩
    rw [Suggestion.isNamed] at hnamed
    refine ⟨i, List.getElem?_eq_getElem hi, eq_of_beq hnamed, ?_⟩
    intro j u hj hu
    obtain ⟨_, rfl⟩ := List.getElem?_eq_some_iff.1 hu
    have hother := hbefore j hj
    rw [Suggestion.isNamed, Bool.not_eq_true', beq_eq_false_iff_ne] at hother
    exact hother
  · rintro ⟨i, hi, hname, hbefore⟩
    obtain ⟨hlt, heq⟩ := List.getElem?_eq_some_iff.1 hi
    refine ⟨beq_iff_eq.2 hname, i, hlt, heq, ?_⟩
    intro j hj
    have hother := hbefore j entries[j] hj (List.getElem?_eq_getElem _)
    rw [Suggestion.isNamed, beq_false_of_ne hother]
    rfl

end Catalog

namespace Source

/-- What a lookup finds has no id twice. -/
theorem resolve_ids_nodup (source : Source) (query : String) :
    ((source.resolve query).map (·.id)).Nodup := by
  unfold resolve lookup
  cases source query with
  | ok c =>
    exact (Catalog.dedup_ids_nodup c).sublist ((Catalog.filterBy_sublist query _).map _)
  | error e => exact List.nodup_nil

/-- What a lookup finds matches the query. -/
theorem isMatch_of_mem_resolve {source : Source} {query : String} {s : Suggestion}
    (hquery : query ≠ "") (hs : s ∈ source.resolve query) : s.isMatch query = true := by
  unfold resolve lookup at hs
  cases hc : source query with
  | ok c =>
    rw [hc] at hs
    exact Catalog.isMatch_of_mem_filterBy hquery hs
  | error e =>
    rw [hc] at hs
    cases hs

end Source

/-! ## Queries -/

/-- An input that starts with another one asks for a query that starts with the query of
    the other. -/
theorem prefix_queryOf {input longer : String} (h : input.toList <+: longer.toList) :
    (queryOf input).toList <+: (queryOf longer).toList := by
  rw [queryOf, queryOf, String.toList_ofList, String.toList_ofList]
  exact Text.prefix_trimmed (h.filter _)

/-- A query that has come back was there all the time. -/
theorem queryOf_eq_of_between {first middle last : String}
    (hmiddle : first.toList <+: middle.toList) (hlast : middle.toList <+: last.toList)
    (h : queryOf last = queryOf first) : queryOf middle = queryOf first := by
  have hgrown := prefix_queryOf hmiddle
  have hback := prefix_queryOf hlast
  rw [h] at hback
  exact String.toList_inj.1 (hback.eq_of_length (Nat.le_antisymm hback.length_le hgrown.length_le))

end TagCalc
