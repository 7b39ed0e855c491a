/-
  TagCalc.Proofs.Catalog.Lookup

  A lookup by positions. Of the catalog that a source answers with, the entries at two
  kinds of positions are left out: those with an id that stands at an earlier position,
  and then those that do not match the query (`lookup_selects_first_of_id`). The ids seen
  so far, which the search carries along, are those of the positions passed
  (`dropSeen_eq_entriesAt`).
-/

import TagCalc.Proofs.Catalog.Search

namespace TagCalc

/-- Whether a query asks for an entry: the empty query asks for all, every other one for
    those with the query in the name or the category, all in lower case. -/
def Suggestion.AskedBy (query : String) (s : Suggestion) : Prop :=
  query = ""
  ∨ (Text.lowercase query).toList <:+: (Text.lowercase s.name).toList
  ∨ (Text.lowercase query).toList <:+: (Text.lowercase s.category).toList

theorem Suggestion.askedBy_iff {query : String} {s : Suggestion} :
    s.AskedBy query ↔ query = "" ∨ s.isMatch query = true := by
  rw [AskedBy, isMatch_iff]

instance (query : String) (s : Suggestion) : Decidable (s.AskedBy query) :=
  decidable_of_iff _ Suggestion.askedBy_iff.symm

namespace Catalog

/-! ## Entries by position -/

/-- No entry before this position has the id of the one that stands there. -/
def FirstOfId (stock : Catalog) (i : Fin stock.length) : Prop :=
  ∀ j < i, stock[j].id ≠ stock[i].id

instance (stock : Catalog) : DecidablePred stock.FirstOfId :=
  fun i => inferInstanceAs (Decidable (∀ j < i, stock[j].id ≠ stock[i].id))

/-- The entries at the positions with a property, in their order. -/
def entriesAt (stock : Catalog) (p : Fin stock.length → Prop) [DecidablePred p] : Catalog :=
  ((List.finRange stock.length).filter fun i => decide (p i)).map stock.get

theorem entriesAt_cons (s : Suggestion) (rest : Catalog)
    (p : Fin (s :: rest).length → Prop) [DecidablePred p] :
    entriesAt (s :: rest) p
      = if p ⟨0, rest.length.succ_pos⟩ then s :: rest.entriesAt fun i => p i.succ
        else rest.entriesAt fun i => p i.succ := by
  have hrest : (((List.finRange rest.length).map Fin.succ).filter fun i => decide (p i)).map
      (List.get (s :: rest)) = rest.entriesAt fun i => p i.succ := by
    rw [List.filter_map, List.map_map]
    rfl
  show ((List.finRange (rest.length + 1)).filter fun i => decide (p i)).map _ = _
  rw [List.finRange_succ]
  by_cases h : p ⟨0, rest.length.succ_pos⟩
  · rw [List.filter_cons_of_pos (by exact decide_eq_true h), if_pos h, List.map_cons, hrest]
    rfl
  · rw [List.filter_cons_of_neg (by exact mt of_decide_eq_true h), if_neg h, hrest]

theorem entriesAt_congr {stock : Catalog} {p q : Fin stock.length → Prop} [DecidablePred p]
    [DecidablePred q] (h : ∀ i, p i ↔ q i) : stock.entriesAt p = stock.entriesAt q := by
  have hfilter : (fun i => decide (p i)) = fun i => decide (q i) := by
    funext i
    exact decide_eq_decide.2 (h i)
  rw [entriesAt, entriesAt, hfilter]

/-- Filtering the entries at some positions narrows the positions down. -/
theorem filter_entriesAt (stock : Catalog) (p : Fin stock.length → Prop) [DecidablePred p]
    (keeps : Suggestion → Bool) :
    (stock.entriesAt p).filter keeps = stock.entriesAt fun i => p i ∧ keeps stock[i] = true := by
  have hfilter : (fun i => (keeps ∘ stock.get) i && decide (p i))
      = fun i => decide (p i ∧ keeps stock[i] = true) := by
    funext i
    rw [Bool.decide_and, Bool.decide_eq_true, Bool.and_comm]
    rfl
  rw [entriesAt, entriesAt, List.filter_map, List.filter_filter, hfilter]

/-! ## The first entry of each id -/

/-- What is kept besides the ids already seen: the positions that are the first of their
    id. -/
theorem dropSeen_eq_entriesAt (seen : List String) (stock : Catalog) :
    dropSeen seen stock = stock.entriesAt fun i => stock[i].id ∉ seen ∧ stock.FirstOfId i := by
  induction stock generalizing seen with
  | nil => rfl
  | cons s rest ih =>
    have hfirst : FirstOfId (s :: rest) 0 := fun j hj => absurd hj (Fin.not_lt_zero j)
    have hlater : ∀ i : Fin rest.length,
        FirstOfId (s :: rest) i.succ ↔ s.id ≠ rest[i].id ∧ FirstOfId rest i := by
      intro i
      constructor
      · intro h
        exact ⟨h 0 i.succ_pos, fun j hj => h j.succ (Fin.succ_lt_succ_iff.2 hj)⟩
      · rintro ⟨hs, hrest⟩ j hj
        cases j using Fin.cases with
        | zero => exact hs
        | succ j => exact hrest j (Fin.succ_lt_succ_iff.1 hj)
    rw [dropSeen, entriesAt_cons]
    by_cases hseen : s.id ∈ seen
    · -- an entry with the id of `s` has an id that was seen anyway
      rw [if_pos (by simpa using hseen), if_neg fun h => h.1 hseen, ih]
      apply entriesAt_congr
      intro i
      rw [hlater]
      constructor
      · rintro ⟨hnew, hrest⟩
        exact ⟨hnew, fun heq => hnew (heq ▸ hseen), hrest⟩
      · rintro ⟨hnew, -, hrest⟩
        exact ⟨hnew, hrest⟩
    · -- from here on the id of `s` counts as seen, as it does for positions after the first
      rw [if_neg (by simpa using hseen), if_pos ⟨hseen, hfirst⟩, ih]
      congr 1
      apply entriesAt_congr
      intro i
      rw [hlater, List.mem_cons, not_or, and_assoc, and_left_comm, ne_comm]
      rfl

theorem dedup_eq_entriesAt (stock : Catalog) : stock.dedup = stock.entriesAt stock.FirstOfId := by
  rw [dedup, dropSeen_eq_entriesAt]
  exact entriesAt_congr fun i => and_iff_right List.not_mem_nil

theorem filterBy_dedup_eq_entriesAt (query : String) (stock : Catalog) :
    stock.dedup.filterBy query
      = stock.entriesAt fun i => stock.FirstOfId i ∧ stock[i].AskedBy query := by
  rw [filterBy, dedup_eq_entriesAt]
  by_cases hquery : query = ""
  · rw [if_pos (by simpa using hquery)]
    exact entriesAt_congr fun i => (and_iff_left (Or.inl hquery)).symm
  · rw [if_neg (by simpa using hquery), filter_entriesAt]
    apply entriesAt_congr
    intro i
    rw [Suggestion.askedBy_iff, or_iff_right hquery]

/-! ## Doing it twice -/

theorem dropSeen_sublist (seen : List String) (stock : Catalog) :
    (dropSeen seen stock).Sublist stock := by
  induction stock generalizing seen with
  | nil => exact List.Sublist.refl _
  | cons s rest ih =>
    rw [dropSeen]
    split
    · exact (ih _).cons s
    · exact (ih _).cons_cons s

/-- A catalog without an id that was seen and without an id twice is kept whole. -/
theorem dropSeen_of_nodup {seen : List String} {stock : Catalog}
    (hnew : ∀ s ∈ stock, s.id ∉ seen) (hnodup : (stock.map (·.id)).Nodup) :
    dropSeen seen stock = stock := by
  induction stock generalizing seen with
  | nil => rfl
  | cons s rest ih =>
    rw [List.map_cons, List.nodup_cons] at hnodup
    have hs : ¬seen.contains s.id = true := by simpa using hnew s (List.mem_cons_self ..)
    rw [dropSeen, if_neg hs, ih _ hnodup.2]
    intro u hu hmem
    rcases List.mem_cons.1 hmem with heq | hmem
    · exact hnodup.1 (heq ▸ List.mem_map_of_mem hu)
    · exact hnew u (List.mem_cons_of_mem _ hu) hmem

theorem dedup_dedup (stock : Catalog) : stock.dedup.dedup = stock.dedup :=
  dropSeen_of_nodup (fun _ _ => List.not_mem_nil) (dedup_ids_nodup stock)

theorem filterBy_filterBy (query : String) (stock : Catalog) :
    (stock.filterBy query).filterBy query = stock.filterBy query := by
  rw [filterBy, filterBy]
  split
  · rfl
  · rw [List.filter_filter]
    simp only [Bool.and_self]

end Catalog

/-! ## Lookups -/

namespace Source

/-- For a query that the source answers with a catalog, a lookup finds the entries at the
    positions that are the first of their id and are asked for, in the order of the
    catalog. So no id is found twice, a source that answers the empty query alike would
    have given the same by filtering its full list, and neither pass changes anything
    when it is repeated. -/
theorem lookup_selects_first_of_id (source : Source) (query : String) (stock : Catalog)
    (answers : source query = .ok stock) :
    ∃ found, source.lookup query = .ok found
    ∧ found = stock.entriesAt (fun i => stock.FirstOfId i ∧ stock[i].AskedBy query)
    ∧ found.Sublist stock
    ∧ (found.map (·.id)).Nodup
    ∧ (source "" = .ok stock →
        source.lookup query = (source.lookup "").map (Catalog.filterBy query))
    ∧ stock.dedup.dedup = stock.dedup
    ∧ (stock.filterBy query).filterBy query = stock.filterBy query := by
  have hlookup : source.lookup query = .ok (stock.dedup.filterBy query) := by
    rw [lookup, answers]
    rfl
  have hsublist := Catalog.filterBy_sublist query stock.dedup
  refine ⟨_, hlookup, Catalog.filterBy_dedup_eq_entriesAt query stock,
    hsublist.trans (Catalog.dropSeen_sublist [] stock),
    (Catalog.dedup_ids_nodup stock).sublist (hsublist.map _), ?_,
    Catalog.dedup_dedup stock, Catalog.filterBy_filterBy query stock⟩
  intro hfull
  rw [hlookup, lookup, hfull]
  rfl

/-- The second entry matches the query, the first one, of the same id, does not: neither
    is found. -/
theorem lookup_selects_first_of_id_rent :
    let stock : Catalog := [⟨"1", "Food", "groceries", .number 150⟩,
      ⟨"1", "Rent", "housing", .number 900⟩, ⟨"2", "Old rent", "housing", .number 700⟩]
    Source.fixed stock "REN" = .ok stock
    ∧ ∃ found, (Source.fixed stock).lookup "REN" = .ok found
      ∧ found.map (·.name) = ["Old rent"]
      ∧ (found.map (·.id)).Nodup := by
  intro stock
  have answers : Source.fixed stock "REN" = .ok stock := rfl
  obtain ⟨found, hlookup, hfound, -, hnodup, -⟩ :=
    lookup_selects_first_of_id (.fixed stock) "REN" stock answers
  refine ⟨answers, found, hlookup, ?_, hnodup⟩
  rw [hfound]
  decide +kernel

end Source

end TagCalc
