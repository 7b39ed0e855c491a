/-
  TagCalc.Proofs.Lookup.Answers

  The cache holds, for a query, the list that was handed out last for it. Here a
  service is related to the log of all that it handed out: every entry of its
  cache is the latest answer to its query, and every list handed out or waiting to
  be is what some source answered (`Remembers`). Every move keeps this
  (`Remembers.move`).
-/

import TagCalc.Proofs.Lookup.Run
import TagCalc.Proofs.Catalog.Search

namespace TagCalc

/-! ## The latest answer -/

/-- The list handed out last for a query. -/
def latest? (query : String) (log : List Fetched) : Option Catalog :=
  (log.reverse.find? (·.query == query)).map (·.suggestions)

theorem latest?_concat (query : String) (log : List Fetched) (f : Fetched) :
    latest? query (log ++ [f])
      = if f.query = query then some f.suggestions else latest? query log := by
  unfold latest?
  rw [List.reverse_append, List.reverse_singleton, List.singleton_append, List.find?_cons]
  by_cases hq : f.query = query
  · simp [hq]
  · rw [if_neg hq, beq_false_of_ne hq]

theorem latest?_concat_self (log : List Fetched) (f : Fetched) :
    latest? f.query (log ++ [f]) = some f.suggestions := by
  rw [latest?_concat, if_pos rfl]

theorem latest?_concat_of_ne {query : String} {log : List Fetched} {f : Fetched}
    (h : f.query ≠ query) : latest? query (log ++ [f]) = latest? query log := by
  rw [latest?_concat, if_neg h]

/-- The latest answer was handed out. -/
theorem mem_of_latest? {query : String} {log : List Fetched} {found : Catalog}
    (h : latest? query log = some found) : ⟨query, found⟩ ∈ log := by
  obtain ⟨f, hf, rfl⟩ := Option.map_eq_some_iff.1 h
  have hq : f.query = query := by simpa using List.find?_some hf
  subst hq
  exact List.mem_reverse.1 (List.mem_of_find?_eq_some hf)

/-! ## Entries of the cache -/

namespace Cache

theorem mem_entries_insert {c : Cache} {query : String} {found : Catalog} {now : Nat}
    {entry : CacheEntry} (h : entry ∈ (c.insert query found now).entries) :
    entry = ⟨query, found, now⟩ ∨ (entry ∈ c.entries ∧ entry.query ≠ query) := by
  unfold insert prune at h
  rcases List.mem_cons.1 h with rfl | h
  · exact Or.inl rfl
  · obtain ⟨hkept, hne⟩ := List.mem_filter.1 h
    exact Or.inr ⟨(List.mem_filter.1 hkept).1, by simpa using hne⟩

/-- Every entry is an old one or holds one of the results that came in. -/
theorem mem_entries_insertAll {c : Cache} {results : List Fetched} {now : Nat}
    {entry : CacheEntry} (h : entry ∈ (c.insertAll results now).entries) :
    entry ∈ c.entries
    ∨ ∃ f ∈ results, entry.query = f.query ∧ entry.suggestions = f.suggestions := by
  induction results generalizing c with
  | nil => exact Or.inl h
  | cons f rest ih =>
    rcases ih h with hold | ⟨g, hg, heq⟩
    · rcases mem_entries_insert hold with rfl | ⟨hold, -⟩
      · exact Or.inr ⟨f, List.mem_cons_self .., rfl, rfl⟩
      · exact Or.inl hold
    · exact Or.inr ⟨g, List.mem_cons_of_mem _ hg, heq⟩

theorem mem_of_eq_entry {c : Cache} {query : String} {entry : CacheEntry}
    (h : c.entry? query = some entry) : entry ∈ c.entries ∧ entry.query = query :=
  ⟨List.mem_of_find?_eq_some h, by simpa using List.find?_some h⟩

theorem mem_of_get? {c : Cache} {query : String} {now : Nat} {found : Catalog}
    (h : c.get? query now = some found) :
    ∃ entry ∈ c.entries, entry.query = query ∧ entry.suggestions = found := by
  rw [get?] at h
  cases he : c.entry? query with
  | none =>
    rw [he] at h
    cases h
  | some entry =>
    rw [he] at h
    dsimp only at h
    split at h
    · exact ⟨entry, (mem_of_eq_entry he).1, (mem_of_eq_entry he).2, Option.some.inj h⟩
    · cases h

/-- Every entry is the latest answer to its query. -/
def Reflects (c : Cache) (log : List Fetched) : Prop :=
  ∀ entry ∈ c.entries, latest? entry.query log = some entry.suggestions

theorem Reflects.insert {c : Cache} {log : List Fetched} (h : c.Reflects log) (f : Fetched)
    (now : Nat) : (c.insert f.query f.suggestions now).Reflects (log ++ [f]) := by
  intro entry hentry
  rcases mem_entries_insert hentry with rfl | ⟨hold, hne⟩
  · exact latest?_concat_self log f
  · rw [latest?_concat_of_ne (Ne.symm hne)]
    exact h entry hold

theorem Reflects.insertAll {c : Cache} {log : List Fetched} (h : c.Reflects log)
    (results : List Fetched) (now : Nat) : (c.insertAll results now).Reflects (log ++ results) := by
  induction results generalizing c log with
  | nil =>
    rw [List.append_nil]
    exact h
  | cons f rest ih =>
    rw [← List.singleton_append, ← List.append_assoc]
    exact ih (h.insert f now)

end Cache

/-! ## Services and what they handed out -/

/-- Whether a list is what some source answered to the query. -/
def Fetched.Sourced (f : Fetched) : Prop :=
  ∃ source : Source, f.suggestions = source.resolve f.query

namespace Service

/-- The cache holds the latest answers, and all lists come from sources. -/
structure Remembers (log : List Fetched) (s : Service) : Prop where
  reflects : s.cache.Reflects log
  sourced : ∀ f ∈ log ++ s.finished, f.Sourced

theorem Remembers.new (source : Source) (fullWindow queryWindow : Nat) (dispatch : Dispatch) :
    Remembers [] (Service.new source (.empty fullWindow queryWindow) dispatch) :=
  ⟨fun _ h => absurd h List.not_mem_nil, fun _ h => absurd h List.not_mem_nil⟩

/-- Every move keeps the cache in step with the log. -/
theorem Remembers.move {log : List Fetched} {s : Service} (h : Remembers log s) (m : Move) :
    Remembers (log ++ s.handsOut m) (s.move m) := by
  refine ⟨?_, ?_⟩
  · obtain ⟨now, hcache⟩ := s.cache_move m
    rw [hcache]
    exact h.reflects.insertAll (s.handsOut m) now
  · cases s.effect m with
    | none _ _ finished out =>
      rw [out, List.append_nil, finished]
      exact h.sourced
    | fetch query _ _ finished out =>
      intro f hf
      rw [out, List.append_nil, finished, ← List.append_assoc] at hf
      rcases List.mem_append.1 hf with hf | hf
      · exact h.sourced f hf
      · rw [List.mem_singleton.1 hf]
        exact ⟨s.source, rfl⟩
    | poll _ _ _ finished out =>
      rw [out, finished, List.append_nil]
      exact h.sourced
    | replace _ _ _ finished out =>
      rw [out, List.append_nil, finished]
      exact h.sourced

theorem Remembers.run {log : List Fetched} {s : Service} (h : Remembers log s)
    (moves : List Move) : Remembers (log ++ s.handedOut moves) (s.run moves) :=
  trace_induction (fun m _ _ _ hs => hs.move m) h

/-- A fresh answer is the latest one. -/
theorem Remembers.cached {log : List Fetched} {s : Service} (h : Remembers log s)
    {query : String} {now : Nat} {found : Catalog} (hc : s.cached? query now = some found) :
    latest? query log = some found := by
  obtain ⟨entry, hmem, hquery, hfound⟩ := Cache.mem_of_get? hc
  rw [← hquery, ← hfound]
  exact h.reflects entry hmem

end Service

end TagCalc
