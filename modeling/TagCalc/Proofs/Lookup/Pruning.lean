/-
  TagCalc.Proofs.Lookup.Pruning

  Pruning never changes an answer. A cache filled by insertions is compared with
  the record of all of them, which forgets nothing. Every entry of the cache is the
  last insertion for its query; and the last insertion for a query is an entry for
  as long as it can be fresh, and for ever if the query is empty (`Follows`).

  Every insertion keeps this, whatever the clock does (`Follows.insertEntry`). So
  the cache answers as the record does, from the time of the latest insertion on
  (`get?_eq_unpruned`).
-/

import TagCalc.Proofs.Lookup.Answers

namespace TagCalc.Cache

/-! ## Insertions -/

/-- The cache after an insertion, which is given by the entry that it makes. -/
def insertEntry (c : Cache) (x : CacheEntry) : Cache :=
  c.insert x.query x.suggestions x.fetchedAt

/-- The cache after insertions, one after the other. -/
def insertEach (c : Cache) (insertions : List CacheEntry) : Cache :=
  insertions.foldl insertEntry c

/-- What is stored after an insertion: its entry, and those for other queries that
    are fresh at its time or hold the full list. -/
theorem mem_insertEntry {c : Cache} {x entry : CacheEntry} :
    entry ∈ (c.insertEntry x).entries ↔
      entry = x
      ∨ (entry ∈ c.entries ∧ entry.query ≠ x.query
        ∧ (entry.query = "" ∨ x.fetchedAt - entry.fetchedAt < c.queryWindow)) := by
  unfold insertEntry insert prune
  simp only [List.mem_cons, List.mem_filter, keeps, Bool.or_eq_true, String.isEmpty_iff,
    decide_eq_true_eq, bne_iff_ne, ne_eq]
  constructor
  · rintro (rfl | ⟨⟨hmem, hkept⟩, hother⟩)
    · exact Or.inl rfl
    · exact Or.inr ⟨hmem, hother, hkept⟩
  · rintro (rfl | ⟨hmem, hother, hkept⟩)
    · exact Or.inl rfl
    · exact Or.inr ⟨⟨hmem, hkept⟩, hother⟩

theorem windows_insertEach (c : Cache) (insertions : List CacheEntry) :
    (c.insertEach insertions).fullWindow = c.fullWindow
    ∧ (c.insertEach insertions).queryWindow = c.queryWindow := by
  induction insertions generalizing c with
  | nil => exact ⟨rfl, rfl⟩
  | cons x rest ih => exact ih (c.insertEntry x)

/-! ## The record of insertions -/

/-- The last insertion for a query. -/
def lastInserted? (query : String) (insertions : List CacheEntry) : Option CacheEntry :=
  insertions.reverse.find? (·.query == query)

/-- The answer to a query by the record of all insertions. -/
def unpruned? (window : Nat) (query : String) (insertions : List CacheEntry) (now : Nat) :
    Option Catalog :=
  match lastInserted? query insertions with
  | some x => if now - x.fetchedAt < window then some x.suggestions else none
  | none => none

theorem lastInserted?_concat (query : String) (insertions : List CacheEntry) (x : CacheEntry) :
    lastInserted? query (insertions ++ [x])
      = if x.query = query then some x else lastInserted? query insertions := by
  unfold lastInserted?
  rw [List.reverse_append, List.reverse_singleton, List.singleton_append, List.find?_cons]
  by_cases hq : x.query = query
  · simp [hq]
  · rw [if_neg hq, beq_false_of_ne hq]

theorem query_of_lastInserted? {query : String} {insertions : List CacheEntry} {x : CacheEntry}
    (h : lastInserted? query insertions = some x) : x.query = query := by
  simpa using List.find?_some h

/-! ## A cache and its record -/

/-- The cache follows the record of its insertions. -/
structure Follows (insertions : List CacheEntry) (c : Cache) : Prop where
  recorded : ∀ entry ∈ c.entries, lastInserted? entry.query insertions = some entry
  full : ∀ x, lastInserted? "" insertions = some x → x ∈ c.entries
  fresh : ∀ query x now, lastInserted? query insertions = some x →
    (∀ y ∈ insertions, y.fetchedAt ≤ now) → now - x.fetchedAt < c.queryWindow → x ∈ c.entries

theorem Follows.empty (fullWindow queryWindow : Nat) :
    Follows [] (Cache.empty fullWindow queryWindow) :=
  ⟨fun _ h => absurd h List.not_mem_nil, nofun, nofun⟩

theorem Follows.insertEntry {insertions : List CacheEntry} {c : Cache} (h : c.Follows insertions)
    (x : CacheEntry) : (c.insertEntry x).Follows (insertions ++ [x]) := by
  refine ⟨?_, ?_, ?_⟩
  · intro entry hentry
    rw [lastInserted?_concat]
    rcases mem_insertEntry.1 hentry with rfl | ⟨hmem, hother, -⟩
    · rw [if_pos rfl]
    · rw [if_neg (Ne.symm hother)]
      exact h.recorded entry hmem
  · intro y hy
    rw [lastInserted?_concat] at hy
    rw [mem_insertEntry]
    by_cases hx : x.query = ""
    · rw [if_pos hx] at hy
      exact Or.inl (Option.some.inj hy).symm
    · rw [if_neg hx] at hy
      have hempty := query_of_lastInserted? hy
      exact Or.inr ⟨h.full y hy, by rw [hempty]; exact Ne.symm hx, Or.inl hempty⟩
  · intro query y now hy hpast hfresh
    rw [lastInserted?_concat] at hy
    rw [mem_insertEntry]
    by_cases hx : x.query = query
    · rw [if_pos hx] at hy
      exact Or.inl (Option.some.inj hy).symm
    · rw [if_neg hx] at hy
      have hquery := query_of_lastInserted? hy
      have hnow : x.fetchedAt ≤ now := hpast x (by simp)
      have hbefore : ∀ z ∈ insertions, z.fetchedAt ≤ now := by
        intro z hz
        exact hpast z (List.mem_append_left _ hz)
      -- what is fresh now was fresh when `x` came in, which was no later
      change now - y.fetchedAt < c.queryWindow at hfresh
      have hkept : x.fetchedAt - y.fetchedAt < c.queryWindow := by omega
      exact Or.inr ⟨h.fresh query y now hy hbefore hfresh, by rw [hquery]; exact Ne.symm hx,
        Or.inr hkept⟩

theorem Follows.insertEach {before : List CacheEntry} {c : Cache} (h : c.Follows before)
    (insertions : List CacheEntry) : (c.insertEach insertions).Follows (before ++ insertions) := by
  induction insertions generalizing c before with
  | nil =>
    rw [List.append_nil]
    exact h
  | cons x rest ih =>
    rw [← List.singleton_append, ← List.append_assoc]
    exact ih (h.insertEntry x)

/-! ## Answers -/

theorem Follows.entry?_eq_some {insertions : List CacheEntry} {c : Cache}
    (h : c.Follows insertions) {query : String} {entry : CacheEntry}
    (he : c.entry? query = some entry) : lastInserted? query insertions = some entry := by
  obtain ⟨hmem, rfl⟩ := mem_of_eq_entry he
  exact h.recorded entry hmem

/-- An insertion that is still stored is found. -/
theorem not_mem_of_entry?_eq_none {c : Cache} {query : String} (he : c.entry? query = none)
    {insertions : List CacheEntry} {x : CacheEntry}
    (hx : lastInserted? query insertions = some x) : x ∉ c.entries := by
  intro hmem
  have hother : (x.query == query) = false := by
    simpa using List.find?_eq_none.1 he x hmem
  rw [query_of_lastInserted? hx, beq_self_eq_true] at hother
  cases hother

/-- The full list stays, however old it is. -/
theorem Follows.entry?_fullList {insertions : List CacheEntry} {c : Cache}
    (h : c.Follows insertions) : c.entry? "" = lastInserted? "" insertions := by
  cases he : c.entry? "" with
  | some entry => exact (h.entry?_eq_some he).symm
  | none =>
    cases hx : lastInserted? "" insertions with
    | none => rfl
    | some x => exact absurd (h.full x hx) (not_mem_of_entry?_eq_none he hx)

/-- At a time that no insertion comes after, the cache answers as the record does:
    a pruned entry is not fresh. -/
theorem Follows.get?_eq {insertions : List CacheEntry} {c : Cache} (h : c.Follows insertions)
    (query : String) {now : Nat} (hpast : ∀ x ∈ insertions, x.fetchedAt ≤ now) :
    c.get? query now = unpruned? (c.window query) query insertions now := by
  rw [get?, unpruned?]
  cases he : c.entry? query with
  | some entry => rw [h.entry?_eq_some he]
  | none =>
    cases hx : lastInserted? query insertions with
    | none => rfl
    | some x =>
      have hgone := not_mem_of_entry?_eq_none he hx
      have hstale : ¬now - x.fetchedAt < c.window query := by
        intro hfresh
        rw [window] at hfresh
        by_cases hempty : query = ""
        · subst hempty
          exact hgone (h.full x hx)
        · rw [if_neg (by simpa using hempty)] at hfresh
          exact hgone (h.fresh query x now hx hpast hfresh)
      dsimp only
      rw [if_neg hstale]

/-- A cache answers as the record of all insertions into it does, at any time that
    no insertion comes after; so it does whenever the clock never went back. The
    full list is never forgotten, and after an insertion all other answers stored
    are fresh. -/
theorem get?_eq_unpruned (fullWindow queryWindow : Nat) (insertions : List CacheEntry) :
    let c := (Cache.empty fullWindow queryWindow).insertEach insertions
    (∀ query now, (∀ x ∈ insertions, x.fetchedAt ≤ now) →
        c.get? query now
          = unpruned? (if query = "" then fullWindow else queryWindow) query insertions now)
    ∧ c.lastKnown? "" = (lastInserted? "" insertions).map (·.suggestions)
    ∧ ∀ query found now, ∀ entry ∈ (c.insert query found now).entries,
        entry.query ≠ "" → entry.query ≠ query → now - entry.fetchedAt < queryWindow := by
  intro c
  have h : c.Follows insertions := (Follows.empty fullWindow queryWindow).insertEach insertions
  obtain ⟨hfull, hquery⟩ := windows_insertEach (Cache.empty fullWindow queryWindow) insertions
  refine ⟨?_, ?_, ?_⟩
  · intro query now hpast
    have hwindow : c.window query = if query = "" then fullWindow else queryWindow := by
      simp only [window, String.isEmpty_iff]
      rw [show c.fullWindow = fullWindow from hfull, show c.queryWindow = queryWindow from hquery]
    rw [h.get?_eq query hpast, hwindow]
  · rw [lastKnown?, h.entry?_fullList]
  · intro query found now entry hentry hne hother
    rcases (mem_insertEntry (x := ⟨query, found, now⟩)).1 hentry with rfl | ⟨-, -, hkept⟩
    · exact absurd rfl hother
    · rw [show c.queryWindow = queryWindow from hquery] at hkept
      exact hkept.resolve_left hne

/-- An answer is pruned when it expires, and the record would not give it either. -/
theorem get?_eq_unpruned_expired :
    let rent : Suggestion := ⟨"1", "rent", "housing", .text "900"⟩
    let insertions : List CacheEntry := [⟨"", [rent], 0⟩, ⟨"old", [rent], 1⟩, ⟨"new", [], 61⟩]
    let c := (Cache.empty 300 60).insertEach insertions
    (∀ x ∈ insertions, x.fetchedAt ≤ 61)
    ∧ c.entries.map (·.query) = ["new", ""]
    ∧ unpruned? 60 "old" insertions 60 = some [rent]
    ∧ unpruned? 60 "old" insertions 61 = none
    ∧ c.get? "old" 61 = unpruned? 60 "old" insertions 61 := by
  intro rent insertions c
  have hpast : ∀ x ∈ insertions, x.fetchedAt ≤ 61 := by simp [insertions]
  exact ⟨hpast, rfl, rfl, rfl, (get?_eq_unpruned 300 60 insertions).1 "old" 61 hpast⟩

end TagCalc.Cache
