/-
  TagCalc.Lookup.Cache

  Answers that are remembered for some time: one list of suggestions per query,
  with the time when it came in. The full list, which belongs to the empty
  query, has a window of its own. Times are in milliseconds; the clock may go
  back, and an answer from the future is of age zero.
-/

import TagCalc.Catalog.Suggestion
import TagCalc.Catalog.Search

namespace TagCalc

/-- An answer to a query and when it came in. -/
structure CacheEntry where
  query : String
  suggestions : Catalog
  fetchedAt : Nat

/-- The remembered answers, at most one for each query, and how long they count
    as fresh. -/
structure Cache where
  entries : List CacheEntry
  fullWindow : Nat
  queryWindow : Nat

namespace Cache

/-- A cache without answers. -/
def empty (fullWindow queryWindow : Nat) : Cache := ⟨[], fullWindow, queryWindow⟩

/-- How long answers to a query count as fresh. -/
def window (c : Cache) (query : String) : Nat :=
  if query.isEmpty then c.fullWindow else c.queryWindow

/-- The entry of a query, however old it is. -/
def entry? (c : Cache) (query : String) : Option CacheEntry :=
  c.entries.find? (·.query == query)

/-- The answer to a query while it is fresh. -/
def get? (c : Cache) (query : String) (now : Nat) : Option Catalog :=
  match c.entry? query with
  | some e => if now - e.fetchedAt < c.window query then some e.suggestions else none
  | none => none

/-- The answer to a query, however old it is. -/
def lastKnown? (c : Cache) (query : String) : Option Catalog :=
  (c.entry? query).map (·.suggestions)

/-- Whether an entry is kept when a new answer comes in. The full list always
    is, since tags are resolved by it. -/
def keeps (c : Cache) (now : Nat) (e : CacheEntry) : Bool :=
  e.query.isEmpty || now - e.fetchedAt < c.queryWindow

/-- Drops the answers that are no longer fresh, the full list apart. -/
def prune (c : Cache) (now : Nat) : Cache :=
  { c with entries := c.entries.filter (c.keeps now) }

/-- Remembers an answer in place of the last one to the same query. -/
def insert (c : Cache) (query : String) (suggestions : Catalog) (now : Nat) : Cache :=
  let c := c.prune now
  { c with entries := ⟨query, suggestions, now⟩ :: c.entries.filter (·.query != query) }

end Cache

end TagCalc
