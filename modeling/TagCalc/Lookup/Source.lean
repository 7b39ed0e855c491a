/-
  TagCalc.Lookup.Source

  Where suggestions come from. A source answers a query with a list of
  suggestions, which need not be filtered, or fails. A lookup keeps the first
  suggestion of each id and then those that match the query.
-/

import TagCalc.Catalog.Search

namespace TagCalc

/-- Why a source has no answer. -/
inductive LookupError where
  /-- The request failed: it could not be sent, it was not answered, or the answer is
      not a list of suggestions. -/
  | request
  /-- The service answered with a status other than success. -/
  | status (code : Nat)
  /-- The file does not hold a list of suggestions. -/
  | undecodable
  /-- The file of suggestions is missing or not text. -/
  | unreadable
deriving DecidableEq, Repr

/-- What the library says about a failure, where the wording is its own. -/
def LookupError.message? : LookupError → Option String
  | status code => some ("lookup service returned status " ++ toString code)
  | _ => none

/-- A source of suggestions: its answer to each query. -/
abbrev Source := String → Except LookupError Catalog

namespace Source

/-- A source that answers every query with the same list. -/
def fixed (c : Catalog) : Source := fun _ => .ok c

/-- A source that always fails. -/
def failing (e : LookupError) : Source := fun _ => .error e

/-- The suggestions for a query: of the answer, the first of each id, and of
    these the ones that match. -/
def lookup (source : Source) (query : String) : Except LookupError Catalog :=
  (source query).map fun c => (Catalog.dedup c).filterBy query

/-- The suggestions for a query, none when the source fails. -/
def resolve (source : Source) (query : String) : Catalog :=
  match source.lookup query with
  | .ok found => found
  | .error _ => []

end Source

end TagCalc
