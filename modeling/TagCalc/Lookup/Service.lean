/-
  TagCalc.Lookup.Service

  Lookups that run beside the editor. A request is answered from the cache or
  dispatched, at most once at a time for each query; finished fetches are handed
  out by the next poll, in the order in which they were dispatched.

  Inline dispatch fetches at once. A worker fetches one query after the other,
  at moments that the environment chooses: `release` lets the oldest waiting
  fetch finish, and `die` ends the worker for good.
-/

import TagCalc.Lookup.Source
import TagCalc.Lookup.Cache

namespace TagCalc

/-- How fetches are carried out. -/
inductive Dispatch where
  | inline
  | worker
  | deadWorker
deriving DecidableEq, Repr

/-- A finished fetch. -/
structure Fetched where
  query : String
  suggestions : Catalog

/-- The answer to a request. -/
inductive Answer where
  | ready (suggestions : Catalog)
  | pending

/-- The state of the lookups: the queries that wait to be fetched, the fetches
    that are finished but not handed out, the queries whose fetch has not been
    handed out, and the queries of all fetches finished so far. -/
structure Service where
  source : Source
  cache : Cache
  dispatch : Dispatch
  waiting : List String
  finished : List Fetched
  inFlight : List String
  history : List String

namespace Service

/-- A service that has not been asked for anything. -/
def new (source : Source) (cache : Cache) (dispatch : Dispatch) : Service :=
  ⟨source, cache, dispatch, [], [], [], []⟩

/-- Whether a fetch of the query is under way. -/
def isInFlight (s : Service) (query : String) : Bool := s.inFlight.contains query

/-- The answer to a query while it is fresh. -/
def cached? (s : Service) (query : String) (now : Nat) : Option Catalog :=
  s.cache.get? query now

/-- The last answer to a query, however old it is. -/
def lastKnown? (s : Service) (query : String) : Option Catalog :=
  s.cache.lastKnown? query

/-- Carries out the fetch of a query. -/
def finish (s : Service) (query : String) : Service :=
  { s with
    finished := s.finished ++ [⟨query, s.source.resolve query⟩]
    history := s.history ++ [query] }

/-- Starts the fetch of a query. A dead worker takes no orders. -/
def dispatchQuery (s : Service) (query : String) : Service :=
  match s.dispatch with
  | .inline => { s with inFlight := s.inFlight ++ [query] }.finish query
  | .worker => { s with inFlight := s.inFlight ++ [query], waiting := s.waiting ++ [query] }
  | .deadWorker => s

/-- Asks for the suggestions of a query: from the cache while they are fresh,
    otherwise by a fetch, unless one is under way. -/
def request (s : Service) (query : String) (now : Nat) : Service × Answer :=
  match s.cached? query now with
  | some found => (s, .ready found)
  | none => (if s.isInFlight query then s else s.dispatchQuery query, .pending)

/-- Takes one finished fetch into the cache. -/
def deliver (now : Nat) (s : Service) (f : Fetched) : Service :=
  { s with
    inFlight := s.inFlight.filter (· != f.query)
    cache := s.cache.insert f.query f.suggestions now }

/-- Hands out the finished fetches. -/
def poll (s : Service) (now : Nat) : Service × List Fetched :=
  (s.finished.foldl (deliver now) { s with finished := [] }, s.finished)

/-- Lets the oldest waiting fetch finish. -/
def release (s : Service) : Service :=
  match s.waiting with
  | [] => s
  | query :: rest => { s with waiting := rest }.finish query

/-- Ends the worker while it carries out the oldest waiting fetch. The waiting
    fetches stay under way for ever. -/
def die (s : Service) : Service :=
  match s.waiting with
  | [] => s
  | _ :: _ => { s with waiting := [], dispatch := .deadWorker }

/-- Replaces what later fetches find. -/
def withSource (s : Service) (source : Source) : Service := { s with source := source }

end Service

end TagCalc
