/-
  TagCalc.Lookup.Endpoint

  Suggestions from a lookup service on the network. What a request meets there is not
  known in advance: the network is given as the reply that each request gets.
-/

import TagCalc.Lookup.Source
import TagCalc.Catalog.Document

namespace TagCalc

/-! ## The network -/

/-- A request: its address, the parameters to put behind it, and how long an answer may
    take. -/
structure LookupRequest where
  address : String
  parameters : List (String × String)
  timeoutMillis : Nat
deriving DecidableEq, Repr

/-- A reply: its status, and its body as text. -/
structure LookupReply where
  status : Nat
  body : String
deriving DecidableEq, Repr

/-- The replies to requests; none to a request that cannot be sent or is not answered in
    time. -/
abbrev Network := LookupRequest → Option LookupReply

/-- A network on which nothing can be reached. -/
def Network.down : Network := fun _ => none

namespace LookupReply

/-- Whether the status means success. -/
def succeeded (r : LookupReply) : Bool := 200 ≤ r.status && r.status < 300

/-- The suggestions in a reply. A body that is no list of them counts as a request that
    failed. -/
def suggestions (r : LookupReply) : Except LookupError Catalog :=
  if r.succeeded then
    match Catalog.ofText? r.body with
    | some c => .ok c
    | none => .error .request
  else .error (.status r.status)

theorem suggestions_eq_ok_iff {r : LookupReply} {c : Catalog} :
    r.suggestions = .ok c ↔ r.succeeded ∧ Catalog.ofText? r.body = some c := by
  rw [suggestions]
  cases r.succeeded with
  | true => cases Catalog.ofText? r.body <;> simp
  | false => simp

theorem suggestions_eq_status_iff {r : LookupReply} {code : Nat} :
    r.suggestions = .error (.status code) ↔ r.succeeded = false ∧ r.status = code := by
  rw [suggestions]
  cases r.succeeded with
  | true => cases Catalog.ofText? r.body <;> simp
  | false => simp

end LookupReply

/-! ## Endpoints -/

/-- A lookup service: its address, the name of the parameter that carries the query, if
    there is one, and how long it may take. -/
structure Endpoint where
  address : String
  queryParam : Option String
  timeoutMillis : Nat
deriving DecidableEq, Repr

namespace Endpoint

/-- The request for a query. Without a parameter for it, or with an empty query, the
    service is asked for everything. -/
def request (e : Endpoint) (query : String) : LookupRequest where
  address := e.address
  parameters := (e.queryParam.filter fun _ => !query.isEmpty).toList.map fun name => (name, query)
  timeoutMillis := e.timeoutMillis

/-- The source at an endpoint. -/
def source (e : Endpoint) (network : Network) : Source := fun query =>
  match network (e.request query) with
  | none => .error .request
  | some reply => reply.suggestions

/-- A service without a parameter for the query is asked the same every time. -/
theorem request_of_no_param {e : Endpoint} (h : e.queryParam = none) (query : String) :
    e.request query = ⟨e.address, [], e.timeoutMillis⟩ := by
  rw [request, h]
  rfl

/-- An endpoint answers just when its service replies with success and a list of
    suggestions. -/
theorem source_eq_ok_iff {e : Endpoint} {network : Network} {query : String} {c : Catalog} :
    e.source network query = .ok c
      ↔ ∃ reply, network (e.request query) = some reply
          ∧ reply.succeeded ∧ Catalog.ofText? reply.body = some c := by
  rw [source]
  cases network (e.request query) with
  | none => simp
  | some reply => simp [LookupReply.suggestions_eq_ok_iff]

/-- It reports a status just when the service replies with it and it does not mean
    success. -/
theorem source_eq_status_iff {e : Endpoint} {network : Network} {query : String} {code : Nat} :
    e.source network query = .error (.status code)
      ↔ ∃ reply, network (e.request query) = some reply
          ∧ reply.succeeded = false ∧ reply.status = code := by
  rw [source]
  cases network (e.request query) with
  | none => simp
  | some reply => simp [LookupReply.suggestions_eq_status_iff]

end Endpoint

end TagCalc
