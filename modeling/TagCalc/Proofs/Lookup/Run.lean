/-
  TagCalc.Proofs.Lookup.Run

  Runs of a service. Its callers ask and poll; its surroundings let the oldest
  waiting fetch finish, end the worker in the middle of it, or replace the source.
  A run leaves three traces: the queries dispatched, the fetches carried out, and
  the results handed out.

  What each operation does is said here once: a request in `request_cases`, a
  poll in `poll_eq`, and every move, as far as answers are concerned, in `effect`
  and, for the cache alone, in `cache_move`.
-/

import TagCalc.Lookup.Service
import TagCalc.Proofs.Trace

namespace TagCalc

/-- The cache after results came in one after the other. -/
def Cache.insertAll (c : Cache) (results : List Fetched) (now : Nat) : Cache :=
  results.foldl (fun c f => c.insert f.query f.suggestions now) c

namespace Service

/-! ## Moves and runs -/

/-- What can happen to a service. -/
inductive Move where
  | request (query : String) (now : Nat)
  | poll (now : Nat)
  | release
  | die
  | replace (source : Source)

/-- The service after a move. -/
def move (s : Service) : Move → Service
  | .request query now => (s.request query now).1
  | .poll now => (s.poll now).1
  | .release => s.release
  | .die => s.die
  | .replace source => s.withSource source

/-- The service after some moves. -/
def run (s : Service) (moves : List Move) : Service := moves.foldl move s

/-! ## Traces -/

/-- The query that a move dispatches: the one that a request puts in flight. -/
def dispatches (s : Service) : Move → List String
  | .request query now =>
    if (s.request query now).1.isInFlight query && !s.isInFlight query then [query] else []
  | _ => []

/-- The fetch that a move finishes, with what the source returned for it. -/
def fetches (s : Service) (m : Move) : List (String × Except LookupError Catalog) :=
  ((s.move m).history.drop s.history.length).map fun query => (query, s.source query)

/-- The results that a move hands out. -/
def handsOut (s : Service) : Move → List Fetched
  | .poll now => (s.poll now).2
  | _ => []

/-- The queries dispatched in a run, in order. -/
def dispatched (s : Service) (moves : List Move) : List String :=
  trace move dispatches s moves

/-- The fetches carried out in a run, in order. -/
def fetched (s : Service) (moves : List Move) : List (String × Except LookupError Catalog) :=
  trace move fetches s moves

/-- The results handed out in a run, in order. -/
def handedOut (s : Service) (moves : List Move) : List Fetched :=
  trace move handsOut s moves

@[simp] theorem run_nil (s : Service) : s.run [] = s := rfl

@[simp] theorem run_cons (s : Service) (m : Move) (rest : List Move) :
    s.run (m :: rest) = (s.move m).run rest := rfl

theorem run_append (s : Service) (first second : List Move) :
    s.run (first ++ second) = (s.run first).run second := List.foldl_append ..

/-- What every move of a run keeps holds at its end. -/
theorem run_induction {P : Service → Prop} {moves : List Move}
    (keeps : ∀ m ∈ moves, ∀ s, P s → P (s.move m)) {s : Service} (h : P s) : P (s.run moves) := by
  induction moves generalizing s with
  | nil => exact h
  | cons m rest ih =>
    rw [run_cons]
    apply ih fun x hx => keeps x (List.mem_cons_of_mem _ hx)
    exact keeps m (List.mem_cons_self ..) s h

@[simp] theorem dispatched_cons (s : Service) (m : Move) (rest : List Move) :
    s.dispatched (m :: rest) = s.dispatches m ++ (s.move m).dispatched rest := rfl

@[simp] theorem fetched_cons (s : Service) (m : Move) (rest : List Move) :
    s.fetched (m :: rest) = s.fetches m ++ (s.move m).fetched rest := rfl

@[simp] theorem handedOut_cons (s : Service) (m : Move) (rest : List Move) :
    s.handedOut (m :: rest) = s.handsOut m ++ (s.move m).handedOut rest := rfl

theorem dispatched_append (s : Service) (first second : List Move) :
    s.dispatched (first ++ second) = s.dispatched first ++ (s.run first).dispatched second :=
  trace_append ..

theorem handedOut_append (s : Service) (first second : List Move) :
    s.handedOut (first ++ second) = s.handedOut first ++ (s.run first).handedOut second :=
  trace_append ..

/-! ## Requests -/

/-- A request is answered from the cache, joins the fetch of its query, or
    dispatches one. -/
theorem request_cases (s : Service) (query : String) (now : Nat) :
    (∃ found, s.cached? query now = some found ∧ s.request query now = (s, .ready found))
    ∨ (s.cached? query now = none ∧ s.isInFlight query = true
        ∧ s.request query now = (s, .pending))
    ∨ (s.cached? query now = none ∧ s.isInFlight query = false
        ∧ s.request query now = (s.dispatchQuery query, .pending)) := by
  rw [request]
  cases hc : s.cached? query now with
  | some found => exact Or.inl ⟨found, rfl, rfl⟩
  | none =>
    cases hf : s.isInFlight query with
    | true => exact Or.inr (Or.inl ⟨rfl, rfl, rfl⟩)
    | false => exact Or.inr (Or.inr ⟨rfl, rfl, rfl⟩)

/-- What a request can do to the service: nothing, or the dispatch of its query. -/
theorem request_service (s : Service) (query : String) (now : Nat) :
    (s.request query now).1 = s
    ∨ (s.isInFlight query = false ∧ (s.request query now).1 = s.dispatchQuery query) := by
  rcases s.request_cases query now with ⟨_, _, h⟩ | ⟨_, _, h⟩ | ⟨_, hf, h⟩
  · exact Or.inl (by rw [h])
  · exact Or.inl (by rw [h])
  · exact Or.inr ⟨hf, by rw [h]⟩

/-- Only polls hand out. -/
theorem handedOut_requests {s : Service} {moves : List Move}
    (h : ∀ m ∈ moves, ∃ query now, m = .request query now) : s.handedOut moves = [] := by
  induction moves generalizing s with
  | nil => rfl
  | cons m rest ih =>
    obtain ⟨query, now, rfl⟩ := h m (List.mem_cons_self ..)
    rw [handedOut_cons, ih fun m hm => h m (List.mem_cons_of_mem _ hm)]
    rfl

/-! ## Polls -/

/-- Taking results in one after the other. -/
theorem foldl_deliver (s : Service) (results : List Fetched) (now : Nat) :
    results.foldl (deliver now) s =
      { s with
        inFlight := s.inFlight.filter fun query => !(results.map (·.query)).contains query
        cache := s.cache.insertAll results now } := by
  induction results generalizing s with
  | nil =>
    have hall : s.inFlight.filter (fun _ => true) = s.inFlight :=
      List.filter_eq_self.2 fun _ _ => rfl
    simp only [List.foldl_nil, List.map_nil, List.contains_nil, Bool.not_false,
      Cache.insertAll, hall]
  | cons f rest ih =>
    rw [List.foldl_cons, ih]
    simp only [deliver, List.filter_filter, List.map_cons, List.contains_cons, Cache.insertAll,
      List.foldl_cons, Bool.not_or, bne, Bool.and_comm]

/-- A poll hands out the finished fetches, takes them into the cache, and ends
    their flight. -/
theorem poll_eq (s : Service) (now : Nat) :
    s.poll now =
      ({ s with
          finished := []
          inFlight := s.inFlight.filter fun query => !(s.finished.map (·.query)).contains query
          cache := s.cache.insertAll s.finished now }, s.finished) := by
  rw [poll, foldl_deliver]

/-! ## Effects -/

/-- What a move does to the source, the cache and the finished fetches, and what it
    hands out: nothing, the fetch of a query, a poll, or another source. -/
inductive Effect (s : Service) (m : Move) : Prop where
  | none (source : (s.move m).source = s.source) (cache : (s.move m).cache = s.cache)
      (finished : (s.move m).finished = s.finished) (out : s.handsOut m = [])
  | fetch (query : String) (source : (s.move m).source = s.source)
      (cache : (s.move m).cache = s.cache)
      (finished : (s.move m).finished = s.finished ++ [⟨query, s.source.resolve query⟩])
      (out : s.handsOut m = [])
  | poll (now : Nat) (source : (s.move m).source = s.source)
      (cache : (s.move m).cache = s.cache.insertAll s.finished now)
      (finished : (s.move m).finished = []) (out : s.handsOut m = s.finished)
  | replace (other : Source) (move : m = .replace other) (cache : (s.move m).cache = s.cache)
      (finished : (s.move m).finished = s.finished) (out : s.handsOut m = [])

/-- Every move has one of these effects. -/
theorem effect (s : Service) (m : Move) : Effect s m := by
  cases m with
  | request query now =>
    have hmove : s.move (.request query now) = (s.request query now).1 := rfl
    rcases s.request_service query now with heq | ⟨-, heq⟩
    · rw [heq] at hmove
      exact .none (by rw [hmove]) (by rw [hmove]) (by rw [hmove]) rfl
    · rw [heq] at hmove
      rw [dispatchQuery] at hmove
      split at hmove
      · exact .fetch query (by rw [hmove]; rfl) (by rw [hmove]; rfl) (by rw [hmove]; rfl) rfl
      · exact .none (by rw [hmove]) (by rw [hmove]) (by rw [hmove]) rfl
      · exact .none (by rw [hmove]) (by rw [hmove]) (by rw [hmove]) rfl
  | poll now =>
    have hmove : s.move (.poll now) = (s.poll now).1 := rfl
    rw [poll_eq] at hmove
    exact .poll now (by rw [hmove]) (by rw [hmove]) (by rw [hmove]) rfl
  | release =>
    have hmove : s.move .release = s.release := rfl
    rw [release] at hmove
    split at hmove
    · exact .none (by rw [hmove]) (by rw [hmove]) (by rw [hmove]) rfl
    · rename_i query rest _
      exact .fetch query (by rw [hmove]; rfl) (by rw [hmove]; rfl) (by rw [hmove]; rfl) rfl
  | die =>
    have hmove : s.move .die = s.die := rfl
    rw [die] at hmove
    split at hmove
    · exact .none (by rw [hmove]) (by rw [hmove]) (by rw [hmove]) rfl
    · exact .none (by rw [hmove]) (by rw [hmove]) (by rw [hmove]) rfl
  | replace other => exact .replace other rfl rfl rfl rfl

/-- A move takes into the cache what it hands out, and nothing else. -/
theorem cache_move (s : Service) (m : Move) :
    ∃ now, (s.move m).cache = s.cache.insertAll (s.handsOut m) now := by
  cases s.effect m with
  | none _ cache _ out => exact ⟨0, by rw [cache, out]; rfl⟩
  | fetch _ _ cache _ out => exact ⟨0, by rw [cache, out]; rfl⟩
  | poll now _ cache _ out => exact ⟨now, by rw [cache, out]⟩
  | replace _ _ cache _ out => exact ⟨0, by rw [cache, out]; rfl⟩

end Service

end TagCalc
