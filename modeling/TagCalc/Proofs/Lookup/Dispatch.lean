/-
  TagCalc.Proofs.Lookup.Dispatch

  Callers cannot tell inline dispatch from a worker that has caught up. The worker
  finishes all that waits before each poll; then every call returns what it would
  return if fetches were carried out at once.

  The two services are related by what the worker still has to do: inline, the
  fetches that wait are finished already (`Mirrors`). A fetch that the worker
  finishes keeps this (`Mirrors.release`), and so does every call, which returns
  the same on both sides (`Mirrors.call`).
-/

import TagCalc.Proofs.Lookup.Flight

namespace TagCalc

/-! ## Calls -/

/-- What a caller can ask of a service. -/
inductive Call where
  | request (query : String) (now : Nat)
  | poll (now : Nat)
  | isInFlight (query : String)
  | cached (query : String) (now : Nat)
  | lastKnown (query : String)

/-- What a call returns. -/
inductive Reply where
  | answer (answer : Answer)
  | results (results : List Fetched)
  | inFlight (flying : Bool)
  | known (found : Option Catalog)

namespace Service

/-- The service after a call, and what the call returns. -/
def call (s : Service) : Call → Service × Reply
  | .request query now => ((s.request query now).1, .answer (s.request query now).2)
  | .poll now => ((s.poll now).1, .results (s.poll now).2)
  | .isInFlight query => (s, .inFlight (s.isInFlight query))
  | .cached query now => (s, .known (s.cached? query now))
  | .lastKnown query => (s, .known (s.lastKnown? query))

/-- What the calls of a run return, in order. -/
def replies (s : Service) (calls : List Call) : List Reply :=
  trace (fun s c => (s.call c).1) (fun s c => [(s.call c).2]) s calls

/-- The service once every fetch that waits is finished. -/
def settle (s : Service) : Service := s.run (s.waiting.map fun _ => .release)

/-- The state in which a call finds a worker that catches up before each poll, and
    only then. -/
def caughtUp (s : Service) : Call → Service
  | .poll _ => s.settle
  | _ => s

/-- What the calls of a run return when the worker catches up before each poll. -/
def repliesCaughtUp (s : Service) (calls : List Call) : List Reply :=
  trace (fun s c => ((s.caughtUp c).call c).1) (fun s c => [((s.caughtUp c).call c).2]) s calls

/-! ## Catching up -/

theorem waiting_run_releases {s : Service} {queue : List String} (h : s.waiting = queue) :
    (s.run (queue.map fun _ => .release)).waiting = [] := by
  induction queue generalizing s with
  | nil => exact h
  | cons query rest ih =>
    -- the first release takes the head of the queue and leaves the rest to the others
    rw [List.map_cons, run_cons]
    apply ih
    show s.release.waiting = rest
    rw [release_cons h]
    rfl

theorem waiting_settle (s : Service) : s.settle.waiting = [] := waiting_run_releases rfl

/-! ## The relation -/

/-- An inline service and a worker that agree, except that the worker has not yet
    finished what waits. -/
structure Mirrors (i w : Service) : Prop where
  inline : i.dispatch = .inline
  worker : w.dispatch = .worker
  source : w.source = i.source
  cache : w.cache = i.cache
  inFlight : w.inFlight = i.inFlight
  finished : i.finished
    = w.finished ++ w.waiting.map fun query => ⟨query, i.source.resolve query⟩

theorem Mirrors.new (source : Source) (cache : Cache) :
    Mirrors (Service.new source cache .inline) (Service.new source cache .worker) :=
  ⟨rfl, rfl, rfl, rfl, rfl, rfl⟩

variable {i w : Service}

/-- The worker finishes a fetch that is finished inline. -/
theorem Mirrors.release (h : Mirrors i w) : Mirrors i w.release := by
  cases hw : w.waiting with
  | nil =>
    rw [release_nil hw]
    exact h
  | cons query rest =>
    rw [release_cons hw]
    refine ⟨h.inline, h.worker, h.source, h.cache, h.inFlight, ?_⟩
    -- the query moves from the head of those that wait to the end of the results
    show i.finished = (w.finished ++ [⟨query, w.source.resolve query⟩]) ++ rest.map _
    rw [h.finished, hw, h.source, List.map_cons, List.append_assoc, List.singleton_append]

theorem Mirrors.settle (h : Mirrors i w) : Mirrors i w.settle := by
  apply run_induction (P := Mirrors i) _ h
  intro m hm t ht
  obtain ⟨_, _, rfl⟩ := List.mem_map.1 hm
  exact ht.release

/-- The worker queues a fetch that inline is finished at once. -/
theorem Mirrors.dispatchQuery (h : Mirrors i w) (query : String) :
    Mirrors (i.dispatchQuery query) (w.dispatchQuery query) := by
  rw [dispatchQuery_inline h.inline, dispatchQuery_worker h.worker]
  refine ⟨h.inline, h.worker, h.source, h.cache, ?_, ?_⟩
  · show w.inFlight ++ [query] = i.inFlight ++ [query]
    rw [h.inFlight]
  · show i.finished ++ [⟨query, i.source.resolve query⟩]
      = w.finished ++ (w.waiting ++ [query]).map fun q => ⟨q, i.source.resolve q⟩
    rw [h.finished, List.map_append, List.append_assoc]
    rfl

/-- Both find the same in the cache and the same queries in flight, so they answer
    a request alike and dispatch its query together. -/
theorem Mirrors.request (h : Mirrors i w) (query : String) (now : Nat) :
    (i.request query now).2 = (w.request query now).2
    ∧ Mirrors (i.request query now).1 (w.request query now).1 := by
  -- the queues are all that differs, and a request reads neither of them
  have hcached : w.cached? query now = i.cached? query now := by
    rw [cached?, cached?, h.cache]
  have hflying : w.isInFlight query = i.isInFlight query := by
    rw [isInFlight, isInFlight, h.inFlight]
  rw [Service.request, Service.request, hcached, hflying]
  cases i.cached? query now with
  | some found => exact ⟨rfl, h⟩
  | none =>
    cases i.isInFlight query with
    | true => exact ⟨rfl, h⟩
    | false => exact ⟨rfl, h.dispatchQuery query⟩

/-- When nothing waits, both hand out the same. -/
theorem Mirrors.poll (h : Mirrors i w) (hw : w.waiting = []) (now : Nat) :
    (i.poll now).2 = (w.poll now).2 ∧ Mirrors (i.poll now).1 (w.poll now).1 := by
  have hfinished : i.finished = w.finished := by
    rw [h.finished, hw, List.map_nil, List.append_nil]
  rw [poll_eq, poll_eq]
  refine ⟨hfinished, h.inline, h.worker, h.source, ?_, ?_, ?_⟩
  · show w.cache.insertAll w.finished now = i.cache.insertAll i.finished now
    rw [h.cache, hfinished]
  · show w.inFlight.filter _ = i.inFlight.filter _
    rw [h.inFlight, hfinished]
  · show [] = [] ++ w.waiting.map _
    rw [hw, List.map_nil, List.append_nil]

/-- Every call returns the same on both sides and keeps them related. -/
theorem Mirrors.call (h : Mirrors i w) (c : Call) :
    (i.call c).2 = ((w.caughtUp c).call c).2
    ∧ Mirrors (i.call c).1 ((w.caughtUp c).call c).1 := by
  cases c with
  | request query now =>
    obtain ⟨hsame, hnext⟩ := h.request query now
    exact ⟨congrArg Reply.answer hsame, hnext⟩
  | poll now =>
    -- this is where catching up is needed: the worker could hand out less
    obtain ⟨hsame, hnext⟩ := h.settle.poll w.waiting_settle now
    exact ⟨congrArg Reply.results hsame, hnext⟩
  | isInFlight query =>
    refine ⟨?_, h⟩
    show Reply.inFlight (i.isInFlight query) = .inFlight (w.isInFlight query)
    rw [isInFlight, isInFlight, h.inFlight]
  | cached query now =>
    refine ⟨?_, h⟩
    show Reply.known (i.cached? query now) = .known (w.cached? query now)
    rw [cached?, cached?, h.cache]
  | lastKnown query =>
    refine ⟨?_, h⟩
    show Reply.known (i.lastKnown? query) = .known (w.lastKnown? query)
    rw [lastKnown?, lastKnown?, h.cache]

/-- Whatever the source, the windows and the calls, a service that fetches inline
    returns what one with a worker returns that catches up before each poll: the
    same answers to requests, the same results in the same order, and the same
    queries in flight and remembered lists at every call. -/
theorem replies_inline_eq_worker (source : Source) (fullWindow queryWindow : Nat)
    (calls : List Call) :
    (Service.new source (.empty fullWindow queryWindow) .inline).replies calls
      = (Service.new source (.empty fullWindow queryWindow) .worker).repliesCaughtUp calls := by
  apply trace_eq_of_related (R := Mirrors) _ (.new source (.empty fullWindow queryWindow))
  intro c i w h
  obtain ⟨hsame, hnext⟩ := h.call c
  exact ⟨congrArg (fun reply => [reply]) hsame, hnext⟩

end Service

end TagCalc
