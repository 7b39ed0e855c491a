/-
  TagCalc.Proofs.Lookup.Flight

  Every dispatch is handed out once, in order. The queries outstanding are those
  of the finished fetches that no poll has handed out, and after them those that
  still wait for the worker. They are distinct, and as long as the worker lives
  they are the queries in flight.

  A move appends what it dispatches to the outstanding queries and takes what it
  hands out off their front (`outstanding_move`); likewise it appends what it
  fetches to the finished results (`finished_move`). Over a run this adds up
  (`outstanding_run`, `finished_run`).
-/

import TagCalc.Proofs.Lookup.Run

namespace TagCalc

/-- The result of a fetch: of the suggestions that the source returned, the first
    of each id, and of these the ones that match; none if the source failed. -/
def Fetched.ofAnswer (fetch : String × Except LookupError Catalog) : Fetched where
  query := fetch.1
  suggestions :=
    match fetch.2 with
    | .ok found => (Catalog.dedup found).filterBy fetch.1
    | .error _ => []

theorem Fetched.ofAnswer_source (source : Source) (query : String) :
    Fetched.ofAnswer (query, source query) = ⟨query, source.resolve query⟩ := by
  unfold Fetched.ofAnswer Source.resolve Source.lookup
  cases source query with
  | ok found => rfl
  | error e => rfl

namespace Service

/-- The queries dispatched and not handed out, the oldest first. -/
def outstanding (s : Service) : List String := s.finished.map (·.query) ++ s.waiting

/-- The queues and the queries in flight agree. The worker may have died: then
    queries can be in flight that no queue holds. -/
structure Consistent (s : Service) : Prop where
  waiting_eq_nil : s.dispatch ≠ .worker → s.waiting = []
  nodup : s.outstanding.Nodup
  mem_inFlight : ∀ q ∈ s.outstanding, q ∈ s.inFlight

/-- Every query in flight is in one of the queues. -/
def NoneLost (s : Service) : Prop := ∀ q ∈ s.inFlight, q ∈ s.outstanding

theorem isInFlight_iff {s : Service} {query : String} :
    s.isInFlight query = true ↔ query ∈ s.inFlight := by
  simp [isInFlight]

theorem not_mem_inFlight {s : Service} {query : String} (h : s.isInFlight query = false) :
    query ∉ s.inFlight := by
  intro hm
  rw [isInFlight_iff.2 hm] at h
  cases h

/-! ## Dispatching -/

/-- A dead worker takes no orders. -/
theorem dispatchQuery_dead {s : Service} (h : s.dispatch = .deadWorker) (query : String) :
    s.dispatchQuery query = s := by
  rw [dispatchQuery]
  rw [h]

theorem dispatchQuery_inline {s : Service} (h : s.dispatch = .inline) (query : String) :
    s.dispatchQuery query = { s with inFlight := s.inFlight ++ [query] }.finish query := by
  rw [dispatchQuery]
  rw [h]

theorem dispatchQuery_worker {s : Service} (h : s.dispatch = .worker) (query : String) :
    s.dispatchQuery query
      = { s with inFlight := s.inFlight ++ [query], waiting := s.waiting ++ [query] } := by
  rw [dispatchQuery]
  rw [h]

theorem inFlight_dispatchQuery {s : Service} (live : s.dispatch ≠ .deadWorker) (query : String) :
    (s.dispatchQuery query).inFlight = s.inFlight ++ [query] := by
  rw [dispatchQuery]
  cases hd : s.dispatch with
  | inline => rfl
  | worker => rfl
  | deadWorker => exact absurd hd live

theorem dispatch_dispatchQuery (s : Service) (query : String) :
    (s.dispatchQuery query).dispatch = s.dispatch := by
  rw [dispatchQuery]
  cases hd : s.dispatch <;> simp [finish, hd]

theorem outstanding_dispatchQuery {s : Service} (h : s.Consistent)
    (live : s.dispatch ≠ .deadWorker) (query : String) :
    (s.dispatchQuery query).outstanding = s.outstanding ++ [query] := by
  rw [dispatchQuery]
  cases hd : s.dispatch with
  | inline =>
    have hw : s.waiting = [] := h.waiting_eq_nil (by simp [hd])
    simp [outstanding, finish, hw]
  | worker => simp [outstanding]
  | deadWorker => exact absurd hd live

theorem Consistent.dispatchQuery {s : Service} (h : s.Consistent) {query : String}
    (hnew : s.isInFlight query = false) : (s.dispatchQuery query).Consistent := by
  by_cases hdead : s.dispatch = .deadWorker
  · rw [dispatchQuery_dead hdead]
    exact h
  · -- what is not in flight is not outstanding either, so the queries stay distinct
    have hfresh : query ∉ s.outstanding := fun hm => not_mem_inFlight hnew (h.mem_inFlight _ hm)
    refine ⟨?_, ?_, ?_⟩
    · intro hmode
      rw [dispatch_dispatchQuery] at hmode
      have hw := h.waiting_eq_nil hmode
      rw [Service.dispatchQuery]
      cases hd : s.dispatch with
      | inline => exact hw
      | worker => exact absurd hd hmode
      | deadWorker => exact absurd hd hdead
    · rw [outstanding_dispatchQuery h hdead, List.nodup_append]
      refine ⟨h.nodup, by simp, ?_⟩
      intro a ha b hb
      rw [List.mem_singleton] at hb
      subst hb
      exact fun heq => hfresh (heq ▸ ha)
    · intro q hq
      rw [outstanding_dispatchQuery h hdead, List.mem_append] at hq
      rw [inFlight_dispatchQuery hdead, List.mem_append]
      exact hq.imp_left (h.mem_inFlight q)

theorem NoneLost.dispatchQuery {s : Service} (h : s.Consistent) (hlost : s.NoneLost)
    (query : String) : (s.dispatchQuery query).NoneLost := by
  by_cases hdead : s.dispatch = .deadWorker
  · rw [dispatchQuery_dead hdead]
    exact hlost
  · intro q hq
    rw [inFlight_dispatchQuery hdead, List.mem_append] at hq
    rw [outstanding_dispatchQuery h hdead, List.mem_append]
    exact hq.imp_left (hlost q)

/-- A live worker has in flight what it is asked for and cannot answer. -/
theorem mem_inFlight_request {s : Service} (live : s.dispatch ≠ .deadWorker) {query : String}
    {now : Nat} (h : (s.request query now).2 = .pending) :
    query ∈ (s.request query now).1.inFlight := by
  rcases s.request_cases query now with ⟨found, -, heq⟩ | ⟨-, hf, heq⟩ | ⟨-, -, heq⟩
  · rw [heq] at h
    cases h
  · rw [heq]
    exact isInFlight_iff.1 hf
  · rw [heq, inFlight_dispatchQuery live]
    exact List.mem_append_right _ (List.mem_singleton_self _)

/-- A request ends no flight. -/
theorem mem_inFlight_request_of_mem {s : Service} {q : String} (hq : q ∈ s.inFlight)
    (query : String) (now : Nat) : q ∈ (s.request query now).1.inFlight := by
  rcases s.request_service query now with heq | ⟨-, heq⟩
  · rw [heq]
    exact hq
  · rw [heq]
    by_cases hdead : s.dispatch = .deadWorker
    · rw [dispatchQuery_dead hdead]
      exact hq
    · rw [inFlight_dispatchQuery hdead]
      exact List.mem_append_left _ hq

/-- A request does not touch the flight of other queries. -/
theorem isInFlight_request_of_ne (s : Service) {q query : String} (hne : q ≠ query) (now : Nat) :
    (s.request query now).1.isInFlight q = s.isInFlight q := by
  rcases s.request_service query now with heq | ⟨-, heq⟩
  · rw [heq]
  · rw [heq]
    by_cases hdead : s.dispatch = .deadWorker
    · rw [dispatchQuery_dead hdead]
    · rw [isInFlight, inFlight_dispatchQuery hdead]
      simp [isInFlight, hne]

/-! ## Finishing -/

theorem release_nil {s : Service} (h : s.waiting = []) : s.release = s := by
  rw [release]
  rw [h]

theorem release_cons {s : Service} {query : String} {rest : List String}
    (h : s.waiting = query :: rest) : s.release = { s with waiting := rest }.finish query := by
  rw [release]
  rw [h]

theorem outstanding_release (s : Service) : s.release.outstanding = s.outstanding := by
  rw [release]
  cases hw : s.waiting with
  | nil => rfl
  | cons query rest => simp [outstanding, finish, hw]

theorem inFlight_release (s : Service) : s.release.inFlight = s.inFlight := by
  rw [release]
  cases s.waiting <;> rfl

/-- When the worker dies, what was in flight stays in flight. -/
theorem inFlight_die (s : Service) : s.die.inFlight = s.inFlight := by
  rw [Service.die]
  split <;> rfl

theorem Consistent.release {s : Service} (h : s.Consistent) : s.release.Consistent := by
  refine ⟨?_, ?_, ?_⟩
  · intro hmode
    unfold Service.release at hmode ⊢
    cases hw : s.waiting with
    | nil => exact hw
    | cons query rest =>
      rw [hw] at hmode
      have hnil := h.waiting_eq_nil hmode
      rw [hw] at hnil
      cases hnil
  · rw [outstanding_release]
    exact h.nodup
  · rw [outstanding_release, inFlight_release]
    exact h.mem_inFlight

/-- When the worker dies, only what was finished stays outstanding. -/
theorem Consistent.die {s : Service} (h : s.Consistent) : s.die.Consistent := by
  rw [Service.die]
  cases hw : s.waiting with
  | nil => exact h
  | cons query rest =>
    -- what waited is gone from the queue, though not from the flight
    have hsub : List.Sublist (s.finished.map (·.query) ++ []) s.outstanding :=
      List.Sublist.append_left (List.nil_sublist _) _
    exact ⟨fun _ => rfl, h.nodup.sublist hsub, fun q hq => h.mem_inFlight q (hsub.subset hq)⟩

/-! ## Handing out -/

theorem outstanding_poll (s : Service) (now : Nat) : (s.poll now).1.outstanding = s.waiting := by
  rw [poll_eq]
  rfl

/-- After a poll, the queries in flight are those that were in flight and were not
    handed out. -/
theorem mem_inFlight_poll {s : Service} {now : Nat} {q : String} :
    q ∈ (s.poll now).1.inFlight ↔ q ∈ s.inFlight ∧ q ∉ s.finished.map (·.query) := by
  rw [poll_eq]
  simp only [List.mem_filter, Bool.not_eq_true', List.contains_eq_mem, decide_eq_false_iff_not]

/-- What waits is in flight and is not among the finished. -/
theorem Consistent.of_waiting {s : Service} (h : s.Consistent) {q : String}
    (hq : q ∈ s.waiting) : q ∈ s.inFlight ∧ q ∉ s.finished.map (·.query) := by
  have hnodup := h.nodup
  rw [outstanding, List.nodup_append] at hnodup
  obtain ⟨-, -, hdisjoint⟩ := hnodup
  exact ⟨h.mem_inFlight q (List.mem_append_right _ hq), fun hf => hdisjoint q hf q hq rfl⟩

theorem Consistent.poll {s : Service} (h : s.Consistent) (now : Nat) :
    (s.poll now).1.Consistent := by
  refine ⟨?_, ?_, ?_⟩
  · rw [poll_eq]
    exact h.waiting_eq_nil
  · rw [outstanding_poll]
    exact h.nodup.sublist (List.sublist_append_right _ _)
  · intro q hq
    rw [outstanding_poll] at hq
    rw [mem_inFlight_poll]
    exact h.of_waiting hq

theorem NoneLost.poll {s : Service} (hlost : s.NoneLost) (now : Nat) :
    (s.poll now).1.NoneLost := by
  intro q hq
  rw [mem_inFlight_poll] at hq
  rw [outstanding_poll]
  exact (List.mem_append.1 (hlost q hq.1)).resolve_left hq.2

/-! ## Moves -/

theorem Consistent.move {s : Service} (h : s.Consistent) (m : Move) : (s.move m).Consistent := by
  cases m with
  | request query now =>
    show (s.request query now).1.Consistent
    rcases s.request_service query now with heq | ⟨hnew, heq⟩
    · rw [heq]
      exact h
    · rw [heq]
      exact h.dispatchQuery hnew
  | poll now => exact h.poll now
  | release => exact h.release
  | die => exact h.die
  | replace source => exact ⟨h.waiting_eq_nil, h.nodup, h.mem_inFlight⟩

/-- Only the death of the worker loses queries. -/
theorem NoneLost.move {s : Service} (h : s.Consistent) (hlost : s.NoneLost) {m : Move}
    (hm : m ≠ .die) : (s.move m).NoneLost := by
  cases m with
  | request query now =>
    show (s.request query now).1.NoneLost
    rcases s.request_service query now with heq | ⟨-, heq⟩
    · rw [heq]
      exact hlost
    · rw [heq]
      exact hlost.dispatchQuery h query
  | poll now => exact hlost.poll now
  | release =>
    intro q hq
    show q ∈ s.release.outstanding
    rw [outstanding_release]
    exact hlost q (s.inFlight_release ▸ hq)
  | die => exact absurd rfl hm
  | replace source => exact hlost

/-- A move appends what it dispatches to the outstanding queries and takes what it
    hands out off their front. -/
theorem outstanding_move {s : Service} (h : s.Consistent) {m : Move} (hm : m ≠ .die) :
    s.outstanding ++ s.dispatches m
      = (s.handsOut m).map (·.query) ++ (s.move m).outstanding := by
  cases m with
  | request query now =>
    show s.outstanding ++ s.dispatches (.request query now) = (s.request query now).1.outstanding
    rw [dispatches]
    rcases s.request_service query now with heq | ⟨hnew, heq⟩
    · simp [heq]
    · -- a dispatch is seen by the query that is in flight afterwards and was not before
      by_cases hdead : s.dispatch = .deadWorker
      · simp [heq, dispatchQuery_dead hdead]
      · have hin : (s.dispatchQuery query).isInFlight query = true := by
          rw [isInFlight_iff, inFlight_dispatchQuery hdead]
          simp
        simp [heq, hnew, hin, outstanding_dispatchQuery h hdead]
  | poll now =>
    show s.outstanding ++ [] = (s.poll now).2.map (·.query) ++ (s.poll now).1.outstanding
    rw [outstanding_poll, poll_eq, List.append_nil]
    rfl
  | release =>
    show s.outstanding ++ [] = s.release.outstanding
    rw [outstanding_release, List.append_nil]
  | die => exact absurd rfl hm
  | replace source => exact List.append_nil _

/-- A move appends what it fetches to the finished results and takes what it hands
    out off their front. -/
theorem finished_move (s : Service) (m : Move) :
    s.finished ++ (s.fetches m).map Fetched.ofAnswer = s.handsOut m ++ (s.move m).finished := by
  cases m with
  | request query now =>
    show s.finished ++ (s.fetches (.request query now)).map _ = (s.request query now).1.finished
    unfold fetches move
    rcases s.request_service query now with heq | ⟨-, heq⟩
    · simp [heq]
    · simp only [heq]
      rw [dispatchQuery]
      cases s.dispatch <;> simp [finish, Fetched.ofAnswer_source]
  | poll now =>
    unfold fetches move handsOut
    simp [poll_eq]
  | release =>
    unfold fetches move handsOut release
    cases s.waiting <;> simp [finish, Fetched.ofAnswer_source]
  | die =>
    unfold fetches move handsOut die
    cases s.waiting <;> simp
  | replace source => simp [fetches, move, handsOut, withSource]

/-! ## Runs -/

theorem Consistent.new (source : Source) (cache : Cache) (dispatch : Dispatch) :
    (Service.new source cache dispatch).Consistent :=
  ⟨fun _ => rfl, List.nodup_nil, fun _ hq => hq⟩

theorem NoneLost.new (source : Source) (cache : Cache) (dispatch : Dispatch) :
    (Service.new source cache dispatch).NoneLost := fun _ hq => hq

theorem Consistent.run {s : Service} (h : s.Consistent) (moves : List Move) :
    (s.run moves).Consistent := by
  apply run_induction _ h
  intro m _ s hs
  exact hs.move m

theorem NoneLost.run {s : Service} (h : s.Consistent) (hlost : s.NoneLost) {moves : List Move}
    (alive : .die ∉ moves) : (s.run moves).NoneLost := by
  -- that none is lost is kept only where the queues and the flight agree
  have hboth : (s.run moves).Consistent ∧ (s.run moves).NoneLost := by
    apply run_induction (P := fun s => s.Consistent ∧ s.NoneLost) _ ⟨h, hlost⟩
    intro m hm s hs
    have hlives : m ≠ .die := fun heq => alive (heq ▸ hm)
    exact ⟨hs.1.move m, hs.2.move hs.1 hlives⟩
  exact hboth.2

theorem outstanding_run {s : Service} (h : s.Consistent) {moves : List Move}
    (alive : .die ∉ moves) :
    s.outstanding ++ s.dispatched moves
      = (s.handedOut moves).map (·.query) ++ (s.run moves).outstanding := by
  induction moves generalizing s with
  | nil => exact List.append_nil _
  | cons m rest ih =>
    rw [List.mem_cons, not_or] at alive
    -- the outstanding queries after the first move are what the rest starts with
    rw [dispatched_cons, handedOut_cons, run_cons, List.map_append, List.append_assoc,
      ← ih (h.move m) alive.2, ← List.append_assoc, ← List.append_assoc,
      outstanding_move h (Ne.symm alive.1)]

theorem finished_run (s : Service) (moves : List Move) :
    s.finished ++ (s.fetched moves).map Fetched.ofAnswer
      = s.handedOut moves ++ (s.run moves).finished := by
  induction moves generalizing s with
  | nil => exact List.append_nil _
  | cons m rest ih =>
    rw [fetched_cons, handedOut_cons, run_cons, List.map_append, List.append_assoc, ← ih,
      ← List.append_assoc, ← List.append_assoc, finished_move]

theorem dispatch_move (s : Service) {m : Move} (hm : m ≠ .die) :
    (s.move m).dispatch = s.dispatch := by
  cases m with
  | request query now =>
    show (s.request query now).1.dispatch = s.dispatch
    rcases s.request_service query now with heq | ⟨-, heq⟩
    · rw [heq]
    · rw [heq, dispatch_dispatchQuery]
  | poll now =>
    show (s.poll now).1.dispatch = s.dispatch
    rw [poll_eq]
  | release =>
    show s.release.dispatch = s.dispatch
    rw [release]
    cases s.waiting <;> rfl
  | die => exact absurd rfl hm
  | replace source => rfl

theorem dispatch_run (s : Service) {moves : List Move} (alive : .die ∉ moves) :
    (s.run moves).dispatch = s.dispatch := by
  apply run_induction (P := fun t => t.dispatch = s.dispatch) _ rfl
  intro m hm t ht
  have hlives : m ≠ .die := fun heq => alive (heq ▸ hm)
  rw [t.dispatch_move hlives, ht]

/-- There is a live worker, or none is needed, and no query is lost. -/
structure Alive (s : Service) : Prop where
  dispatch_ne : s.dispatch ≠ .deadWorker
  consistent : s.Consistent
  noneLost : s.NoneLost

theorem Alive.new (source : Source) (cache : Cache) {dispatch : Dispatch}
    (h : dispatch ≠ .deadWorker) : (Service.new source cache dispatch).Alive :=
  ⟨h, .new source cache dispatch, NoneLost.new source cache dispatch⟩

theorem Alive.run {s : Service} (h : s.Alive) {moves : List Move} (alive : .die ∉ moves) :
    (s.run moves).Alive := by
  refine ⟨?_, h.consistent.run moves, h.noneLost.run h.consistent alive⟩
  rw [s.dispatch_run alive]
  exact h.dispatch_ne

/-- A request dispatches its query unless the query is fresh in the cache or in
    flight. -/
theorem dispatches_request {s : Service} (live : s.dispatch ≠ .deadWorker) (query : String)
    (now : Nat) :
    s.dispatches (.request query now)
      = if s.isInFlight query = true ∨ (s.cached? query now).isSome = true then []
        else [query] := by
  rw [dispatches]
  rcases s.request_cases query now with ⟨found, hc, heq⟩ | ⟨hc, hf, heq⟩ | ⟨hc, hf, heq⟩
  · simp [heq, hc]
  · simp [heq, hf]
  · have hin : (s.dispatchQuery query).isInFlight query = true := by
      rw [isInFlight_iff, inFlight_dispatchQuery live]
      simp
    simp [heq, hc, hf, hin]

/-- While no fetch panics, the queries outstanding are distinct and are those in
    flight; what was handed out, followed by what is outstanding, is what was
    dispatched, in this order; and what was handed out, followed by what is
    finished, is what the fetches found. A poll hands out all that is finished and
    ends its flight, and a request for a query that is in flight or fresh changes
    nothing. -/
theorem handedOut_accounts_for_dispatched (source : Source) (cache : Cache) (mode : Dispatch)
    (moves : List Move) (live : mode ≠ .deadWorker) (alive : .die ∉ moves) :
    let s := Service.new source cache mode
    let t := s.run moves
    (t.outstanding.Nodup ∧ ∀ q, q ∈ t.outstanding ↔ t.isInFlight q = true)
    ∧ (s.handedOut moves).map (·.query) ++ t.outstanding = s.dispatched moves
    ∧ s.handedOut moves ++ t.finished = (s.fetched moves).map Fetched.ofAnswer
    ∧ (∀ now, (t.poll now).2 = t.finished ∧ (t.poll now).1.finished = []
        ∧ ∀ q, (t.poll now).1.isInFlight q = true ↔ q ∈ t.waiting)
    ∧ (∀ q now, t.isInFlight q = true ∨ (t.cached? q now).isSome = true →
        (t.request q now).1 = t ∧ t.dispatches (.request q now) = [])
    ∧ (∀ q now, ¬(t.isInFlight q = true ∨ (t.cached? q now).isSome = true) →
        t.dispatches (.request q now) = [q]) := by
  intro s t
  have hnew : s.Consistent := .new source cache mode
  have h : t.Consistent := hnew.run moves
  have hlost : t.NoneLost := (NoneLost.new source cache mode).run hnew alive
  have hlive : t.dispatch ≠ .deadWorker := by
    rw [show t.dispatch = mode from s.dispatch_run alive]
    exact live
  refine ⟨⟨h.nodup, ?_⟩, ?_, ?_, ?_, ?_, ?_⟩
  · intro q
    rw [isInFlight_iff]
    exact ⟨h.mem_inFlight q, hlost q⟩
  · exact (outstanding_run hnew alive).symm
  · exact (s.finished_run moves).symm
  · intro now
    refine ⟨by rw [poll_eq], by rw [poll_eq], ?_⟩
    intro q
    rw [isInFlight_iff, ← t.outstanding_poll now]
    exact ⟨hlost.poll now q, (h.poll now).mem_inFlight q⟩
  · intro q now hq
    refine ⟨?_, ?_⟩
    · rcases t.request_cases q now with ⟨found, -, heq⟩ | ⟨-, -, heq⟩ | ⟨hc, hf, -⟩
      · rw [heq]
      · rw [heq]
      · simp [hc, hf] at hq
    · rw [dispatches_request hlive, if_pos hq]
  · intro q now hq
    rw [dispatches_request hlive, if_neg hq]

/-- Of three requests two are dispatched; one of them has been handed out and the
    other one still waits. -/
theorem handedOut_accounts_for_two_dispatches :
    let s := Service.new (.fixed []) (.empty 1000 1000) .worker
    let moves := [.request "a" 0, .request "b" 0, .request "a" 5, .release, .poll 10]
    Dispatch.worker ≠ .deadWorker ∧ .die ∉ moves
    ∧ s.dispatched moves = ["a", "b"]
    ∧ (s.handedOut moves).map (·.query) = ["a"]
    ∧ (s.handedOut moves).map (·.query) ++ (s.run moves).outstanding = ["a", "b"] := by
  intro s moves
  have live : Dispatch.worker ≠ .deadWorker := by decide
  have alive : .die ∉ moves := by simp [moves]
  have hdispatched : s.dispatched moves = ["a", "b"] := by decide
  have hall := handedOut_accounts_for_dispatched (.fixed []) (.empty 1000 1000) .worker moves
    live alive
  exact ⟨live, alive, hdispatched, by decide, hall.2.1.trans hdispatched⟩

end Service

end TagCalc
