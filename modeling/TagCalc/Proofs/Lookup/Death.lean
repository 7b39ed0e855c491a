/-
  TagCalc.Proofs.Lookup.Death

  What the death of the worker costs. A fetch that panics ends the worker: what it
  was fetching and what still waits is lost, and no later query is fetched. All that
  was finished is kept, and so is the cache.

  A service without a worker is settled by its first poll. Requests leave it as it
  is, and nothing is left for later polls, so any run of calls does what no call or
  a single poll does (`run_calls_dead`).
-/

import TagCalc.Proofs.Lookup.Flight
import TagCalc.Proofs.Lookup.Answers

namespace TagCalc.Service

/-- Whether a move is made by a caller: a request or a poll. -/
def Move.IsCall : Move → Prop
  | .request _ _ => True
  | .poll _ => True
  | _ => False

/-! ## Without a worker -/

theorem request_dead {s : Service} (h : s.dispatch = .deadWorker) (query : String) (now : Nat) :
    (s.request query now).1 = s := by
  rcases s.request_service query now with heq | ⟨-, heq⟩
  · exact heq
  · rw [heq, dispatchQuery_dead h]

/-- What is not in the cache cannot be had, whether or not it is in flight. -/
theorem request_dead_of_uncached {s : Service} (h : s.dispatch = .deadWorker) {query : String}
    {now : Nat} (hc : s.cached? query now = none) : s.request query now = (s, .pending) := by
  rcases s.request_cases query now with ⟨found, hfound, -⟩ | ⟨-, -, heq⟩ | ⟨-, -, heq⟩
  · rw [hc] at hfound
    cases hfound
  · exact heq
  · rw [heq, dispatchQuery_dead h]

/-- A poll with nothing to hand out does nothing. -/
theorem poll_of_finished_nil {s : Service} (h : s.finished = []) (now : Nat) :
    s.poll now = (s, []) := by
  rw [poll, h, List.foldl_nil, ← h]

theorem finished_poll (s : Service) (now : Nat) : (s.poll now).1.finished = [] := by
  rw [poll_eq]

/-- Calls to a service without a worker: until the first poll they change nothing,
    and that poll leaves nothing to do for those after it. -/
theorem run_calls_dead {s : Service} (dead : s.dispatch = .deadWorker) {calls : List Move}
    (only : ∀ m ∈ calls, m.IsCall) :
    ((∀ now, .poll now ∉ calls) ∧ s.run calls = s ∧ s.handedOut calls = [])
    ∨ ∃ now, .poll now ∈ calls ∧ s.run calls = (s.poll now).1
        ∧ s.handedOut calls = s.finished := by
  induction calls generalizing s with
  | nil => exact Or.inl ⟨fun _ => List.not_mem_nil, rfl, rfl⟩
  | cons m rest ih =>
    have honly : ∀ m ∈ rest, m.IsCall := fun m hm => only m (List.mem_cons_of_mem _ hm)
    rw [run_cons, handedOut_cons]
    cases m with
    | request query now =>
      -- the service is as before, so the rest of the calls decides
      have hsame : s.move (.request query now) = s := request_dead dead query now
      rw [hsame]
      rcases ih dead honly with ⟨hnone, hrun, hout⟩ | ⟨polled, hmem, hrun, hout⟩
      · refine Or.inl ⟨fun now hmem => ?_, hrun, hout⟩
        exact hnone now ((List.mem_cons.1 hmem).resolve_left nofun)
      · exact Or.inr ⟨polled, List.mem_cons_of_mem _ hmem, hrun, hout⟩
    | poll now =>
      refine Or.inr ⟨now, List.mem_cons_self .., ?_⟩
      show (s.poll now).1.run rest = (s.poll now).1
        ∧ (s.poll now).2 ++ (s.poll now).1.handedOut rest = s.finished
      have hempty := s.finished_poll now
      -- nothing is finished any more, so a later poll is as good as none
      have hdead : (s.poll now).1.dispatch = .deadWorker := by rw [poll_eq, dead]
      rcases ih hdead honly with
        ⟨-, hrun, hout⟩ | ⟨later, -, hrun, hout⟩
      · exact ⟨hrun, by rw [hout, List.append_nil, poll_eq]⟩
      · rw [poll_of_finished_nil hempty] at hrun
        exact ⟨hrun, by rw [hout, hempty, List.append_nil, poll_eq]⟩
    | release => exact (only .release (List.mem_cons_self ..)).elim
    | die => exact (only .die (List.mem_cons_self ..)).elim
    | replace source => exact (only (.replace source) (List.mem_cons_self ..)).elim

/-- What is in flight and not finished stays in flight, and is not handed out. -/
theorem mem_inFlight_run_calls_dead {s : Service} (dead : s.dispatch = .deadWorker)
    {calls : List Move} (only : ∀ m ∈ calls, m.IsCall) {q : String} (hq : q ∈ s.inFlight)
    (hlost : q ∉ s.finished.map (·.query)) :
    q ∈ (s.run calls).inFlight ∧ q ∉ (s.handedOut calls).map (·.query) := by
  rcases run_calls_dead dead only with ⟨-, hrun, hout⟩ | ⟨now, -, hrun, hout⟩
  · rw [hrun, hout]
    exact ⟨hq, List.not_mem_nil⟩
  · rw [hrun, hout]
    exact ⟨mem_inFlight_poll.2 ⟨hq, hlost⟩, hlost⟩

/-! ## The death of the worker -/

/-- The death takes the queue and the worker, and nothing else. -/
theorem die_eq {s : Service} (h : s.waiting ≠ []) :
    s.die = { s with waiting := [], dispatch := .deadWorker } := by
  rw [die]
  cases hw : s.waiting with
  | nil => exact absurd hw h
  | cons query rest => rfl

section AfterDeath

variable {s : Service} {after : List Move}

/-- Until the next poll nothing is handed out; that poll hands out what was finished. -/
theorem poll_after_death (waits : s.waiting ≠ []) (only : ∀ m ∈ after, m.IsCall)
    (unpolled : ∀ earlier, .poll earlier ∉ after) :
    s.die.handedOut after = [] ∧ ∀ now, ((s.die.run after).poll now).2 = s.finished
      ∧ ((s.die.run after).poll now).1.cache = s.cache.insertAll s.finished now := by
  have hdead : s.die.dispatch = .deadWorker := by rw [die_eq waits]
  rcases run_calls_dead hdead only with ⟨-, hrun, hout⟩ | ⟨now, hmem, -, -⟩
  · refine ⟨hout, fun now => ?_⟩
    rw [hrun, poll_eq, die_eq waits]
    exact ⟨rfl, rfl⟩
  · exact absurd hmem (unpolled now)

/-- Later polls hand out nothing. -/
theorem poll_again_after_death (waits : s.waiting ≠ []) (only : ∀ m ∈ after, m.IsCall)
    {earlier : Nat} (polled : .poll earlier ∈ after) :
    s.die.handedOut after = s.finished
    ∧ ∀ now, (s.die.run after).poll now = (s.die.run after, []) := by
  have hdead : s.die.dispatch = .deadWorker := by rw [die_eq waits]
  have hfinished : s.die.finished = s.finished := by rw [die_eq waits]
  rcases run_calls_dead hdead only with ⟨hnone, -, -⟩ | ⟨now, -, hrun, hout⟩
  · exact absurd polled (hnone earlier)
  · refine ⟨hout.trans hfinished, fun later => ?_⟩
    rw [hrun]
    exact poll_of_finished_nil (s.die.finished_poll now) later

/-- What waited is lost: it stays in flight, and no poll hands it out. -/
theorem Consistent.lost_after_death (h : s.Consistent) (only : ∀ m ∈ after, m.IsCall)
    {q : String} (hq : q ∈ s.waiting) :
    q ∈ (s.die.run after).inFlight ∧ q ∉ (s.die.handedOut after).map (·.query) := by
  have waits : s.waiting ≠ [] := List.ne_nil_of_mem hq
  have hdead : s.die.dispatch = .deadWorker := by rw [die_eq waits]
  have hfinished : s.die.finished = s.finished := by rw [die_eq waits]
  obtain ⟨hflying, hunfinished⟩ := h.of_waiting hq
  rw [← s.inFlight_die] at hflying
  rw [← hfinished] at hunfinished
  exact mem_inFlight_run_calls_dead hdead only hflying hunfinished

/-- No call brings the worker back. -/
theorem dispatch_after_death (waits : s.waiting ≠ []) (only : ∀ m ∈ after, m.IsCall) :
    (s.die.run after).dispatch = .deadWorker := by
  rw [s.die.dispatch_run fun hmem => only .die hmem, die_eq waits]

end AfterDeath

/-- If the worker dies while fetches wait, then in every later run of calls: the next
    poll hands out all that was finished, in order, and takes it into the cache, and
    every poll after it hands out nothing; the queries that waited stay in flight and
    are never handed out; a request for what is not fresh in the cache is left pending
    and changes nothing; and what is fresh in the cache is answered with the list that
    was handed out last for it. -/
theorem worker_death_keeps_finished (source : Source) (fullWindow queryWindow : Nat)
    (before after : List Move) :
    let idle := Service.new source (.empty fullWindow queryWindow) .worker
    let s := idle.run before
    let t := s.die.run after
    s.waiting ≠ [] → (∀ m ∈ after, m.IsCall) →
      ((∀ earlier, .poll earlier ∉ after) →
        s.die.handedOut after = [] ∧ ∀ now, (t.poll now).2 = s.finished
          ∧ (t.poll now).1.cache = s.cache.insertAll s.finished now)
      ∧ ((∃ earlier, .poll earlier ∈ after) →
        s.die.handedOut after = s.finished ∧ ∀ now, t.poll now = (t, []))
      ∧ (∀ q ∈ s.waiting,
        t.isInFlight q = true ∧ q ∉ (s.die.handedOut after).map (·.query))
      ∧ (∀ q now, t.cached? q now = none → t.request q now = (t, .pending))
      ∧ ∀ q now found, t.cached? q now = some found →
        t.request q now = (t, .ready found)
        ∧ latest? q (idle.handedOut (before ++ .die :: after)) = some found := by
  intro idle s t waits only
  refine ⟨poll_after_death waits only, ?_, ?_, ?_, ?_⟩
  · rintro ⟨earlier, polled⟩
    exact poll_again_after_death waits only polled
  · intro q hq
    have hs : s.Consistent :=
      (Consistent.new source (.empty fullWindow queryWindow) .worker).run before
    rw [isInFlight_iff]
    exact hs.lost_after_death only hq
  · intro q now hc
    exact request_dead_of_uncached (dispatch_after_death waits only) hc
  · intro q now found hc
    -- the cache stays in step with all that was handed out, before the death and after
    have hlog := (Remembers.new source fullWindow queryWindow .worker).run (before ++ .die :: after)
    rw [List.nil_append, run_append] at hlog
    refine ⟨?_, hlog.cached hc⟩
    rw [request, hc]

/-- Of three queries one is finished when the worker dies over the second. It is handed
    out and answered from the cache; the two others stay in flight, and a fourth is
    not fetched. -/
theorem worker_death_keeps_first_of_three :
    let idle := Service.new (.fixed []) (.empty 1000 1000) .worker
    let before := [.request "a" 0, .request "b" 1, .request "c" 2, .release]
    let s := idle.run before
    let after := [.request "d" 5, .poll 10, .poll 20]
    let t := s.die.run after
    s.waiting = ["b", "c"] ∧ (∀ m ∈ after, m.IsCall)
    ∧ (s.die.handedOut after).map (·.query) = ["a"]
    ∧ t.isInFlight "b" = true ∧ t.isInFlight "c" = true
    ∧ t.request "d" 30 = (t, .pending)
    ∧ t.request "a" 30 = (t, .ready []) := by
  intro idle before s after t
  have hwaiting : s.waiting = ["b", "c"] := by decide
  have only : ∀ m ∈ after, m.IsCall := by simp [after, Move.IsCall]
  obtain ⟨-, hpolled, hlost, hpending, hready⟩ := worker_death_keeps_finished (.fixed []) 1000 1000
    before after (by rw [show Service.waiting _ = _ from hwaiting]; simp) only
  have hout : s.die.handedOut after = s.finished := (hpolled ⟨10, by simp [after]⟩).1
  have hb : "b" ∈ s.waiting := by simp [hwaiting]
  have hc : "c" ∈ s.waiting := by simp [hwaiting]
  refine ⟨hwaiting, only, ?_, (hlost "b" hb).1, (hlost "c" hc).1, ?_, ?_⟩
  · rw [hout]
    decide
  · exact hpending "d" 30 rfl
  · exact (hready "a" 30 [] rfl).1

end TagCalc.Service
