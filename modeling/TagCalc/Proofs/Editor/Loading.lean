/-
  TagCalc.Proofs.Editor.Loading

  What the editor waits for is under way: while it loads, the fetch of its active
  query is in flight (`Awaits`). Events never start to wait (`handle_stillWaits`); a
  tick starts to wait with a dispatch, and stops when the result is handed out
  (`awaits_tick`). What an inline service was asked for is handed out by the poll of
  the same tick, so over one the editor never loads (`not_loading_run`).

  As long as the worker lives, no query in flight is lost, so what the editor waits for
  is still to be fetched or handed out (`Answerable`).
-/

import TagCalc.Proofs.Editor.Staleness
import TagCalc.Proofs.Lookup.Flight
import TagCalc.Proofs.Lookup.FullList

namespace TagCalc.Editor

/-! ## Events -/

/-- What an event does to an editor that waits for a lookup: the editor does not
    load afterwards, or it loads and waits as it did before. -/
inductive StillWaits (e e' : Editor) : Prop where
  | no (loaded : e'.loading = false)
  | yes (loading : e'.loading = e.loading) (active : e'.active = e.active)

theorem StillWaits.of_prompt {e e' : Editor} (h : e'.prompt = e.prompt) : StillWaits e e' :=
  .yes (congrArg Prompt.loading h) (congrArg Prompt.active h)

theorem StillWaits.of_change {e e' : Editor} (h : e.prompt.Change e'.prompt) :
    StillWaits e e' := by
  generalize hp : e'.prompt = p at h
  cases h with
  | same => exact .of_prompt hp
  | edited input due =>
    by_cases hquery : queryOf input = ""
    · rw [Prompt.edited_of_no_query hquery] at hp
      exact .no (congrArg Prompt.loading hp)
    · by_cases hactive : e.prompt.active = some (queryOf input)
      · rw [Prompt.edited_of_active hquery hactive] at hp
        exact .yes (congrArg Prompt.loading hp) (congrArg Prompt.active hp)
      · rw [Prompt.edited_of_other hquery hactive] at hp
        exact .no (congrArg Prompt.loading hp)
  | cleared => exact .no (congrArg Prompt.loading hp)
  | moved direction => exact .yes (congrArg Prompt.loading hp) (congrArg Prompt.active hp)
  | hidden => exact .yes (congrArg Prompt.loading hp) (congrArg Prompt.active hp)

/-- No event makes the editor wait for anything. -/
theorem handle_stillWaits (e : Editor) (event : Event) (now : Nat) :
    StillWaits e (e.handle event now) := .of_change (e.handle_prompt event now)

/-! ## Ticks -/

/-- While the editor loads, the fetch of its active query is in flight. -/
def Awaits (e : Editor) : Prop :=
  e.loading = true → ∃ q, e.active = some q ∧ q ∈ e.service.inFlight

theorem awaits_of_not_loading {e : Editor} (h : e.loading = false) : e.Awaits := by
  intro hloading
  rw [h] at hloading
  cases hloading

/-- A wait goes on as long as no flight ends. -/
theorem Awaits.of_flights_kept {e e' : Editor} (h : e.Awaits) (hloading : e'.loading = e.loading)
    (hactive : e'.active = e.active)
    (kept : ∀ q ∈ e.service.inFlight, q ∈ e'.service.inFlight) : e'.Awaits := by
  intro hwaits
  obtain ⟨q, hq, hflying⟩ := h (hloading.symm.trans hwaits)
  exact ⟨q, hactive.trans hq, kept q hflying⟩

theorem awaits_handle {e : Editor} (h : e.Awaits) (event : Event) (now : Nat) :
    (e.handle event now).Awaits := by
  cases e.handle_stillWaits event now with
  | no loaded => exact awaits_of_not_loading loaded
  | yes loading active =>
    refine h.of_flights_kept loading active ?_
    intro q hq
    rw [service_handle]
    exact hq

theorem awaits_startLookup (e : Editor) (live : e.service.dispatch ≠ .deadWorker)
    (query : String) (now : Nat) : (e.startLookup query now).Awaits := by
  rw [startLookup]
  dsimp only
  split
  · exact awaits_of_not_loading rfl
  · rename_i hpending
    -- without an answer at hand the query was in flight before, or is dispatched now
    intro _
    exact ⟨query, rfl, Service.mem_inFlight_request live hpending⟩

theorem awaits_fireDue {e : Editor} (h : e.Awaits) (live : e.service.dispatch ≠ .deadWorker)
    (now : Nat) : (e.fireDue now).Awaits := by
  rw [fireDue]
  split
  · exact h
  · split
    · exact awaits_startLookup { e with pending := none } live _ now
    · exact h

theorem awaits_refreshCatalog {e : Editor} (h : e.Awaits) (now : Nat) :
    (e.refreshCatalog now).Awaits := by
  rw [refreshCatalog]
  split
  · refine h.of_flights_kept rfl rfl ?_
    intro q hq
    exact Service.mem_inFlight_request_of_mem hq fullList now
  · exact h

/-- What was handed out never changes the query that is active. -/
@[simp] theorem active_foldl_receive (e : Editor) (results : List Fetched) :
    (results.foldl receive e).active = e.active := by
  rw [foldl_receive_frame]

/-- An editor that still loads after results came in was given none for the query
    that it waits for. -/
theorem foldl_receive_loading {e : Editor} {results : List Fetched}
    (h : (results.foldl receive e).loading = true) :
    e.loading = true ∧ ∀ f ∈ results, e.active ≠ some f.query := by
  induction results generalizing e with
  | nil => exact ⟨h, fun _ hf => absurd hf List.not_mem_nil⟩
  | cons f rest ih =>
    obtain ⟨hloading, hothers⟩ := ih h
    by_cases hsame : (e.active == some f.query) = true
    · -- the result that the editor waits for ends the loading
      rw [receive, if_pos hsame] at hloading
      cases hloading
    · have hskip : e.receive f = e := by rw [receive, if_neg hsame]
      rw [hskip] at hloading hothers
      refine ⟨hloading, ?_⟩
      intro g hg
      rcases List.mem_cons.1 hg with rfl | hg
      · exact fun heq => hsame (by rw [heq, beq_self_eq_true])
      · exact hothers g hg

theorem awaits_collect {e : Editor} (h : e.Awaits) (now : Nat) : (e.collect now).Awaits := by
  intro hloading
  obtain ⟨hbefore, hothers⟩ := foldl_receive_loading hloading
  obtain ⟨q, hq, hflying⟩ := h hbefore
  refine ⟨q, (active_foldl_receive _ _).trans hq, ?_⟩
  rw [service_collect, Service.mem_inFlight_poll]
  refine ⟨hflying, ?_⟩
  -- a result for the active query would have ended the loading
  intro hdone
  obtain ⟨f, hf, hfq⟩ := List.mem_map.1 hdone
  exact hothers f hf (by rw [hfq]; exact hq)

theorem awaits_tick {e : Editor} (h : e.Awaits) (live : e.service.dispatch ≠ .deadWorker)
    (now : Nat) : (e.tick now).Awaits :=
  awaits_collect (awaits_refreshCatalog (awaits_fireDue h live now) now) now

/-- Whatever happens, the editor waits for what is in flight only, as long as there
    is a worker to ask. -/
theorem awaits_step {e : Editor} (h : e.Awaits) (live : e.service.dispatch ≠ .deadWorker)
    (x : Happening) : (e.step x).Awaits := by
  cases x with
  | event event now => exact awaits_handle h event now
  | tick now => exact awaits_tick h live now
  | release =>
    refine h.of_flights_kept rfl rfl ?_
    intro q hq
    show q ∈ e.service.release.inFlight
    rw [Service.inFlight_release]
    exact hq
  | die =>
    refine h.of_flights_kept rfl rfl ?_
    intro q hq
    show q ∈ e.service.die.inFlight
    rw [Service.inFlight_die]
    exact hq
  | replace source => exact h

/-! ## Inline lookups -/

/-- Between the steps of an editor, an inline service has nothing in flight: only a
    tick asks, and it polls at its end. -/
theorem inFlight_step_inline {e : Editor} (hinline : e.service.Inline)
    (h : e.service.inFlight = []) (x : Happening) : (e.step x).service.inFlight = [] := by
  cases x with
  | event event now =>
    show (e.handle event now).service.inFlight = []
    rw [service_handle]
    exact h
  | tick now =>
    show (e.tick now).service.inFlight = []
    rw [tick, service_collect, service_beforePoll]
    exact (hinline.run _).inFlight_poll now
  | release => exact (e.service.inFlight_release).trans h
  | die => exact (e.service.inFlight_die).trans h
  | replace source => exact h

/-- Over an inline service the editor never loads: there is nothing to wait for. -/
theorem not_loading_run {e : Editor} (hinline : e.service.Inline)
    (hflight : e.service.inFlight = []) (h : e.Awaits) (happenings : List Happening) :
    (e.run happenings).loading = false := by
  induction happenings generalizing e with
  | nil =>
    cases hloading : e.loading with
    | false => exact hloading
    | true =>
      obtain ⟨q, -, hq⟩ := h hloading
      rw [hflight] at hq
      cases hq
  | cons x rest ih =>
    have hnext : (e.step x).service.Inline := by
      rw [service_step]
      exact hinline.run _
    have live : e.service.dispatch ≠ .deadWorker := by
      rw [hinline.dispatch]
      exact nofun
    exact ih hnext (inFlight_step_inline hinline hflight x) (awaits_step h live x)

/-- Over a service that was always inline, an editor never loads. -/
theorem not_loading_of_inline (source : Source) (cache : Cache) (before : List Service.Move)
    (debounce start : Nat) (happenings : List Happening) :
    ((Editor.new ((Service.new source cache .inline).run before) debounce start).run
      happenings).loading = false := by
  have hinline : ((Service.new source cache .inline).run before).Inline :=
    (Service.Inline.new source cache).run before
  apply not_loading_run
  · rw [service_new]
    exact hinline.run _
  · -- what was in flight before is handed out by the first poll
    exact (hinline.request fullList start).inFlight_poll start
  · exact awaits_of_not_loading rfl

/-! ## Answers that are still to come -/

/-- The editor waits for what will be handed out: the worker lives, no query in flight is
    lost, and the query that the editor waits for is in flight. -/
structure Answerable (e : Editor) : Prop where
  service : e.service.Alive
  awaits : e.Awaits

/-- A new editor over a service in use waits for nothing. -/
theorem Answerable.new {service : Service} (h : service.Alive) (debounce start : Nat) :
    (Editor.new service debounce start).Answerable := by
  refine ⟨?_, awaits_of_not_loading rfl⟩
  rw [service_new]
  apply h.run
  simp [startMoves]

theorem Answerable.step {e : Editor} (h : e.Answerable) {x : Happening} (hx : x ≠ .die) :
    (e.step x).Answerable := by
  have alive : .die ∉ e.moves x := fun hmem => hx (eq_die_of_mem_moves hmem)
  refine ⟨?_, awaits_step h.awaits h.service.dispatch_ne x⟩
  rw [service_step]
  exact h.service.run alive

theorem Answerable.run {e : Editor} (h : e.Answerable) {happenings : List Happening}
    (alive : .die ∉ happenings) : (e.run happenings).Answerable := by
  induction happenings generalizing e with
  | nil => exact h
  | cons x rest ih =>
    rw [List.mem_cons, not_or] at alive
    exact ih (h.step (Ne.symm alive.1)) alive.2

/-- While the editor loads, the fetch of its active query waits for the worker or is
    finished and not handed out. -/
theorem Answerable.outstanding {e : Editor} (h : e.Answerable) (hloading : e.loading = true) :
    ∃ q, e.active = some q ∧ e.service.isInFlight q = true
      ∧ (q ∈ e.service.waiting ∨ ∃ f ∈ e.service.finished, f.query = q) := by
  obtain ⟨q, hactive, hflying⟩ := h.awaits hloading
  refine ⟨q, hactive, Service.isInFlight_iff.2 hflying, ?_⟩
  rcases List.mem_append.1 (h.service.noneLost q hflying) with hfinished | hwaiting
  · exact Or.inr (List.mem_map.1 hfinished)
  · exact Or.inl hwaiting

@[simp] theorem active_startLookup (e : Editor) (query : String) (now : Nat) :
    (e.startLookup query now).active = some query := by
  rw [startLookup]
  dsimp only
  split <;> rfl

/-- Of a tick, only the lookup that comes due touches the active query. -/
theorem active_tick_eq (e : Editor) (now : Nat) : (e.tick now).active = (e.fireDue now).active := by
  have hrefreshed : ((e.fireDue now).refreshCatalog now).active = (e.fireDue now).active :=
    congrArg Prompt.active ((e.fireDue now).prompt_refreshCatalog now)
  exact (active_foldl_receive _ _).trans hrefreshed

theorem active_tick_of_due {e : Editor} {query : String} {due now : Nat}
    (h : e.pending = some (query, due)) (hdue : due ≤ now) :
    (e.tick now).active = some query := by
  rw [active_tick_eq, fireDue, h]
  dsimp only
  rw [if_pos hdue, active_startLookup]

/-- A tick keeps the active query: a lookup that comes due is for the same one, the
    query of the input. -/
theorem active_tick {log : List Fetched} {e : Editor} (h : e.prompt.Agrees log) {q : String}
    (hq : e.active = some q) (now : Nat) : (e.tick now).active = some q := by
  cases hpending : e.pending with
  | none => rw [active_tick_eq, fireDue, hpending, hq]
  | some p =>
    obtain ⟨query, due⟩ := p
    by_cases hdue : due ≤ now
    · rw [active_tick_of_due hpending hdue, (h.pending query due hpending).1,
        (h.active q hq).1]
    · rw [active_tick_eq, fireDue, hpending]
      dsimp only
      rw [if_neg hdue, hq]

/-- A tick that hands out a result of the active query ends the loading. -/
theorem not_loading_tick {e : Editor} {now : Nat} {f : Fetched}
    (hf : f ∈ e.handsOut (.tick now)) (hactive : (e.tick now).active = some f.query) :
    (e.tick now).loading = false := by
  cases hloading : (e.tick now).loading with
  | false => rfl
  | true =>
    -- it would have been given no result of its active query
    obtain ⟨-, hothers⟩ := foldl_receive_loading hloading
    exact absurd ((active_foldl_receive _ _).symm.trans hactive) (hothers f hf)

/-- In every run in which no fetch panics, an editor that loads waits for a query whose
    fetch is in flight, and still waits for the worker or has a result that is not handed
    out. A tick that hands out a result of the active query, be it active before the tick
    or after it, ends the loading; and over an inline service the editor never loads. -/
theorem loading_ends_with_answer (source : Source) (fullWindow queryWindow : Nat)
    (dispatch : Dispatch) (before : List Service.Move) (debounce start : Nat)
    (happenings : List Happening) :
    let service := (Service.new source (.empty fullWindow queryWindow) dispatch).run before
    let e := (Editor.new service debounce start).run happenings
    (dispatch ≠ .deadWorker → .die ∉ before → .die ∉ happenings → e.loading = true →
      ∃ q, e.active = some q ∧ e.service.isInFlight q = true
        ∧ (q ∈ e.service.waiting ∨ ∃ f ∈ e.service.finished, f.query = q))
    ∧ (∀ now f, f ∈ e.handsOut (.tick now) →
        e.active = some f.query ∨ (e.tick now).active = some f.query →
        (e.tick now).loading = false)
    ∧ (dispatch = .inline → e.loading = false) := by
  intro service e
  refine ⟨?_, ?_, ?_⟩
  · intro hdispatch hbefore hhappenings hloading
    have hservice : service.Alive := (Service.Alive.new source _ hdispatch).run hbefore
    have hnew := Answerable.new hservice debounce start
    exact (hnew.run hhappenings).outstanding hloading
  · intro now f hf hactive
    apply not_loading_tick hf
    rcases hactive with hactive | hactive
    · -- active and pending queries are those of the input, so the tick keeps the query
      have hremembers :=
        (Service.Remembers.new source fullWindow queryWindow dispatch).run before
      have hstep := inStep_run (inStep_new hremembers debounce start) happenings
      exact active_tick hstep.prompt hactive now
    · exact hactive
  · rintro rfl
    exact not_loading_of_inline source _ before debounce start happenings

/-- The full list is there, and "f" is being looked up by a worker. -/
def lookupStarted : List Happening :=
  [.release, .tick 0, .event (.inputChanged "f") 0, .tick 300]

/-- The editor that waits for "f". -/
def waitingForF : Editor :=
  (Editor.new (Service.new (.fixed []) (.empty 300000 60000) .worker) 300 0).run lookupStarted

/-- The fetch of "f" waits for the worker; when it is finished, the next tick hands out
    its result, and the editor no longer loads. -/
theorem loading_ends_with_answer_for_f :
    waitingForF.loading = true
    ∧ (∃ q, waitingForF.active = some q ∧ waitingForF.service.isInFlight q = true
      ∧ (q ∈ waitingForF.service.waiting ∨ ∃ f ∈ waitingForF.service.finished, f.query = q))
    ∧ waitingForF.release.handsOut (.tick 400) = [⟨"f", []⟩]
    ∧ (waitingForF.release.tick 400).loading = false := by
  have hloading : waitingForF.loading = true := rfl
  have hout : waitingForF.release.handsOut (.tick 400) = [⟨"f", []⟩] := rfl
  obtain ⟨hwaits, -, -⟩ := loading_ends_with_answer (.fixed []) 300000 60000 .worker [] 300 0
    lookupStarted
  obtain ⟨-, hends, -⟩ := loading_ends_with_answer (.fixed []) 300000 60000 .worker [] 300 0
    (lookupStarted ++ [.release])
  refine ⟨hloading, hwaits (by decide) List.not_mem_nil ?_ hloading, hout, ?_⟩
  · simp [lookupStarted]
  · exact hends 400 ⟨"f", []⟩ (List.mem_singleton_self _) (Or.inl rfl)

end TagCalc.Editor
