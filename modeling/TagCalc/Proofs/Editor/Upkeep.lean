/-
  TagCalc.Proofs.Editor.Upkeep

  The full list is kept up. A tick asks for it unless it is fresh or being fetched
  (`refreshMoves_cases`), and the poll at its end, which may bring other lists in
  and prune old ones, leaves it so (`Service.KeepsUp.poll`).

  The lookup that comes due before is for another query, since what is pending is
  never empty. So whether a tick dispatches the full list can be told from the state
  that it starts from (`mem_dispatched_tick`).
-/

import TagCalc.Proofs.Editor.Loading
import TagCalc.Proofs.Lookup.FullList

namespace TagCalc.Editor

/-! ## The lookup that comes due -/

/-- A lookup that comes due leaves the worker as it is. -/
theorem dispatch_fireDue (e : Editor) (now : Nat) :
    (e.fireDue now).service.dispatch = e.service.dispatch := by
  rw [service_fireDue]
  apply Service.dispatch_run
  intro hmem
  obtain ⟨_, _, heq⟩ := e.moves_beforePoll now .die (List.mem_append_left _ hmem)
  cases heq

/-- It is not for the full list, so it does not touch what is known of it. -/
theorem fullList_fireDue {log : List Fetched} {e : Editor} (h : e.prompt.Agrees log)
    (now time : Nat) :
    (e.fireDue now).service.cached? fullList time = e.service.cached? fullList time
    ∧ (e.fireDue now).service.isInFlight fullList = e.service.isInFlight fullList := by
  rw [fireDue]
  cases hpending : e.pending with
  | none => exact ⟨rfl, rfl⟩
  | some p =>
    obtain ⟨query, due⟩ := p
    obtain ⟨-, hne⟩ := h.pending query due hpending
    dsimp only
    split
    · rw [service_startLookup, Service.cached?, Service.cache_request]
      exact ⟨rfl, Service.isInFlight_request_of_ne _ (Ne.symm hne) now⟩
    · exact ⟨rfl, rfl⟩

theorem not_mem_dispatched_fireMoves {log : List Fetched} {e : Editor} (h : e.prompt.Agrees log)
    (now : Nat) : fullList ∉ e.service.dispatched (e.fireMoves now) := by
  rw [fireMoves]
  cases hpending : e.pending with
  | none => exact List.not_mem_nil
  | some p =>
    obtain ⟨query, due⟩ := p
    obtain ⟨-, hne⟩ := h.pending query due hpending
    dsimp only
    split
    · intro hmem
      -- a request dispatches its own query or none
      rw [Service.dispatched_cons, Service.dispatches] at hmem
      rcases List.mem_append.1 hmem with hmem | hmem
      · split at hmem
        · exact hne (List.mem_singleton.1 hmem).symm
        · cases hmem
      · cases hmem
    · exact List.not_mem_nil

/-! ## The lookup of the full list -/

/-- A tick asks for the full list only when it is neither fresh nor in flight. -/
theorem refreshMoves_cases (e : Editor) (now : Nat) :
    (e.service.KeepsUp now ∧ e.refreshMoves now = [])
    ∨ (e.service.cached? fullList now = none ∧ e.service.isInFlight fullList = false
        ∧ e.refreshMoves now = [.request fullList now]) := by
  rw [refreshMoves]
  cases hc : e.service.cached? fullList now with
  | some found =>
    have hfresh : (e.service.cached? "" now).isSome = true := by
      rw [show e.service.cached? "" now = some found from hc]
      rfl
    exact Or.inl ⟨Or.inl hfresh, rfl⟩
  | none =>
    cases hf : e.service.isInFlight fullList with
    | true => exact Or.inl ⟨Or.inr hf, rfl⟩
    | false => exact Or.inr ⟨rfl, rfl, rfl⟩

theorem keepsUp_refreshCatalog {e : Editor} (live : e.service.dispatch ≠ .deadWorker) (now : Nat) :
    (e.refreshCatalog now).service.KeepsUp now := by
  rw [service_refreshCatalog]
  rcases e.refreshMoves_cases now with ⟨hkept, heq⟩ | ⟨-, -, heq⟩
  · rw [heq]
    exact hkept
  · rw [heq]
    exact Service.keepsUp_request live now

/-- After a tick, the full list is fresh or in flight. -/
theorem keepsUp_tick {e : Editor} (live : e.service.dispatch ≠ .deadWorker)
    (positive : 0 < e.service.cache.fullWindow) (now : Nat) :
    (e.tick now).service.KeepsUp now := by
  rw [← e.dispatch_fireDue now] at live
  rw [tick, service_collect]
  apply (keepsUp_refreshCatalog live now).poll
  rw [service_beforePoll, Service.fullWindow_run]
  exact positive

/-- A tick dispatches the full list if it is neither fresh nor in flight when the tick
    begins, and only then. -/
theorem mem_dispatched_tick {log : List Fetched} {e : Editor} (h : e.prompt.Agrees log)
    (live : e.service.dispatch ≠ .deadWorker) (now : Nat) :
    fullList ∈ e.service.dispatched (e.moves (.tick now))
      ↔ e.service.cached? fullList now = none ∧ e.service.isInFlight fullList = false := by
  obtain ⟨hcached, hflying⟩ := fullList_fireDue h now now
  have hsplit : fullList ∈ e.service.dispatched (e.moves (.tick now))
      ↔ fullList ∈ (e.fireDue now).service.dispatched ((e.fireDue now).refreshMoves now) := by
    -- neither the lookup that comes due nor the poll dispatches it
    rw [moves, List.append_assoc, Service.dispatched_append, Service.dispatched_append,
      ← service_fireDue, List.mem_append, List.mem_append]
    constructor
    · rintro (hmem | hmem | hmem)
      · exact absurd hmem (not_mem_dispatched_fireMoves h now)
      · exact hmem
      · cases hmem
    · exact fun hmem => Or.inr (Or.inl hmem)
  rw [hsplit, ← hcached, ← hflying]
  rcases (e.fireDue now).refreshMoves_cases now with ⟨hkept, heq⟩ | ⟨hc, hf, heq⟩
  · rw [heq]
    refine ⟨nofun, fun ⟨hc, hf⟩ => ?_⟩
    rcases hkept with hfresh | hflying
    · rw [show (e.fireDue now).service.cached? "" now = none from hc] at hfresh
      cases hfresh
    · rw [show (e.fireDue now).service.isInFlight "" = false from hf] at hflying
      cases hflying
  · rw [← e.dispatch_fireDue now] at live
    refine ⟨fun _ => ⟨hc, hf⟩, fun _ => ?_⟩
    rw [heq, Service.dispatched_cons, Service.dispatches_request live, hc, hf]
    exact List.mem_cons_self ..

/-! ## The full list of the editor -/

/-- The full list is the one handed out last. -/
theorem catalog_run {log : List Fetched} {e : Editor}
    (h : e.service.lastKnown? fullList = latest? fullList log) (happenings : List Happening) :
    (e.run happenings).catalog
      = (latest? fullList (log ++ e.handedOut happenings)).getD [] := by
  rw [catalog, service_run, handedOut_eq]
  exact congrArg (·.getD []) (Service.lastKnown?_run h _)

/-- In every run in which no fetch panics and the window of the full list is positive,
    the full list is fresh or in flight after every tick, and a tick dispatches it when
    it is neither at the time of the tick, and only then. In every run, the full list of
    the editor is the one handed out last, and empty if there is none yet. -/
theorem full_list_is_kept_up (source : Source) (fullWindow queryWindow : Nat)
    (dispatch : Dispatch) (before : List Service.Move) (debounce start : Nat)
    (happenings : List Happening) :
    let idle := Service.new source (.empty fullWindow queryWindow) dispatch
    let first := Editor.new (idle.run before) debounce start
    let e := first.run happenings
    let log := idle.handedOut (before ++ startMoves start) ++ first.handedOut happenings
    (0 < fullWindow → dispatch ≠ .deadWorker → .die ∉ before → .die ∉ happenings → ∀ now,
        ((e.tick now).service.cached? fullList now).isSome = true
        ∨ (e.tick now).service.isInFlight fullList = true)
    ∧ (dispatch ≠ .deadWorker → .die ∉ before → .die ∉ happenings → ∀ now,
        (fullList ∈ e.service.dispatched (e.moves (.tick now))
          ↔ e.service.cached? fullList now = none ∧ e.service.isInFlight fullList = false))
    ∧ e.catalog = (latest? fullList log).getD [] := by
  intro idle first e log
  have halive (hdispatch : dispatch ≠ .deadWorker) (hbefore : .die ∉ before)
      (hhappenings : .die ∉ happenings) : e.service.Alive := by
    have hidle : (idle.run before).Alive := (Service.Alive.new source _ hdispatch).run hbefore
    exact ((Answerable.new hidle debounce start).run hhappenings).service
  refine ⟨?_, ?_, ?_⟩
  · intro positive hdispatch hbefore hhappenings now
    -- the window is that of the cache that the service began with
    have hwindow : e.service.cache.fullWindow = fullWindow := by
      rw [service_run, Service.fullWindow_run, service_new, Service.fullWindow_run,
        Service.fullWindow_run]
      rfl
    have hlive := (halive hdispatch hbefore hhappenings).dispatch_ne
    exact keepsUp_tick hlive (hwindow ▸ positive) now
  · intro hdispatch hbefore hhappenings now
    -- the lookup that may come due is for the query of the input, which is not empty
    have hremembers := (Service.Remembers.new source fullWindow queryWindow dispatch).run before
    have hstep : InStep _ e := inStep_run (inStep_new hremembers debounce start) happenings
    exact mem_dispatched_tick hstep.prompt (halive hdispatch hbefore hhappenings).dispatch_ne now
  · have hidle : idle.lastKnown? "" = latest? "" [] := rfl
    have hfirst := Service.lastKnown?_run hidle (before ++ startMoves start)
    rw [Service.run_append] at hfirst
    exact catalog_run hfirst happenings

/-- The full list, fetched at 0 for a second, has expired at 1200. The tick then
    dispatches it again, and until its fetch is finished the old list is kept. -/
theorem full_list_is_kept_up_when_it_expires :
    let rent : Suggestion := ⟨"1", "rent", "housing", .text "900"⟩
    let idle := Service.new (.fixed [rent]) (.empty 1000 500) .worker
    let happenings := [.release, .tick 0, .event (.inputChanged "re") 10, .tick 310, .release]
    let e := (Editor.new idle 300 0).run happenings
    0 < 1000 ∧ Dispatch.worker ≠ .deadWorker ∧ .die ∉ happenings
    ∧ e.service.cached? fullList 1200 = none
    ∧ fullList ∈ e.service.dispatched (e.moves (.tick 1200))
    ∧ (((e.tick 1200).service.cached? fullList 1200).isSome = true
      ∨ (e.tick 1200).service.isInFlight fullList = true)
    ∧ e.catalog.map (·.name) = ["rent"] := by
  intro rent idle happenings e
  have positive : 0 < 1000 := by decide
  have live : Dispatch.worker ≠ .deadWorker := by decide
  have alive : .die ∉ happenings := by simp [happenings]
  obtain ⟨hkept, hdispatched, hcatalog⟩ := full_list_is_kept_up (.fixed [rent]) 1000 500 .worker []
    300 0 happenings
  have hstale : e.service.cached? fullList 1200 = none :=
    Option.isNone_iff_eq_none.1 (by decide +kernel)
  have hidle : e.service.isInFlight fullList = false := by decide +kernel
  refine ⟨positive, live, alive, hstale, ?_, ?_, ?_⟩
  · exact (hdispatched live List.not_mem_nil alive 1200).2 ⟨hstale, hidle⟩
  · exact hkept positive live List.not_mem_nil alive 1200
  · rw [show e.catalog = _ from hcatalog]
    decide +kernel

end TagCalc.Editor
