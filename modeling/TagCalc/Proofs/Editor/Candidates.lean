/-
  TagCalc.Proofs.Editor.Candidates

  The candidate chosen for a tag is an index into the full list. It is set against
  the list of that moment, and a tick may put another list in its place, so it is
  in range for as long as the list does not get shorter while a tag is being
  resolved (`candidateListed_run`). Over a source that stays, the list never gets
  shorter (`listKept_of_source_stays`).
-/

import TagCalc.Proofs.Editor.Reselection
import TagCalc.Proofs.Lookup.FullList
import TagCalc.Screen.Draw

namespace TagCalc.Editor

/-! ## The candidate and the full list -/

/-- The candidate chosen, if there is one, is in the full list. -/
def CandidateListed (e : Editor) : Prop :=
  ∀ r i, e.reselection = some r → r.candidate = some i → i < e.catalog.length

/-- No step of a run makes the full list shorter while a tag is being resolved. -/
def ListKept (e : Editor) (happenings : List Happening) : Prop :=
  ∀ done x rest, happenings = done ++ x :: rest → (e.run done).reselection.isSome = true →
    (e.run done).catalog.length ≤ (e.run (done ++ [x])).catalog.length

theorem CandidateListed.new (service : Service) (debounce start : Nat) :
    (Editor.new service debounce start).CandidateListed := by
  intro r i hr
  cases hr

theorem catalog_handle (e : Editor) (event : Event) (now : Nat) :
    (e.handle event now).catalog = e.catalog := by
  rw [catalog, service_handle]
  rfl

theorem candidateListed_refocus {e e' : Editor} (h : e.CandidateListed)
    (hc : Refocus e e'.resolving) (hcatalog : e'.catalog = e.catalog) : e'.CandidateListed := by
  intro r i hr hi
  rw [hcatalog]
  have hopen : e'.resolving.2 = some r := hr
  generalize e'.resolving = resolving at hc hopen
  cases hc with
  | same => exact h r i hopen hi
  | leave => cases hopen
  | focus id tag =>
    cases Option.some.inj hopen
    exact candidateFor_lt hi
  | candidate old direction opened =>
    cases Option.some.inj hopen
    exact cycle_lt hi
  | quit => exact h r i hopen hi

/-- A step that leaves the tag and its candidate alone may replace the list. -/
theorem candidateListed_of_le {e e' : Editor} (h : e.CandidateListed)
    (hsame : e'.resolving = e.resolving)
    (hle : e.reselection.isSome = true → e.catalog.length ≤ e'.catalog.length) :
    e'.CandidateListed := by
  intro r i hr hi
  have hold : e.reselection = some r := (congrArg Prod.snd hsame).symm.trans hr
  have hlt := h r i hold hi
  have hlength := hle (by rw [hold, Option.isSome_some])
  omega

theorem candidateListed_step {e : Editor} (h : e.CandidateListed) (x : Happening)
    (hle : e.reselection.isSome = true → e.catalog.length ≤ (e.step x).catalog.length) :
    (e.step x).CandidateListed := by
  cases x with
  | event event now =>
    exact candidateListed_refocus h (e.handle_refocus event now) (e.catalog_handle event now)
  | tick now => exact candidateListed_of_le h (e.resolving_tick now) hle
  | release => exact candidateListed_of_le h rfl hle
  | die => exact candidateListed_of_le h rfl hle
  | replace source => exact candidateListed_of_le h rfl hle

theorem candidateListed_run {e : Editor} (h : e.CandidateListed) {happenings : List Happening}
    (kept : e.ListKept happenings) : (e.run happenings).CandidateListed := by
  induction happenings generalizing e with
  | nil => exact h
  | cons x rest ih =>
    have hfirst := kept [] x rest rfl
    -- a prefix of the rest is, after the first step, a prefix of the whole run
    have hrest : (e.step x).ListKept rest := by
      intro done y later heq
      exact kept (x :: done) y later (by rw [heq, List.cons_append])
    exact ih (candidateListed_step h x hfirst) hrest

/-! ## A source that stays -/

theorem drawsOn_step {source : Source} {e : Editor} (h : e.service.DrawsOn source)
    {x : Happening} (hx : ∀ other, x ≠ .replace other) :
    (e.step x).service.DrawsOn source := by
  rw [service_step]
  apply h.run
  intro other hmem
  exact hx other (eq_replace_of_mem_moves hmem)

theorem hasFullList_step {e : Editor} (h : e.service.cache.HasFullList) (x : Happening) :
    (e.step x).service.cache.HasFullList := by
  rw [service_step]
  exact Service.hasFullList_run h _

/-- Over a source that stays, the full list is what it answers, once it is known. -/
theorem catalog_of_drawsOn {source : Source} {e : Editor} (h : e.service.DrawsOn source) :
    (e.service.cache.HasFullList → e.catalog = source.resolve "")
    ∧ (¬e.service.cache.HasFullList → e.catalog = []) := by
  refine ⟨?_, ?_⟩
  · intro hfull
    rw [catalog, fullList, h.lastKnown? hfull, Option.getD_some]
  · intro hnone
    have hentry : e.service.cache.entry? "" = none := by
      rw [Cache.entry?, List.find?_eq_none]
      intro entry hmem hempty
      exact hnone ⟨entry, hmem, by simpa using hempty⟩
    rw [catalog, fullList, Service.lastKnown?, Cache.lastKnown?, hentry]
    rfl

theorem catalog_length_le_step {source : Source} {e : Editor} (h : e.service.DrawsOn source)
    {x : Happening} (hx : ∀ other, x ≠ .replace other) :
    e.catalog.length ≤ (e.step x).catalog.length := by
  by_cases hfull : e.service.cache.HasFullList
  · have hnow := (catalog_of_drawsOn h).1 hfull
    have hthen := (catalog_of_drawsOn (drawsOn_step h hx)).1 (hasFullList_step hfull x)
    exact Nat.le_of_eq (congrArg List.length (hnow.trans hthen.symm))
  · rw [(catalog_of_drawsOn h).2 hfull]
    exact Nat.zero_le _

theorem drawsOn_run {source : Source} {e : Editor} (h : e.service.DrawsOn source)
    {happenings : List Happening} (stays : ∀ other, .replace other ∉ happenings) :
    (e.run happenings).service.DrawsOn source := by
  rw [service_run]
  exact h.run fun other hmem => stays other (replace_mem_of_mem_runMoves hmem)

/-- As long as its source stays, an editor keeps its full list. -/
theorem listKept_of_source_stays {source : Source} {e : Editor} (h : e.service.DrawsOn source)
    {happenings : List Happening} (stays : ∀ other, .replace other ∉ happenings) :
    e.ListKept happenings := by
  intro done x rest heq _
  subst heq
  have hbefore : (e.run done).service.DrawsOn source :=
    drawsOn_run h fun other hmem => stays other (List.mem_append_left _ hmem)
  have hx : ∀ other, x ≠ .replace other := by
    rintro other rfl
    exact stays other (List.mem_append_right _ (List.mem_cons_self ..))
  have hstep : e.run (done ++ [x]) = (e.run done).step x := e.run_append done [x]
  rw [hstep]
  exact catalog_length_le_step hbefore hx

/-! ## The candidate drawn as chosen -/

/-- As long as the full list does not get shorter while a tag is being resolved, the
    candidate chosen is one of those listed; it is the entry that is marked, and the
    one whose name is applied. -/
theorem chosen_candidate_is_listed (service : Service) (debounce start : Nat)
    (happenings : List Happening) (theme : Screen.Theme)
    (kept : (Editor.new service debounce start).ListKept happenings) :
    let e := (Editor.new service debounce start).run happenings
    ∀ view i, e.snapshot.reselect = some view → view.selected = some i →
      i < view.candidates.length
      ∧ ∃ s, view.candidates[i]? = some s
        ∧ e.chosen? = some (view.tokenId, s.name)
        ∧ (Screen.reselectPopup theme view).entries[i]? = some (Screen.suggestionEntry theme s)
        ∧ Screen.markedIndex (Screen.reselectPopup theme view).selected
            (Screen.reselectPopup theme view).entries.length = some i := by
  intro e view i hview hi
  have hlisted : e.CandidateListed := candidateListed_run (.new service debounce start) kept
  obtain ⟨r, hr, rfl⟩ := Option.map_eq_some_iff.1 hview
  have hlt : i < e.catalog.length := hlisted r i hr hi
  have hs : e.catalog[i]? = some e.catalog[i] := List.getElem?_eq_getElem hlt
  -- a list with an entry is not empty, so no notice stands in for it
  have hfilled : ¬e.catalog.isEmpty = true := by
    intro hempty
    rw [List.isEmpty_iff.1 hempty] at hlt
    exact Nat.not_lt_zero i hlt
  have hentries : (Screen.reselectPopup theme ⟨r.tokenId, e.catalog, r.candidate⟩).entries
      = e.catalog.map (Screen.suggestionEntry theme) := if_neg hfilled
  refine ⟨hlt, e.catalog[i], hs, chosen?_eq hr hi hs, ?_, ?_⟩
  · rw [hentries, List.getElem?_map, hs, Option.map_some]
  · rw [hentries, List.length_map]
    show Screen.markedIndex r.candidate e.catalog.length = some i
    rw [show r.candidate = some i from hi]
    exact Screen.markedIndex_of_lt hlt

/-- A refresh from a source that stays leaves the candidate in range. -/
theorem chosen_candidate_is_listed_after_refresh :
    let rent : Suggestion := ⟨"1", "Rent", "housing", .text "900"⟩
    let idle := Service.new (.fixed [rent]) (.empty 1000 100) .inline
    let happenings : List Happening :=
      [.event (.picked rent) 0, .event .beginReselect 0, .tick 1000]
    (Editor.new idle 300 0).ListKept happenings
    ∧ ((Editor.new idle 300 0).run happenings).snapshot.reselect = some ⟨1, [rent], some 0⟩
    ∧ ((Editor.new idle 300 0).run happenings).chosen? = some (1, "Rent") := by
  intro rent idle happenings
  have hdraws : (Editor.new idle 300 0).service.DrawsOn (.fixed [rent]) := by
    rw [service_new]
    exact (Service.DrawsOn.new ..).run (by simp [startMoves])
  have kept : (Editor.new idle 300 0).ListKept happenings :=
    listKept_of_source_stays hdraws (by simp [happenings])
  have hview : ((Editor.new idle 300 0).run happenings).snapshot.reselect
      = some ⟨1, [rent], some 0⟩ := rfl
  obtain ⟨-, s, hs, hchosen, -⟩ := chosen_candidate_is_listed idle 300 0 happenings .midnight kept
    ⟨1, [rent], some 0⟩ 0 hview rfl
  cases Option.some.inj hs
  exact ⟨kept, hview, hchosen⟩

/-- When a refresh fails, the list is empty but the candidate stays: what is drawn as
    chosen is not there, and nothing is applied. -/
theorem chosen_candidate_not_listed :
    let rent : Suggestion := ⟨"1", "Rent", "housing", .text "900"⟩
    let idle := Service.new (.fixed [rent]) (.empty 1000 100) .inline
    let e := (Editor.new idle 300 0).run
      [.event (.picked rent) 0, .event .beginReselect 0, .replace (.failing (.status 500)),
        .tick 1000]
    ∃ view, e.snapshot.reselect = some view ∧ view.selected = some 0
      ∧ ¬0 < view.candidates.length ∧ e.chosen? = none := by
  intro rent idle e
  exact ⟨⟨1, [], some 0⟩, rfl, rfl, Nat.lt_irrefl 0, rfl⟩

end TagCalc.Editor
