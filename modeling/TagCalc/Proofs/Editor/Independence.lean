/-
  TagCalc.Proofs.Editor.Independence

  The lookups never reach the formula. Two editors are alike when the same lies on
  their desks and they know the same full list, whatever else their lookups found and
  whenever. An event other than the pick of the highlighted suggestion reads no more
  than that, so it does the same to both (`Alike.desk_handle`). Over a catalog that
  never changes, all that happens between the events leaves both the desk and the full
  list alone, so what is on the desk is a function of the events (`desk_run`).
-/

import TagCalc.Proofs.Editor.Agreement
import TagCalc.Proofs.Editor.Candidates

namespace TagCalc

namespace Editor

/-! ## What operations leave on the desk -/

theorem desk_typeChar (e : Editor) (c : Char) (now : Nat) :
    (e.typeChar c now).desk
      = { e.desk with
          input := e.desk.input.push c, dropdownShown := opensDropdown (e.desk.input.push c) } :=
  e.desk_setInput (e.input.push c) now

theorem desk_eraseCluster (e : Editor) (now : Nat) :
    (e.eraseCluster now).desk =
      if e.desk.input.isEmpty then e.desk
      else
        { e.desk with
          input := Text.dropLastCluster e.desk.input
          dropdownShown := opensDropdown (Text.dropLastCluster e.desk.input) } := by
  unfold eraseCluster
  by_cases hempty : e.input.isEmpty = true
  · rw [if_pos hempty]
    exact (if_pos hempty).symm
  · rw [if_neg hempty, desk_setInput]
    exact (if_neg hempty).symm

theorem desk_removeLast (e : Editor) :
    e.removeLast.desk =
      match e.desk.store.last? with
      | some t => { e.desk with store := e.desk.store.remove t.id }
      | none => e.desk := by
  show e.removeLast.desk = match e.store.last? with
    | some t => { e.desk with store := e.store.remove t.id }
    | none => e.desk
  unfold removeLast
  cases e.store.last? with
  | some t => rfl
  | none => rfl

theorem desk_pick (e : Editor) (s : Suggestion) :
    (e.pick s).desk =
      if e.desk.store.accepts .tag then
        { e.desk with
          store := e.desk.store.append s.name .tag (some s), input := "", dropdownShown := false }
      else
        e.desk := by
  unfold pick
  by_cases haccepts : e.store.accepts .tag = true
  · rw [if_pos haccepts]
    exact (if_pos haccepts).symm
  · rw [if_neg haccepts]
    exact (if_neg haccepts).symm

theorem desk_endReselect (e : Editor) :
    e.endReselect.desk
      = { e.desk with
          reselection := none
          mode := if e.desk.mode = .reselecting then .editing else e.desk.mode } := rfl

theorem desk_moveCandidate (e : Editor) (direction : Direction) :
    (e.moveCandidate direction).desk
      = { e.desk with
          reselection := e.desk.reselection.map fun r =>
            { r with candidate := cycle r.candidate direction e.catalog.length } } := rfl

/-! ## Editors that are alike -/

/-- Two editors with the same on their desks, and with the same full list. -/
structure Alike (e f : Editor) : Prop where
  desk : e.desk = f.desk
  catalog : e.catalog = f.catalog

namespace Alike

variable {e f : Editor}

theorem mode (h : Alike e f) : e.mode = f.mode := congrArg Desk.mode h.desk

theorem store (h : Alike e f) : e.store = f.store := congrArg Desk.store h.desk

theorem input (h : Alike e f) : e.input = f.input := congrArg Desk.input h.desk

theorem reselection (h : Alike e f) : e.reselection = f.reselection :=
  congrArg Desk.reselection h.desk

theorem tagIds (h : Alike e f) : e.tagIds = f.tagIds := by
  rw [Editor.tagIds, Editor.tagIds, h.store]

theorem candidateFor (h : Alike e f) (id : Nat) : e.candidateFor id = f.candidateFor id := by
  rw [Editor.candidateFor, Editor.candidateFor, h.store, h.catalog]

theorem chosen? (h : Alike e f) : e.chosen? = f.chosen? := by
  rw [Editor.chosen?, Editor.chosen?, h.reselection, h.catalog]

/-- A commit enters the same text, and resolves a tag by the same list. -/
theorem desk_commit? (h : Alike e f) (k : EditKey) :
    (e.commit? k).map Editor.desk = (f.commit? k).map Editor.desk := by
  rw [commit?_eq, commit?_eq, h.store, h.input, h.catalog]
  split
  · -- both commit, and what is left on the desk is the new formula and an empty input
    show some { e.desk with
          store := f.store.withText f.catalog f.input, input := "", dropdownShown := false }
      = some { f.desk with
          store := f.store.withText f.catalog f.input, input := "", dropdownShown := false }
    rw [h.desk]
  · rfl

/-- What a commit falls back on when the text is not accepted. -/
theorem desk_commit?_getD (h : Alike e f) (k : EditKey) {e' f' : Editor}
    (hrefused : e'.desk = f'.desk) :
    ((e.commit? k).getD e').desk = ((f.commit? k).getD f').desk := by
  have hcommit := h.desk_commit? k
  -- the two commit together or fall back together
  cases he : e.commit? k with
  | none =>
    rw [he, Option.map_none] at hcommit
    rw [Option.map_eq_none_iff.1 hcommit.symm]
    exact hrefused
  | some after =>
    rw [he, Option.map_some] at hcommit
    obtain ⟨after', hf, hdesk⟩ := Option.map_eq_some_iff.1 hcommit.symm
    rw [hf]
    exact hdesk.symm

theorem desk_handleKey (h : Alike e f) (k : EditKey) (now now' : Nat) :
    (e.handleKey k now).desk = (f.handleKey k now').desk := by
  have hspace : (e.typeChar ' ' now).desk = (f.typeChar ' ' now').desk := by
    rw [desk_typeChar, desk_typeChar, h.desk]
  unfold handleKey
  rw [h.input]
  by_cases hblank : (Text.trim f.input).isEmpty = true
  · rw [if_pos hblank, if_pos hblank]
    cases k with
    | backspace =>
      -- the last token goes first, and then a blank that may stand in the input
      show (e.removeLast.eraseCluster now).desk = (f.removeLast.eraseCluster now').desk
      rw [desk_eraseCluster, desk_eraseCluster, desk_removeLast, desk_removeLast, h.desk]
    | space => exact hspace
    | enter => exact h.desk
  · rw [if_neg hblank, if_neg hblank]
    cases k with
    | backspace =>
      show (e.eraseCluster now).desk = (f.eraseCluster now').desk
      rw [desk_eraseCluster, desk_eraseCluster, h.desk]
    | enter => exact h.desk_commit?_getD .enter h.desk
    | space => exact h.desk_commit?_getD .space hspace

theorem desk_pick (h : Alike e f) (s : Suggestion) : (e.pick s).desk = (f.pick s).desk := by
  rw [Editor.desk_pick, Editor.desk_pick, h.desk]

theorem desk_retag (h : Alike e f) (id : Nat) (name : String) :
    (e.retag id name).desk = (f.retag id name).desk := by
  unfold retag
  rw [h.store, h.catalog]
  split
  · exact h.desk
  · split
    · split
      · show { e.desk with store := f.store.update id name (f.catalog.find? (·.name == name)) }
          = { f.desk with store := f.store.update id name (f.catalog.find? (·.name == name)) }
        rw [h.desk]
      · exact h.desk
    · exact h.desk

theorem desk_endReselect (h : e.desk = f.desk) : e.endReselect.desk = f.endReselect.desk := by
  rw [Editor.desk_endReselect, Editor.desk_endReselect, h]

/-- Resolving starts with the same candidate. -/
theorem desk_focus (h : Alike e f) (id : Nat) : (e.focus id).desk = (f.focus id).desk := by
  show { e.desk with mode := .reselecting, reselection := some ⟨id, e.candidateFor id⟩ }
    = { f.desk with mode := .reselecting, reselection := some ⟨id, f.candidateFor id⟩ }
  rw [h.desk, h.candidateFor]

theorem desk_beginReselect (h : Alike e f) : e.beginReselect.desk = f.beginReselect.desk := by
  -- the dropdown is hidden before the tag is looked at, in both
  have hhidden : Alike { e with dropdownShown := false } { f with dropdownShown := false } :=
    ⟨congrArg (fun d : Desk => { d with dropdownShown := false }) h.desk, h.catalog⟩
  unfold beginReselect
  rw [h.tagIds]
  split
  · exact hhidden.desk_focus _
  · exact h.desk

theorem desk_moveFocus (h : Alike e f) (direction : Direction) :
    (e.moveFocus direction).desk = (f.moveFocus direction).desk := by
  unfold moveFocus
  rw [h.reselection, h.tagIds]
  split
  · exact h.desk
  · split
    · exact desk_endReselect h.desk
    · split
      · exact h.desk_focus _
      · exact h.desk

theorem desk_moveCandidate (h : Alike e f) (direction : Direction) :
    (e.moveCandidate direction).desk = (f.moveCandidate direction).desk := by
  rw [Editor.desk_moveCandidate, Editor.desk_moveCandidate, h.desk, h.catalog]

theorem desk_applyCandidate (h : Alike e f) :
    e.applyCandidate.desk = f.applyCandidate.desk := by
  unfold applyCandidate
  rw [h.chosen?]
  split
  · exact desk_endReselect (h.desk_retag ..)
  · exact desk_endReselect h.desk

/-- An event that picks nothing from the dropdown does the same to both, at whatever
    times. -/
theorem desk_handle (h : Alike e f) {event : Event} (unpicked : event ≠ .pickHighlighted)
    (now now' : Nat) : (e.handle event now).desk = (f.handle event now').desk := by
  cases event with
  | inputChanged text =>
    simp only [handle, desk_setInput]
    rw [h.desk]
  | typeChar c =>
    simp only [handle, desk_typeChar]
    rw [h.desk]
  | key k => exact h.desk_handleKey k now now'
  | picked s => exact h.desk_pick s
  | pickHighlighted => exact absurd rfl unpicked
  | highlightNext => exact h.desk
  | highlightPrevious => exact h.desk
  | reselect id name => exact h.desk_retag id name
  | beginReselect => exact h.desk_beginReselect
  | focusNextTag => exact h.desk_moveFocus .next
  | focusPreviousTag => exact h.desk_moveFocus .previous
  | candidateNext => exact h.desk_moveCandidate .next
  | candidatePrevious => exact h.desk_moveCandidate .previous
  | applyCandidate => exact h.desk_applyCandidate
  | cancel =>
    simp only [handle]
    by_cases hmode : f.mode = .reselecting
    · rw [if_pos hmode, if_pos (h.mode.trans hmode)]
      exact desk_endReselect h.desk
    · rw [if_neg hmode, if_neg (h.mode ▸ hmode)]
      exact congrArg (fun d : Desk => { d with dropdownShown := false }) h.desk
  | clear =>
    show { e.endReselect.desk with store := e.endReselect.desk.store.clear }
      = { f.endReselect.desk with store := f.endReselect.desk.store.clear }
    rw [desk_endReselect h.desk]
  | quit => exact congrArg (fun d : Desk => { d with mode := .quit }) h.desk

end Alike

/-! ## Runs with the same events -/

/-- The event in what happens, if it is one. -/
def eventOf? : Happening → Option Event
  | .event event _ => some event
  | _ => none

/-- The events of a run, in order. -/
def events (happenings : List Happening) : List Event := happenings.filterMap eventOf?

/-- A run of nothing but events, all at time zero. -/
def atOnce (events : List Event) : List Happening := events.map fun event => .event event 0

theorem Knows.step {c : Catalog} {e : Editor} (h : Knows c e) {x : Happening}
    (hx : ∀ other, x ≠ .replace other) : Knows c (e.step x) :=
  ⟨drawsOn_step h.drawsOn hx, hasFullList_step h.hasFullList x⟩

/-- Editors that know the same catalog have the same full list. -/
theorem Knows.alike {c : Catalog} {e f : Editor} (he : Knows c e) (hf : Knows c f)
    (hdesk : e.desk = f.desk) : Alike e f := ⟨hdesk, he.catalog.trans hf.catalog.symm⟩

/-- Whatever happens between the events of a run, and whenever they come, the desk is
    what the events alone make of it. -/
theorem desk_run {c : Catalog} {e f : Editor} (he : Knows c e) (hf : Knows c f)
    (hdesk : e.desk = f.desk) {happenings : List Happening}
    (stays : ∀ other, .replace other ∉ happenings)
    (unpicked : .pickHighlighted ∉ events happenings) :
    (e.run happenings).desk = (f.run (atOnce (events happenings))).desk := by
  induction happenings generalizing e f with
  | nil => exact hdesk
  | cons x rest ih =>
    have hx : ∀ other, x ≠ .replace other := by
      rintro other rfl
      exact stays other (List.mem_cons_self ..)
    have hstays : ∀ other, .replace other ∉ rest := fun other hmem =>
      stays other (List.mem_cons_of_mem _ hmem)
    have hknows : Knows c (e.step x) := he.step hx
    cases x with
    | event event now =>
      obtain ⟨hevent, hrest⟩ := List.ne_and_not_mem_of_not_mem_cons unpicked
      have hsame := (he.alike hf hdesk).desk_handle hevent.symm now 0
      exact ih hknows (hf.handle event 0) hsame hstays hrest
    -- anything else is no event, and leaves the desk as it is
    | tick now => exact ih hknows hf ((e.desk_tick now).trans hdesk) hstays unpicked
    | release => exact ih hknows hf hdesk hstays unpicked
    | die => exact ih hknows hf hdesk hstays unpicked
    | replace source => exact absurd rfl (hx source)

/-- The settings of an editor whose service fetches inline from a catalog that never
    changes, what the service went through before, and what happens to the editor. -/
structure FixedRun where
  fullWindow : Nat
  queryWindow : Nat
  debounce : Nat
  start : Nat
  before : List Service.Move
  happenings : List Happening
  before_stays : ∀ other, .replace other ∉ before
  stays : ∀ other, .replace other ∉ happenings

namespace FixedRun

/-- The editor at the start. -/
def first (r : FixedRun) (c : Catalog) : Editor :=
  Editor.new ((Service.new (.fixed c) (.empty r.fullWindow r.queryWindow) .inline).run r.before)
    r.debounce r.start

/-- The editor once the first `i` of its happenings are over. -/
def after (r : FixedRun) (c : Catalog) (i : Nat) : Editor :=
  (r.first c).run (r.happenings.take i)

/-- The events among the first `i` happenings. -/
def eventsBefore (r : FixedRun) (i : Nat) : List Event := events (r.happenings.take i)

theorem knows_first (r : FixedRun) (c : Catalog) : Knows c (r.first c) := by
  have hinline := (Service.Inline.new (.fixed c) (.empty r.fullWindow r.queryWindow)).run r.before
  have hdraws := (Service.DrawsOn.new (.fixed c) r.fullWindow r.queryWindow .inline).run
    r.before_stays
  exact .new hinline hdraws r.debounce r.start

theorem eventsBefore_prefix (r : FixedRun) (i : Nat) :
    r.eventsBefore i <+: events r.happenings := by
  refine ⟨events (r.happenings.drop i), ?_⟩
  rw [eventsBefore, events, events, ← List.filterMap_append, List.take_append_drop, events]

/-- At every moment the desk is what the events so far make of an empty one. -/
theorem desk_after (r : FixedRun) {c : Catalog} {f : Editor} (hf : Knows c f)
    (hdesk : (r.first c).desk = f.desk)
    (unpicked : .pickHighlighted ∉ events r.happenings) (i : Nat) :
    (r.after c i).desk = (f.run (atOnce (r.eventsBefore i))).desk := by
  refine desk_run (r.knows_first c) hf hdesk ?_ ?_
  · exact fun other hmem => r.stays other (List.mem_of_mem_take hmem)
  · exact fun hmem => unpicked ((r.eventsBefore_prefix i).subset hmem)

end FixedRun

/-- Two editors over the same catalog, with whatever settings, that are given the same
    events at whatever times and with whatever in between: as long as no event picks
    the highlighted suggestion, they agree after every event, and until the next one,
    on the formula, its revision and its value, on the input, the mode and the dropdown
    being shown, and on the tag being resolved and its candidate. -/
theorem formula_independent_of_lookups (c : Catalog) (r r' : FixedRun)
    (same : events r.happenings = events r'.happenings)
    (unpicked : .pickHighlighted ∉ events r.happenings) :
    ∀ i j, (r.eventsBefore i).length = (r'.eventsBefore j).length →
      let e := r.after c i
      let e' := r'.after c j
      e.store.tokens = e'.store.tokens
      ∧ e.store.revision = e'.store.revision
      ∧ e.result = e'.result
      ∧ e.snapshot.result = e'.snapshot.result
      ∧ e.input = e'.input
      ∧ e.mode = e'.mode
      ∧ e.dropdownShown = e'.dropdownShown
      ∧ e.reselection = e'.reselection := by
  intro i j hlength e e'
  have hknows : Knows c (r.first c) := r.knows_first c
  -- as many events of the same list are the same events
  have hevents : r.eventsBefore i = r'.eventsBefore j := by
    have hprefix := r'.eventsBefore_prefix j
    rw [← same] at hprefix
    exact (List.prefix_of_prefix_length_le (r.eventsBefore_prefix i) hprefix
      (Nat.le_of_eq hlength)).eq_of_length hlength
  have hdesk : e.desk = e'.desk := by
    have hfirst := r.desk_after hknows rfl unpicked i
    have hsecond := r'.desk_after hknows rfl (same ▸ unpicked) j
    rw [hevents] at hfirst
    exact hfirst.trans hsecond.symm
  have htokens : e.store.tokens = e'.store.tokens :=
    congrArg (fun d : Desk => d.store.tokens) hdesk
  refine ⟨htokens, ?_, ?_, ?_, ?_, ?_, ?_, ?_⟩
  · exact congrArg (fun d : Desk => d.store.revision) hdesk
  · exact congrArg evaluate htokens
  · exact congrArg (fun tokens => resultText (evaluate tokens)) htokens
  · exact congrArg Desk.input hdesk
  · exact congrArg Desk.mode hdesk
  · exact congrArg Desk.dropdownShown hdesk
  · exact congrArg Desk.reselection hdesk

/-- A tag that was typed and then resolved again takes the same name without any ticks
    and among ticks that look it up, refetch the list and go back in time. -/
theorem formula_independent_of_lookups_refetched :
    let rent : Suggestion := ⟨"1", "Rent", "housing", .text "900"⟩
    let food : Suggestion := ⟨"2", "Food", "groceries", .text "150"⟩
    let quiet : FixedRun :=
      ⟨1000, 100, 300, 0, [],
        [.event (.inputChanged "Rent") 10, .event (.key .enter) 20, .event .beginReselect 30,
          .event .candidateNext 40, .event .applyCandidate 50],
        by simp, by simp⟩
    let busy : FixedRun :=
      ⟨1, 1, 0, 70, [.request "r" 0, .poll 5],
        [.tick 80, .event (.inputChanged "Rent") 90, .tick 95, .tick 20, .event (.key .enter) 15,
          .event .beginReselect 15, .tick 99, .event .candidateNext 16, .tick 200,
          .event .applyCandidate 3],
        by simp, by simp⟩
    events quiet.happenings = events busy.happenings
    ∧ .pickHighlighted ∉ events quiet.happenings
    ∧ (quiet.eventsBefore 5).length = (busy.eventsBefore 10).length
    ∧ (busy.after [rent, food] 10).store.tokens.map (·.value) = ["Food"] := by
  intro rent food quiet busy
  have same : events quiet.happenings = events busy.happenings := rfl
  have unpicked : .pickHighlighted ∉ events quiet.happenings := by
    simp [quiet, events, eventOf?]
  have hlength : (quiet.eventsBefore 5).length = (busy.eventsBefore 10).length := rfl
  have hquiet : (quiet.after [rent, food] 5).store.tokens.map (·.value) = ["Food"] := by
    decide +kernel
  obtain ⟨htokens, -⟩ :=
    formula_independent_of_lookups [rent, food] quiet busy same unpicked 5 10 hlength
  rw [htokens] at hquiet
  exact ⟨same, unpicked, hlength, hquiet⟩

end Editor

end TagCalc
