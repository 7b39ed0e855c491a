/-
  TagCalc.Proofs.Editor.Staleness

  Stale results are never shown. The prompt is the part of the editor that typing
  and lookups share: the input, the dropdown, and the queries that are active or
  pending. It agrees with the log of all results handed out (`Prompt.Agrees`): an
  active or pending query is the query of the input, and once the active query no
  longer loads, the suggestions are the latest answer to it.

  What an event can make of the prompt is said once (`handle_prompt`). Every step keeps
  the agreement, together with what the service remembers of the log (`inStep_step`), so
  it holds in every run (`inStep_run`).
-/

import TagCalc.Proofs.Editor.Run
import TagCalc.Proofs.Lookup.Answers

namespace TagCalc

/-! ## The prompt -/

/-- What typing and lookups share. -/
structure Prompt where
  input : String
  dropdownShown : Bool
  suggestions : Catalog
  highlighted : Option Nat
  active : Option String
  pending : Option (String × Nat)
  loading : Bool

/-- The prompt of an editor. -/
def Editor.prompt (e : Editor) : Prompt :=
  ⟨e.input, e.dropdownShown, e.suggestions, e.highlighted, e.active, e.pending, e.loading⟩

/-- The prompt agrees with its input and with the results handed out. -/
structure Prompt.Agrees (log : List Fetched) (p : Prompt) : Prop where
  active : ∀ q, p.active = some q → q = queryOf p.input ∧ q ≠ ""
  pending : ∀ q due, p.pending = some (q, due) → q = queryOf p.input ∧ q ≠ ""
  quiet : queryOf p.input = "" →
    p.suggestions = [] ∧ p.highlighted = none ∧ p.pending = none ∧ p.loading = false
  shown : ∀ q, p.active = some q → p.loading = false → latest? q log = some p.suggestions
  opens : p.dropdownShown = true → Editor.opensDropdown p.input = true

/-! ## Prompts after an input -/

namespace Prompt

/-- The prompt after an input, with the time when its lookup is due. -/
def edited (p : Prompt) (input : String) (due : Nat) : Prompt :=
  if queryOf input = "" then
    ⟨input, Editor.opensDropdown input, [], none, none, none, false⟩
  else if p.active = some (queryOf input) then
    { p with
      input := input
      dropdownShown := Editor.opensDropdown input
      pending := some (queryOf input, due) }
  else
    { p with
      input := input
      dropdownShown := Editor.opensDropdown input
      pending := some (queryOf input, due)
      active := none
      loading := false }

variable {p : Prompt} {input : String}

theorem edited_of_no_query (h : queryOf input = "") (due : Nat) :
    p.edited input due = ⟨input, Editor.opensDropdown input, [], none, none, none, false⟩ := by
  rw [edited, if_pos h]

theorem edited_of_active (hquery : queryOf input ≠ "") (h : p.active = some (queryOf input))
    (due : Nat) :
    p.edited input due
      = { p with
          input := input
          dropdownShown := Editor.opensDropdown input
          pending := some (queryOf input, due) } := by
  rw [edited, if_neg hquery, if_pos h]

theorem edited_of_other (hquery : queryOf input ≠ "") (h : p.active ≠ some (queryOf input))
    (due : Nat) :
    p.edited input due
      = { p with
          input := input
          dropdownShown := Editor.opensDropdown input
          pending := some (queryOf input, due)
          active := none
          loading := false } := by
  rw [edited, if_neg hquery, if_neg h]

/-- The prompt agrees with every new input: its suggestions matter only while the active
    query stays. -/
theorem Agrees.edited {log : List Fetched} (h : p.Agrees log) (input : String) (due : Nat) :
    (p.edited input due).Agrees log := by
  by_cases hquery : queryOf input = ""
  · rw [edited_of_no_query hquery]
    refine ⟨nofun, nofun, fun _ => ⟨rfl, rfl, rfl, rfl⟩, nofun, ?_⟩
    dsimp only
    exact id
  · -- the query looked up last stays active if it is the query of the new input too
    by_cases hactive : p.active = some (queryOf input)
    · rw [edited_of_active hquery hactive]
      refine ⟨?_, ?_, fun hempty => absurd hempty hquery, h.shown, ?_⟩
      · intro q hq
        rw [← Option.some.inj (hactive.symm.trans hq)]
        exact ⟨rfl, hquery⟩
      · intro q due hpending
        simp only [Option.some.injEq, Prod.mk.injEq] at hpending
        rw [← hpending.1]
        exact ⟨rfl, hquery⟩
      · dsimp only
        exact id
    · rw [edited_of_other hquery hactive]
      refine ⟨nofun, ?_, fun hempty => absurd hempty hquery, nofun, ?_⟩
      · intro q due hpending
        simp only [Option.some.injEq, Prod.mk.injEq] at hpending
        rw [← hpending.1]
        exact ⟨rfl, hquery⟩
      · dsimp only
        exact id

/-- The prompt when nothing is typed, suggested, looked up or waited for. -/
def cleared : Prompt where
  input := ""
  dropdownShown := false
  suggestions := []
  highlighted := none
  active := none
  pending := none
  loading := false

theorem Agrees.cleared (log : List Fetched) : Prompt.cleared.Agrees log :=
  ⟨nofun, nofun, fun _ => ⟨rfl, rfl, rfl, rfl⟩, nofun, nofun⟩

/-! ## Prompts after an event -/

/-- What an event can make of a prompt. -/
inductive Change (p : Prompt) : Prompt → Prop where
  | same : Change p p
  | edited (input : String) (due : Nat) : Change p (p.edited input due)
  | cleared : Change p .cleared
  | moved (direction : Direction) :
      Change p { p with highlighted := cycle p.highlighted direction p.suggestions.length }
  | hidden : Change p { p with dropdownShown := false }

/-- No change shows a stale result. -/
theorem Agrees.change {log : List Fetched} {p' : Prompt} (h : p.Agrees log) (hc : p.Change p') :
    p'.Agrees log := by
  cases hc with
  | same => exact h
  | edited input due => exact h.edited input due
  | cleared => exact .cleared log
  | moved direction =>
    refine ⟨h.active, h.pending, ?_, h.shown, h.opens⟩
    intro hempty
    obtain ⟨hnone, -, hpending, hloading⟩ := h.quiet hempty
    -- without suggestions nothing can be highlighted
    refine ⟨hnone, ?_, hpending, hloading⟩
    dsimp only
    rw [hnone]
    rfl
  | hidden => exact ⟨h.active, h.pending, h.quiet, h.shown, nofun⟩

end Prompt

namespace Editor

/-! ## Steps that leave the prompt alone -/

@[simp] theorem prompt_removeLast (e : Editor) : e.removeLast.prompt = e.prompt := by
  rw [removeLast_frame]
  rfl

@[simp] theorem prompt_retag (e : Editor) (id : Nat) (name : String) :
    (e.retag id name).prompt = e.prompt := by
  rw [retag_frame]
  rfl

@[simp] theorem prompt_moveFocus (e : Editor) (direction : Direction) :
    (e.moveFocus direction).prompt = e.prompt := by
  rw [moveFocus_frame]
  rfl

@[simp] theorem prompt_applyCandidate (e : Editor) : e.applyCandidate.prompt = e.prompt := by
  rw [applyCandidate_frame]
  rfl

@[simp] theorem prompt_refreshCatalog (e : Editor) (now : Nat) :
    (e.refreshCatalog now).prompt = e.prompt := by
  rw [refreshCatalog_frame]
  rfl

/-! ## Typing -/

/-- The editor with another prompt. -/
def withPrompt (e : Editor) (p : Prompt) : Editor :=
  { e with
    input := p.input
    dropdownShown := p.dropdownShown
    suggestions := p.suggestions
    highlighted := p.highlighted
    active := p.active
    pending := p.pending
    loading := p.loading }

@[simp] theorem prompt_withPrompt (e : Editor) (p : Prompt) : (e.withPrompt p).prompt = p := rfl

@[simp] theorem debounce_withPrompt (e : Editor) (p : Prompt) :
    (e.withPrompt p).debounce = e.debounce := rfl

@[simp] theorem withPrompt_withPrompt (e : Editor) (p q : Prompt) :
    (e.withPrompt p).withPrompt q = e.withPrompt q := rfl

/-- An input changes the prompt and nothing else. -/
theorem setInput_eq (e : Editor) (input : String) (now : Nat) :
    e.setInput input now = e.withPrompt (e.prompt.edited input (now + e.debounce)) := by
  unfold setInput inputEdited
  dsimp only
  by_cases hquery : queryOf input = ""
  · rw [if_pos (by simpa using hquery), Prompt.edited_of_no_query hquery, withPrompt]
  · rw [if_neg (by simpa using hquery)]
    by_cases hactive : e.active = some (queryOf input)
    · rw [if_pos (by simpa using hactive), Prompt.edited_of_active hquery hactive]
      rfl
    · rw [if_neg (by simpa using hactive), Prompt.edited_of_other hquery hactive]
      rfl

theorem setInput_prompt (e : Editor) (input : String) (now : Nat) :
    e.prompt.Change (e.setInput input now).prompt := by
  rw [setInput_eq, prompt_withPrompt]
  exact .edited input (now + e.debounce)

theorem eraseCluster_prompt (e : Editor) (now : Nat) :
    e.prompt.Change (e.eraseCluster now).prompt := by
  rw [eraseCluster]
  split
  · exact .same
  · exact e.setInput_prompt _ now

theorem pick_prompt (e : Editor) (s : Suggestion) : e.prompt.Change (e.pick s).prompt := by
  rw [pick]
  split
  · exact .cleared
  · exact .same

theorem handleKey_prompt (e : Editor) (k : EditKey) (now : Nat) :
    e.prompt.Change (e.handleKey k now).prompt := by
  rcases e.handleKey_cases k now with
    ⟨-, heq⟩ | ⟨-, -, heq⟩ | ⟨-, -, heq⟩ | ⟨-, heq⟩ | ⟨-, -, -, heq⟩
  · rw [heq]
    exact .same
  · rw [heq, ← prompt_removeLast]
    exact e.removeLast.eraseCluster_prompt now
  · rw [heq]
    exact e.eraseCluster_prompt now
  · rw [heq]
    exact e.setInput_prompt (e.input.push ' ') now
  · rw [heq]
    exact .cleared

/-- Every event is one of the changes of the prompt. -/
theorem handle_prompt (e : Editor) (event : Event) (now : Nat) :
    e.prompt.Change (e.handle event now).prompt := by
  cases event with
  | inputChanged text => exact e.setInput_prompt text now
  | typeChar c => exact e.setInput_prompt (e.input.push c) now
  | key k => exact e.handleKey_prompt k now
  | picked s => exact e.pick_prompt s
  | pickHighlighted =>
    simp only [handle]
    split
    · exact e.pick_prompt _
    · exact .same
  | highlightNext => exact .moved .next
  | highlightPrevious => exact .moved .previous
  | reselect id name =>
    simp only [handle, prompt_retag]
    exact .same
  | beginReselect =>
    simp only [handle, beginReselect]
    split
    · exact .hidden
    · exact .same
  | focusNextTag =>
    simp only [handle, prompt_moveFocus]
    exact .same
  | focusPreviousTag =>
    simp only [handle, prompt_moveFocus]
    exact .same
  | candidateNext => exact .same
  | candidatePrevious => exact .same
  | applyCandidate =>
    simp only [handle, prompt_applyCandidate]
    exact .same
  | cancel =>
    simp only [handle]
    split
    · exact .same
    · exact .hidden
  | clear => exact .same
  | quit => exact .same

theorem agrees_typeChar {log : List Fetched} {e : Editor} (h : e.prompt.Agrees log)
    (c : Char) (now : Nat) : (e.typeChar c now).prompt.Agrees log :=
  h.change (e.setInput_prompt (e.input.push c) now)

theorem agrees_handle {log : List Fetched} {e : Editor} (h : e.prompt.Agrees log)
    (event : Event) (now : Nat) : (e.handle event now).prompt.Agrees log :=
  h.change (e.handle_prompt event now)

/-! ## Ticks -/

/-- A lookup of the input's query shows what the cache holds, which is the latest
    answer, or waits. -/
theorem agrees_startLookup {log : List Fetched} {e : Editor} {query : String}
    (h : e.prompt.Agrees log) (hservice : e.service.Remembers log)
    (hquery : query = queryOf e.input ∧ query ≠ "") (now : Nat) :
    (e.startLookup query now).prompt.Agrees log := by
  have hactive : ∀ q, some query = some q → q = queryOf e.input ∧ q ≠ "" := by
    intro q hq
    rw [← Option.some.inj hq]
    exact hquery
  have hquiet : queryOf e.input ≠ "" := by
    rw [← hquery.1]
    exact hquery.2
  rw [startLookup]
  rcases e.service.request_cases query now with ⟨found, hc, heq⟩ | ⟨-, -, heq⟩ | ⟨-, -, heq⟩
  · rw [heq]
    refine ⟨hactive, h.pending, fun hempty => absurd hempty hquiet, ?_, h.opens⟩
    intro q hq _
    rw [← Option.some.inj hq]
    exact hservice.cached hc
  · rw [heq]
    refine ⟨hactive, h.pending, fun hempty => absurd hempty hquiet, ?_, h.opens⟩
    intro q _ hloaded
    cases hloaded
  · rw [heq]
    refine ⟨hactive, h.pending, fun hempty => absurd hempty hquiet, ?_, h.opens⟩
    intro q _ hloaded
    cases hloaded

theorem agrees_fireDue {log : List Fetched} {e : Editor} (h : e.prompt.Agrees log)
    (hservice : e.service.Remembers log) (now : Nat) : (e.fireDue now).prompt.Agrees log := by
  rw [fireDue]
  split
  · exact h
  · rename_i query due hpending
    split
    · have hfired : Prompt.Agrees log { e.prompt with pending := none } := by
        refine ⟨h.active, ?_, ?_, h.shown, h.opens⟩
        · intro q due hnone
          cases hnone
        · intro hempty
          obtain ⟨hsuggestions, hhighlighted, -, hloading⟩ := h.quiet hempty
          exact ⟨hsuggestions, hhighlighted, rfl, hloading⟩
      exact agrees_startLookup (e := { e with pending := none }) hfired hservice
        (h.pending query due hpending) now
    · exact h

/-- A result for another query than the active one is not shown, so it does no
    harm that it comes late. -/
theorem agrees_receive {log : List Fetched} {e : Editor} (h : e.prompt.Agrees log)
    (f : Fetched) : (e.receive f).prompt.Agrees (log ++ [f]) := by
  rw [receive]
  by_cases hactive : (e.active == some f.query) = true
  · rw [if_pos hactive]
    have hsame : e.active = some f.query := by simpa using hactive
    -- the result is the latest one for the active query, which is not empty
    obtain ⟨hquery, hne⟩ := h.active f.query hsame
    refine ⟨h.active, h.pending, ?_, ?_, h.opens⟩
    · intro hempty
      exact absurd (hquery.trans hempty) hne
    · intro q hq _
      rw [← Option.some.inj (hsame.symm.trans hq)]
      exact latest?_concat_self log f
  · rw [if_neg hactive]
    refine ⟨h.active, h.pending, h.quiet, ?_, h.opens⟩
    intro q hq hloaded
    -- the log grows by a result of another query, so the latest answer stays
    have hother : f.query ≠ q := by
      rintro rfl
      exact hactive (by rw [show e.active = some f.query from hq, beq_self_eq_true])
    rw [latest?_concat_of_ne hother]
    exact h.shown q hq hloaded

theorem agrees_foldl_receive {log : List Fetched} {e : Editor} (h : e.prompt.Agrees log)
    (results : List Fetched) : (results.foldl receive e).prompt.Agrees (log ++ results) := by
  induction results generalizing e log with
  | nil =>
    rw [List.append_nil]
    exact h
  | cons f rest ih =>
    rw [List.foldl_cons, ← List.singleton_append, ← List.append_assoc]
    exact ih (agrees_receive h f)

/-! ## Runs -/

/-- The editor and its service are in step with the results handed out. -/
structure InStep (log : List Fetched) (e : Editor) : Prop where
  service : e.service.Remembers log
  prompt : e.prompt.Agrees log

theorem agrees_collect {log : List Fetched} {e : Editor} (h : e.prompt.Agrees log) (now : Nat) :
    (e.collect now).prompt.Agrees (log ++ (e.service.poll now).2) :=
  agrees_foldl_receive (e := { e with service := (e.service.poll now).1 }) h _

theorem agrees_step {log : List Fetched} {e : Editor} (h : InStep log e) (x : Happening) :
    (e.step x).prompt.Agrees (log ++ e.handsOut x) := by
  cases x with
  | tick now =>
    apply agrees_collect
    rw [prompt_refreshCatalog]
    exact agrees_fireDue h.prompt h.service now
  | event event now =>
    show (e.handle event now).prompt.Agrees (log ++ [])
    rw [List.append_nil]
    exact agrees_handle h.prompt event now
  | release =>
    show e.prompt.Agrees (log ++ [])
    rw [List.append_nil]
    exact h.prompt
  | die =>
    show e.prompt.Agrees (log ++ [])
    rw [List.append_nil]
    exact h.prompt
  | replace source =>
    show e.prompt.Agrees (log ++ [])
    rw [List.append_nil]
    exact h.prompt

/-- Whatever happens, editor and service stay in step with the log. -/
theorem inStep_step {log : List Fetched} {e : Editor} (h : InStep log e) (x : Happening) :
    InStep (log ++ e.handsOut x) (e.step x) := by
  refine ⟨?_, agrees_step h x⟩
  rw [service_step, handsOut_eq]
  exact h.service.run (e.moves x)

theorem inStep_run {log : List Fetched} {e : Editor} (h : InStep log e)
    (happenings : List Happening) : InStep (log ++ e.handedOut happenings) (e.run happenings) :=
  trace_induction (P := InStep) (fun x _ _ _ hx => inStep_step hx x) h

/-- A new editor over a service that has been in use. -/
theorem inStep_new {log : List Fetched} {service : Service} (h : service.Remembers log)
    (debounce start : Nat) :
    InStep (log ++ service.handedOut (startMoves start)) (Editor.new service debounce start) := by
  refine ⟨?_, nofun, nofun, fun _ => ⟨rfl, rfl, rfl, rfl⟩, nofun, nofun⟩
  rw [service_new]
  exact h.run (startMoves start)

/-- In every run the active query and the pending one are the query of the input,
    and not empty; without a query nothing is suggested, pending or loading; the
    suggestions of an active query that does not load are the list handed out last
    for this query, so they have distinct ids and match it; and the dropdown is
    shown only over an input that could become a tag. -/
theorem shown_suggestions_are_latest (source : Source) (fullWindow queryWindow : Nat)
    (dispatch : Dispatch) (before : List Service.Move) (debounce start : Nat)
    (happenings : List Happening) :
    let idle := Service.new source (.empty fullWindow queryWindow) dispatch
    let first := Editor.new (idle.run before) debounce start
    let e := first.run happenings
    let log := idle.handedOut (before ++ startMoves start) ++ first.handedOut happenings
    (∀ q, e.active = some q → q = queryOf e.input ∧ q ≠ "")
    ∧ (∀ q due, e.pending = some (q, due) → q = queryOf e.input ∧ q ≠ "")
    ∧ (queryOf e.input = "" →
        e.suggestions = [] ∧ e.highlighted = none ∧ e.pending = none ∧ e.loading = false)
    ∧ (∀ q, e.active = some q → e.loading = false →
        latest? q log = some e.suggestions
        ∧ (e.suggestions.map (·.id)).Nodup
        ∧ ∀ s ∈ e.suggestions,
            (Text.lowercase q).toList <:+: (Text.lowercase s.name).toList
            ∨ (Text.lowercase q).toList <:+: (Text.lowercase s.category).toList)
    ∧ (e.dropdownShown = true →
        Text.trim e.input ≠ "" ∧ classify (Text.trim e.input) = .tag) := by
  intro idle first e log
  have hidle : (idle.run before).Remembers (idle.handedOut before) :=
    (Service.Remembers.new source fullWindow queryWindow dispatch).run before
  have h : InStep log e := by
    have hrun := inStep_run (inStep_new hidle debounce start) happenings
    rw [← Service.handedOut_append] at hrun
    exact hrun
  refine ⟨h.prompt.active, h.prompt.pending, h.prompt.quiet, ?_, ?_⟩
  · intro q hactive hloaded
    have hlatest := h.prompt.shown q hactive hloaded
    -- what was handed out for the query is what some source answered to it
    obtain ⟨origin, hfound⟩ :=
      h.service.sourced _ (List.mem_append_left _ (mem_of_latest? hlatest))
    have hsuggestions : e.suggestions = origin.resolve q := hfound
    refine ⟨hlatest, ?_, ?_⟩
    · rw [hsuggestions]
      exact origin.resolve_ids_nodup q
    · intro s hs
      rw [hsuggestions] at hs
      exact Suggestion.isMatch_iff.1
        (Source.isMatch_of_mem_resolve (h.prompt.active q hactive).2 hs)
  · intro hshown
    have hopens : opensDropdown e.input = true := h.prompt.opens hshown
    rw [opensDropdown] at hopens
    rw [Bool.and_eq_true] at hopens
    exact ⟨by simpa using hopens.1, by simpa using hopens.2⟩

end Editor

end TagCalc
