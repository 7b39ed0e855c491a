/-
  TagCalc.Proofs.Editor.Finding

  Typing the name of a suggestion to find it. A tick at which the lookup of the input is
  due makes its query the active one. Over an inline service the same tick hands its
  result out, so an active query has its answer shown (`suggestions_of_inline`). Over a
  source with one catalog these are the entries that match the query. The entry whose name
  was typed is one of them unless an operand character stands between two words of the
  name: the query leaves it out, and the name does not (`typed_name_finds_suggestion`).
-/

import TagCalc.Proofs.Editor.Debounce
import TagCalc.Proofs.Editor.Loading
import TagCalc.Proofs.Catalog.Query

namespace TagCalc.Editor

/-! ## The lookup of an input -/

/-- The query of a new input, if it has one, is pending for the debounce time. -/
theorem pending_setInput (e : Editor) {input : String} (h : queryOf input ≠ "") (now : Nat) :
    (e.setInput input now).pending = some (queryOf input, now + e.debounce) := by
  rw [setInput_eq, withPrompt]
  dsimp only
  rw [Prompt.edited, if_neg h]
  split <;> rfl

/-- An input that could become a tag opens the dropdown, and time leaves it open. -/
theorem dropdownShown_tick_setInput (e : Editor) (input : String) (now later : Nat) :
    ((e.setInput input now).tick later).dropdownShown = opensDropdown input := by
  rw [← dropdownShown_desk, desk_tick, desk_setInput]

/-! ## What is found -/

/-- Over an inline service and a source that stays, an editor with an active query shows
    what the source answers to it, and one whose input has no query shows nothing. -/
theorem suggestions_of_inline (source : Source) (fullWindow queryWindow debounce start : Nat)
    {before : List Service.Move} (hbefore : ∀ other, .replace other ∉ before)
    {happenings : List Happening} (hstays : ∀ other, .replace other ∉ happenings) :
    let idle := Service.new source (.empty fullWindow queryWindow) .inline
    let e := (Editor.new (idle.run before) debounce start).run happenings
    (∀ query, e.active = some query → e.suggestions = source.resolve query)
    ∧ (queryOf e.input = "" → e.suggestions = []) := by
  intro idle e
  have hidle : (idle.run before).Remembers (idle.handedOut before) :=
    (Service.Remembers.new source fullWindow queryWindow .inline).run before
  have h := inStep_run (inStep_new hidle debounce start) happenings
  refine ⟨?_, fun hempty => (h.prompt.quiet hempty).1⟩
  intro query hactive
  have hloaded : e.loading = false :=
    not_loading_of_inline source _ before debounce start happenings
  -- the suggestions are the latest list handed out for the query, and each is an answer
  have hmem := mem_of_latest? (h.prompt.shown query hactive hloaded)
  rw [← Service.handedOut_append, handedOut_eq, service_new, ← Service.run_append,
    ← Service.handedOut_append] at hmem
  have hmoves : ∀ other, .replace other ∉ before ++ startMoves start
      ++ (Editor.new (idle.run before) debounce start).runMoves happenings := by
    intro other h
    rcases List.mem_append.1 h with h | h
    · rcases List.mem_append.1 h with h | h
      · exact hbefore other h
      · simp [startMoves] at h
    · exact hstays other (replace_mem_of_mem_runMoves h)
  exact (Service.DrawsOn.new source fullWindow queryWindow .inline).handedOut hmoves _ hmem

/-- A new input, and a tick later on. -/
def typing (input : String) (now later : Nat) : List Happening :=
  [.event (.inputChanged input) now, .tick later]

theorem run_typed (e : Editor) (input : String) (now later : Nat) :
    e.run (typing input now later) = (e.setInput input now).tick later := by
  rw [run, typing, List.foldl_cons, List.foldl_cons, List.foldl_nil, step, step, handle]

/-- What is suggested once the lookup of a new input is due. -/
theorem suggestions_of_typed (source : Source) (fullWindow queryWindow debounce start : Nat)
    {before : List Service.Move} (hbefore : ∀ other, .replace other ∉ before)
    {happenings : List Happening} (hstays : ∀ other, .replace other ∉ happenings) {e : Editor}
    (he : e = (Editor.new ((Service.new source (.empty fullWindow queryWindow) .inline).run before)
      debounce start).run happenings) (input : String) (now : Nat) :
    ((e.setInput input now).tick (now + debounce)).suggestions
      = if queryOf input = "" then [] else source.resolve (queryOf input) := by
  have hdebounce : e.debounce = debounce := by
    rw [he]
    exact ((Paced.new _ debounce start).run happenings).debounce_eq
  have hlater : ∀ other, .replace other ∉ happenings ++ typing input now (now + debounce) := by
    intro other hmem
    rcases List.mem_append.1 hmem with hmem | hmem
    · exact hstays other hmem
    · simp [typing] at hmem
  obtain ⟨hfound, hnone⟩ :=
    suggestions_of_inline source fullWindow queryWindow debounce start hbefore hlater
  rw [run_append, ← he, run_typed] at hfound hnone
  by_cases hquery : queryOf input = ""
  · rw [if_pos hquery]
    apply hnone
    rw [input_tick, input_setInput, hquery]
  · rw [if_neg hquery]
    apply hfound
    exact active_tick_of_due (e.pending_setInput hquery now) (by omega)

/-! ## Names typed as inputs -/

/-- Over an inline service that has one catalog to answer with, the name of an entry that
    could be a tag is typed into the editor, in any state of it. Once the lookup is due,
    the dropdown is open over the entries that match the query of the name, or over none
    if the name has no word. The entry is one of them just when its name has a word, and
    either no operand character stands between two of its words or its category contains
    the query. -/
theorem typed_name_finds_suggestion (c : Catalog) (fullWindow queryWindow debounce start : Nat)
    (before : List Service.Move) (hbefore : ∀ other, .replace other ∉ before)
    (happenings : List Happening) (stays : ∀ other, .replace other ∉ happenings)
    (s : Suggestion) (listed : s ∈ c.dedup) (filled : Text.trim s.name ≠ "")
    (tag : classify s.name = .tag) (now : Nat) :
    let idle := Service.new (.fixed c) (.empty fullWindow queryWindow) .inline
    let e := (Editor.new (idle.run before) debounce start).run happenings
    let after := (e.handle (.inputChanged s.name) now).tick (now + debounce)
    let query := queryOf s.name
    after.dropdownShown = true
    ∧ after.suggestions = (if query = "" then [] else c.dedup.filterBy query)
    ∧ (s ∈ after.suggestions ↔
        (∃ d ∈ s.name.toList, isWordChar d = true)
        ∧ (OperandsOutside s.name.toList
          ∨ (Text.lowercase query).toList <:+: (Text.lowercase s.category).toList)) := by
  intro idle e after query
  have hopens : opensDropdown s.name = true := by
    have hclassify : classify (Text.trim s.name) = classify s.name := by
      rw [classify, Text.trim_trim, classify]
    rw [opensDropdown, hclassify, tag]
    simpa using filled
  have hwords : query = "" ↔ ¬∃ d ∈ s.name.toList, isWordChar d = true := by
    rw [queryOf_eq_empty_iff]
    simp
  have hsuggestions : after.suggestions = if query = "" then [] else c.dedup.filterBy query :=
    suggestions_of_typed (.fixed c) fullWindow queryWindow debounce start hbefore stays rfl _ now
  refine ⟨(e.dropdownShown_tick_setInput s.name now _).trans hopens, hsuggestions, ?_⟩
  rw [hsuggestions]
  by_cases hquery : query = ""
  · rw [if_pos hquery]
    simp [hwords.1 hquery]
  · rw [if_neg hquery, Catalog.mem_filterBy, Suggestion.isMatch_iff, infix_lowercase_queryOf_iff]
    simp [listed, hquery, Decidable.not_not.1 (mt hwords.2 hquery)]

/-- Brackets around a name do not hide it, not even while a tag is being resolved. -/
theorem typed_name_finds_suggestion_in_brackets :
    let pay : Suggestion := ⟨"1", "(Net pay) ", "salary", .text "5"⟩
    let idle := Service.new (.fixed [pay]) (.empty 1000 500) .inline
    let done := [.event (.typeChar 'n') 0, .tick 300, .event (.picked pay) 310,
      .event .beginReselect 310]
    let after := (((Editor.new idle 300 0).run done).handle (.inputChanged pay.name) 320).tick 620
    pay ∈ Catalog.dedup [pay] ∧ Text.trim pay.name ≠ "" ∧ classify pay.name = .tag
    ∧ after.dropdownShown = true ∧ pay ∈ after.suggestions := by
  intro pay idle done after
  have listed : pay ∈ Catalog.dedup [pay] := List.mem_singleton_self pay
  have filled : Text.trim pay.name ≠ "" := by decide +kernel
  have tag : classify pay.name = .tag := by decide +kernel
  obtain ⟨hshown, -, hfound⟩ := typed_name_finds_suggestion [pay] 1000 500 300 0
    [] (fun _ => List.not_mem_nil) done (by simp [done]) pay listed filled tag 320
  refine ⟨listed, filled, tag, hshown, hfound.2 ⟨?_, Or.inl ?_⟩⟩
  · exact ⟨'N', by decide +kernel, by decide⟩
  · apply infix_lowercase_queryOf_iff.1
    rw [← occursIn_iff]
    decide +kernel

/-- The query of "net-income" is "netincome", which the name does not contain. -/
theorem typed_name_misses_suggestion :
    let income : Suggestion := ⟨"1", "net-income", "salary", .text "5"⟩
    let idle := Service.new (.fixed [income]) (.empty 1000 500) .inline
    let after := ((Editor.new idle 300 0).handle (.inputChanged income.name) 0).tick 300
    income ∈ Catalog.dedup [income] ∧ Text.trim income.name ≠ "" ∧ classify income.name = .tag
    ∧ after.dropdownShown = true ∧ after.suggestions = [] := by
  intro income idle after
  refine ⟨List.mem_singleton_self income, ?_, ?_, ?_, ?_⟩
  · decide +kernel
  · decide +kernel
  · decide +kernel
  · decide +kernel

end TagCalc.Editor
