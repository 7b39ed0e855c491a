/-
  TagCalc.Proofs.Editor.Dropdown

  What is picked against what is drawn. The key picks the suggestion under the
  highlight of a shown dropdown, whether or not the editor loads (`picks_iff`); the
  picture marks this suggestion unless the editor loads, and nothing else
  (`suggestionsPopup_of_highlighted`, `highlighted_of_selected`). So the two agree
  where nothing is waited for, as over an inline service
  (`picked_suggestion_is_selected`).
-/

import TagCalc.Proofs.Editor.Loading
import TagCalc.Screen.Draw

namespace TagCalc

/-! ## The picture of the dropdown -/

namespace Screen

/-- While the editor loads, a notice stands in for the suggestions. -/
theorem suggestionsPopup_of_loading (theme : Theme) {v : Snapshot} (h : v.loading = true) :
    (suggestionsPopup theme v).selected = none
    ∧ (suggestionsPopup theme v).entries = noticeEntry theme "Loading..." := by
  have hnone : (v.loading || v.suggestions.isEmpty) = true := by
    rw [h, Bool.true_or]
  exact ⟨if_pos hnone, if_pos h⟩

/-- Otherwise a suggestion under the highlight is the entry that is marked. -/
theorem suggestionsPopup_of_highlighted (theme : Theme) {v : Snapshot} {i : Nat}
    {s : Suggestion} (h : v.loading = false) (hi : v.highlighted = some i)
    (hs : v.suggestions[i]? = some s) :
    (suggestionsPopup theme v).selected = some i
    ∧ (suggestionsPopup theme v).entries[i]? = some (suggestionEntry theme s)
    ∧ markedIndex (suggestionsPopup theme v).selected
        (suggestionsPopup theme v).entries.length = some i := by
  have hlt : i < v.suggestions.length := (List.getElem?_eq_some_iff.1 hs).1
  have hfilled : v.suggestions.isEmpty = false := by
    rw [List.isEmpty_eq_false_iff]
    exact List.ne_nil_of_length_pos (Nat.zero_lt_of_lt hlt)
  have hselected : (suggestionsPopup theme v).selected = some i := by
    rw [suggestionsPopup, h, hfilled]
    exact hi
  have hentries : (suggestionsPopup theme v).entries
      = v.suggestions.map (suggestionEntry theme) := by
    rw [suggestionsPopup, h, hfilled]
    rfl
  refine ⟨hselected, ?_, ?_⟩
  · rw [hentries, List.getElem?_map, hs, Option.map_some]
  · rw [hselected, hentries, List.length_map]
    exact markedIndex_of_lt hlt

/-- Only the highlight is marked, and only while nothing is loading. -/
theorem highlighted_of_selected {theme : Theme} {v : Snapshot} {i : Nat}
    (h : (suggestionsPopup theme v).selected = some i) :
    v.loading = false ∧ v.highlighted = some i := by
  rw [suggestionsPopup] at h
  by_cases hnone : (v.loading || v.suggestions.isEmpty) = true
  · rw [if_pos hnone] at h
    cases h
  · rw [if_neg hnone] at h
    rw [Bool.or_eq_true, not_or] at hnone
    exact ⟨Bool.eq_false_iff.2 hnone.1, h⟩

end Screen

namespace Editor

/-! ## What is picked -/

theorem highlightedSuggestion?_eq_some {e : Editor} {s : Suggestion} :
    e.highlightedSuggestion? = some s
      ↔ e.dropdownShown = true ∧ ∃ i, e.highlighted = some i ∧ e.suggestions[i]? = some s := by
  rw [highlightedSuggestion?]
  by_cases hshown : e.dropdownShown = true
  · rw [if_pos hshown, Option.bind_eq_some_iff]
    exact ⟨fun h => ⟨hshown, h⟩, fun h => h.2⟩
  · rw [if_neg hshown]
    exact ⟨nofun, fun h => absurd h.1 hshown⟩

/-- The tag that a picked suggestion is appended as. -/
def pickedToken (e : Editor) (s : Suggestion) : Token := ⟨e.store.freshId, s.name, .tag, some s⟩

theorem tokens_pick (e : Editor) (s : Suggestion) :
    (e.pick s).store.tokens
      = if e.store.accepts .tag then e.store.tokens ++ [e.pickedToken s] else e.store.tokens := by
  rw [pick]
  split
  · exact Store.tokens_append ..
  · rfl

/-- The key appends the suggestion under the highlight, if the formula accepts a
    tag, and appends nothing else. -/
theorem picks_iff {e : Editor} {now : Nat} {t : Token} :
    (e.handle .pickHighlighted now).store.tokens = e.store.tokens ++ [t]
      ↔ e.store.accepts .tag = true
        ∧ ∃ s, e.highlightedSuggestion? = some s ∧ t = e.pickedToken s := by
  -- where nothing is picked, or the tag is not accepted, the formula does not grow
  have hgrows : e.store.tokens ≠ e.store.tokens ++ [t] := by
    intro heq
    have hlength := congrArg List.length heq
    rw [List.length_append, List.length_singleton] at hlength
    omega
  simp only [handle]
  cases hpicked : e.highlightedSuggestion? with
  | none =>
    constructor
    · exact fun h => absurd h hgrows
    · rintro ⟨-, _, hnone, -⟩
      cases hnone
  | some s =>
    simp only [tokens_pick]
    by_cases haccepts : e.store.accepts .tag = true
    · rw [if_pos haccepts]
      constructor
      · intro h
        have heq := List.singleton_inj.1 (List.append_cancel_left h)
        exact ⟨haccepts, s, rfl, heq.symm⟩
      · rintro ⟨-, _, hs, rfl⟩
        rw [Option.some.inj hs]
    · rw [if_neg haccepts]
      exact ⟨fun h => absurd h hgrows, fun h => absurd h.1 haccepts⟩

/-! ## What is picked and what is marked -/

/-- In every run, a tag that the key appends stands for the suggestion under the
    highlight of a dropdown that is shown. This is the entry marked in the picture,
    unless the editor loads: then a notice stands in for all entries and none is
    marked. Over an inline service the editor never loads. The other way round, an
    entry marked in a shown dropdown is picked wherever a tag is accepted. -/
theorem picked_suggestion_is_selected (source : Source) (fullWindow queryWindow : Nat)
    (dispatch : Dispatch) (before : List Service.Move) (debounce start : Nat)
    (happenings : List Happening) (now : Nat) (theme : Screen.Theme) :
    let service := (Service.new source (.empty fullWindow queryWindow) dispatch).run before
    let e := (Editor.new service debounce start).run happenings
    let after := e.handle .pickHighlighted now
    let dropdown := Screen.suggestionsPopup theme e.snapshot
    (∀ t s, after.store.tokens = e.store.tokens ++ [t] → t.suggestion = some s →
      e.snapshot.dropdownShown = true
      ∧ (e.snapshot.reselect = none → Screen.popup? theme e.snapshot = some dropdown)
      ∧ (∃ i, e.snapshot.highlighted = some i ∧ e.snapshot.suggestions[i]? = some s
        ∧ (e.snapshot.loading = false → dropdown.selected = some i
          ∧ dropdown.entries[i]? = some (Screen.suggestionEntry theme s)
          ∧ Screen.markedIndex dropdown.selected dropdown.entries.length = some i)
        ∧ (e.snapshot.loading = true → dropdown.selected = none
          ∧ dropdown.entries = Screen.noticeEntry theme "Loading..."))
      ∧ (dispatch = .inline → e.snapshot.loading = false))
    ∧ ∀ i s, e.snapshot.dropdownShown = true → dropdown.selected = some i →
      e.snapshot.suggestions[i]? = some s → e.store.accepts .tag = true →
      after.store.tokens = e.store.tokens ++ [e.pickedToken s] := by
  intro service e after dropdown
  refine ⟨?_, ?_⟩
  · intro t s happends hs
    obtain ⟨-, picked, hpicked, rfl⟩ := picks_iff.1 happends
    obtain rfl : picked = s := Option.some.inj hs
    obtain ⟨hshown, i, hi, hsuggestion⟩ := highlightedSuggestion?_eq_some.1 hpicked
    refine ⟨hshown, ?_, ⟨i, hi, hsuggestion, ?_, ?_⟩, ?_⟩
    · intro hnone
      rw [Screen.popup?, hnone]
      exact if_pos hshown
    · intro hloading
      exact Screen.suggestionsPopup_of_highlighted theme hloading hi hsuggestion
    · intro hloading
      exact Screen.suggestionsPopup_of_loading theme hloading
    · rintro rfl
      exact not_loading_of_inline source _ before debounce start happenings
  · intro i s hshown hselected hs haccepts
    have hi : e.highlighted = some i := (Screen.highlighted_of_selected hselected).2
    have hpicked := highlightedSuggestion?_eq_some.2 ⟨hshown, i, hi, hs⟩
    exact picks_iff.2 ⟨haccepts, s, hpicked, rfl⟩

def fuel : Suggestion := ⟨"1", "Fuel", "transport", .text "80"⟩

def food : Suggestion := ⟨"2", "Food", "groceries", .text "150"⟩

/-- Both suggestions are shown for "f", and the second one is highlighted. -/
def secondHighlighted : Editor :=
  (Editor.new (Service.new (.fixed [fuel, food]) (.empty 300000 60000) .inline) 300 0).run
    [.event (.inputChanged "f") 0, .tick 300, .event .highlightNext 310]

/-- The highlighted suggestion is marked and picked. -/
theorem picked_suggestion_is_selected_second :
    (secondHighlighted.handle .pickHighlighted 310).store.tokens
      = secondHighlighted.store.tokens ++ [⟨1, "Food", .tag, some food⟩]
    ∧ (Screen.suggestionsPopup .midnight secondHighlighted.snapshot).selected = some 1
    ∧ secondHighlighted.snapshot.suggestions[1]? = some food := by
  have happends : (secondHighlighted.handle .pickHighlighted 310).store.tokens
      = secondHighlighted.store.tokens ++ [⟨1, "Food", .tag, some food⟩] := by
    rfl
  obtain ⟨hpick, -⟩ :=
    picked_suggestion_is_selected (.fixed [fuel, food]) 300000 60000 .inline [] 300 0
      [.event (.inputChanged "f") 0, .tick 300, .event .highlightNext 310] 310 .midnight
  obtain ⟨-, -, ⟨i, hi, hs, hselected, -⟩, hinline⟩ :=
    hpick ⟨1, "Food", .tag, some food⟩ food happends rfl
  obtain ⟨hmarked, -⟩ := hselected (hinline rfl)
  have hsecond : secondHighlighted.snapshot.highlighted = some 1 := by
    rfl
  obtain rfl : i = 1 := Option.some.inj (hi.symm.trans hsecond)
  exact ⟨happends, hmarked, hs⟩

/-- Both suggestions were shown for "f", and "foo" is being looked up. -/
def longerTyped : Editor :=
  (Editor.new (Service.new (.fixed [fuel, food]) (.empty 300000 60000) .worker) 300 0).run
    [.release, .tick 0, .event (.inputChanged "f") 0, .tick 300, .release, .tick 300,
      .event (.inputChanged "foo") 310, .tick 610]

/-- While a longer input is looked up, the results for the shorter one are no longer
    drawn but still there: the key picks the first of them, which does not even
    match the input. -/
theorem picked_suggestion_not_selected :
    (longerTyped.handle .pickHighlighted 610).store.tokens
      = longerTyped.store.tokens ++ [⟨1, "Fuel", .tag, some fuel⟩]
    ∧ longerTyped.snapshot.loading = true
    ∧ ¬∃ i, (Screen.suggestionsPopup .midnight longerTyped.snapshot).selected = some i
        ∧ longerTyped.snapshot.suggestions[i]? = some fuel := by
  have hloading : longerTyped.snapshot.loading = true := by
    rfl
  refine ⟨by rfl, hloading, ?_⟩
  rintro ⟨i, hi, -⟩
  rw [(Screen.suggestionsPopup_of_loading .midnight hloading).1] at hi
  cases hi

end Editor

end TagCalc
