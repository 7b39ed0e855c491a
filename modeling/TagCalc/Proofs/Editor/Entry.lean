/-
  TagCalc.Proofs.Editor.Entry

  Entering a token is all or nothing. Enter, Space over an operand, and the two picks
  enter a token when it may come next (`Enters`). Then the token is appended and the
  prompt is cleared (`handle_of_enters`). Otherwise nothing changes at all, and a Space
  is typed like any other character (`handle_space_of_not_enters`).
-/

import TagCalc.Proofs.Editor.Staleness

namespace TagCalc

namespace Editor

/-- Whether an event enters a token into the formula: the typed text with Enter, an
    operand with Space, or a suggestion. -/
def Enters (e : Editor) : Event → Prop
  | .key .enter => Text.trim e.input ≠ "" ∧ e.store.accepts (classify (Text.trim e.input)) = true
  | .key .space => classify (Text.trim e.input) = .operand ∧ e.store.accepts .operand = true
  | .picked _ => e.store.accepts .tag = true
  | .pickHighlighted => (∃ s, e.highlightedSuggestion? = some s) ∧ e.store.accepts .tag = true
  | _ => False

/-! ## What is accepted -/

theorem commits_space_iff {kind : Kind} : commits .space kind = true ↔ kind = .operand := by
  cases kind <;> decide

/-- An operand is not blank. -/
theorem trim_ne_empty_of_operand {input : String} (h : classify (Text.trim input) = .operand) :
    Text.trim input ≠ "" := by
  intro hblank
  rw [hblank] at h
  exact absurd h (by decide)

/-- The second editor is the first one with one more token, and with the prompt cleared. -/
def Took (e e' : Editor) : Prop :=
  ∃ s t, s.tokens = e.store.tokens ++ [t] ∧ e' = { e with store := s }.resetInput

theorem Took.prompt {e e' : Editor} (h : e.Took e') : e'.prompt = .cleared := by
  obtain ⟨s, t, -, rfl⟩ := h
  rfl

theorem Took.tokens {e e' : Editor} (h : e.Took e') :
    ∃ t, e'.store.tokens = e.store.tokens ++ [t] := by
  obtain ⟨s, t, htokens, rfl⟩ := h
  exact ⟨t, htokens⟩

theorem took_pick {e : Editor} (h : e.store.accepts .tag = true) (s : Suggestion) :
    e.Took (e.pick s) := by
  refine ⟨e.store.append s.name .tag (some s), _, Store.tokens_append .., ?_⟩
  rw [pick, if_pos h]

theorem took_handleKey {e : Editor} {k : EditKey} (hfilled : Text.trim e.input ≠ "")
    (hcommits : commits k (classify (Text.trim e.input)) = true)
    (haccepts : e.store.accepts (classify (Text.trim e.input)) = true) (now : Nat) :
    e.Took (e.handleKey k now) := by
  have hcommit : e.commit? k
      = some { e with store := e.store.withText e.catalog e.input }.resetInput := by
    rw [commit?_eq, hcommits, haccepts]
    rfl
  refine ⟨e.store.withText e.catalog e.input, _, Store.tokens_append .., ?_⟩
  unfold handleKey
  rw [if_neg (by simpa using hfilled)]
  cases k with
  | enter =>
    dsimp only
    rw [hcommit, Option.getD_some]
  | space =>
    dsimp only
    rw [hcommit, Option.getD_some]
  | backspace => cases hcommits

/-- Each event that enters a token takes it. -/
theorem handle_of_enters {e : Editor} {event : Event} (h : e.Enters event) (now : Nat) :
    e.Took (e.handle event now) := by
  cases event with
  | key k =>
    cases k with
    | enter =>
      have hcommits : commits .enter (classify (Text.trim e.input)) = true := rfl
      exact took_handleKey h.1 hcommits h.2 now
    | space =>
      obtain ⟨hoperand, haccepts⟩ := h
      have hcommits := commits_space_iff.2 hoperand
      rw [← hoperand] at haccepts
      exact took_handleKey (trim_ne_empty_of_operand hoperand) hcommits haccepts now
    | backspace => cases h
  | picked s => exact took_pick h s
  | pickHighlighted =>
    obtain ⟨⟨s, hs⟩, haccepts⟩ := h
    rw [handle, hs]
    exact took_pick haccepts s
  | _ => cases h

/-- Nothing else makes a formula longer. -/
theorem enters_of_longer {e : Editor} {event : Event} {now : Nat}
    (h : e.store.tokens.length < (e.handle event now).store.tokens.length) : e.Enters event := by
  have hedit := e.handle_editBy event now
  generalize (e.handle event now).store = after at hedit h
  cases hedit with
  | same => exact absurd h (Nat.lt_irrefl _)
  | typed k filled committed accepted =>
    have hfilled : Text.trim e.input ≠ "" := by simpa using filled
    cases k with
    | enter => exact ⟨hfilled, accepted⟩
    | space =>
      have hoperand := commits_space_iff.1 committed
      rw [hoperand] at accepted
      exact ⟨hoperand, accepted⟩
    | backspace => cases committed
  | picked s accepted => exact accepted
  | pickedHighlighted s highlighted accepted => exact ⟨⟨s, highlighted⟩, accepted⟩
  | removeLast blank t last =>
    rw [Store.tokens_remove] at h
    exact absurd h (Nat.not_lt.2 (List.length_filter_le _ _))
  | retagged id name named t found tag =>
    rw [Store.length_tokens_update] at h
    exact absurd h (Nat.lt_irrefl _)
  | applied id name chosen named t found tag =>
    rw [Store.length_tokens_update] at h
    exact absurd h (Nat.lt_irrefl _)
  | clear =>
    rw [Store.tokens_clear] at h
    cases h

/-! ## What is refused -/

theorem handle_enter_of_not_enters {e : Editor} (h : ¬e.Enters (.key .enter)) (now : Nat) :
    e.handle (.key .enter) now = e := by
  rcases e.handleKey_cases .enter now with
    ⟨-, heq⟩ | ⟨hk, -⟩ | ⟨hk, -⟩ | ⟨hk, -⟩ | ⟨hfilled, -, haccepts, -⟩
  · exact heq
  · cases hk
  · cases hk
  · cases hk
  · exact absurd ⟨by simpa using hfilled, haccepts⟩ h

/-- A Space that enters no operand is one more character of the input. -/
theorem handle_space_of_not_enters {e : Editor} (h : ¬e.Enters (.key .space)) (now : Nat) :
    e.handle (.key .space) now = e.handle (.typeChar ' ') now := by
  rcases e.handleKey_cases .space now with
    ⟨hk, -⟩ | ⟨hk, -⟩ | ⟨hk, -⟩ | ⟨-, heq⟩ | ⟨-, hcommits, haccepts, -⟩
  · cases hk
  · cases hk
  · cases hk
  · exact heq
  · have hoperand := commits_space_iff.1 hcommits
    rw [hoperand] at haccepts
    exact absurd ⟨hoperand, haccepts⟩ h

theorem pick_of_not_accepts {e : Editor} (h : e.store.accepts .tag = false) (s : Suggestion) :
    e.pick s = e := by
  rw [pick, h]
  rfl

theorem handle_pickHighlighted_of_not_enters {e : Editor} (h : ¬e.Enters .pickHighlighted)
    (now : Nat) : e.handle .pickHighlighted now = e := by
  rw [handle]
  cases hs : e.highlightedSuggestion? with
  | none => rfl
  | some s =>
    have haccepts : ¬e.store.accepts .tag = true := fun ha => h ⟨⟨s, hs⟩, ha⟩
    exact pick_of_not_accepts (eq_false_of_ne_true haccepts) s

/-- An event that does not enter its token leaves the whole editor as it was: Enter over a
    blank input or a text that may not come next, a pick where no tag may come next, and a
    pick of the highlighted suggestion when none is shown or highlighted. A Space that
    enters no operand is typed. A token is appended just by the events that enter one,
    and these leave the prompt cleared. -/
theorem refused_entry_leaves_no_trace (e : Editor) (now : Nat) :
    (Text.trim e.input = "" ∨ e.store.accepts (classify (Text.trim e.input)) = false →
      e.handle (.key .enter) now = e)
    ∧ (∀ s, e.store.accepts .tag = false → e.handle (.picked s) now = e)
    ∧ (e.store.accepts .tag = false ∨ e.dropdownShown = false ∨ e.highlighted = none →
      e.handle .pickHighlighted now = e)
    ∧ (¬(classify (Text.trim e.input) = .operand ∧ e.store.accepts .operand = true) →
      e.handle (.key .space) now = e.handle (.typeChar ' ') now)
    ∧ ∀ event,
        (e.Enters event ↔ e.store.tokens.length < (e.handle event now).store.tokens.length)
        ∧ (e.Enters event →
          (∃ t, (e.handle event now).store.tokens = e.store.tokens ++ [t])
          ∧ (e.handle event now).prompt = .cleared) := by
  refine ⟨?_, ?_, ?_, fun h => handle_space_of_not_enters h now, ?_⟩
  · intro h
    apply handle_enter_of_not_enters
    rintro ⟨hfilled, haccepts⟩
    rcases h with hblank | hrefused
    · exact hfilled hblank
    · exact ne_true_of_eq_false hrefused haccepts
  · intro s h
    exact pick_of_not_accepts h s
  · intro h
    apply handle_pickHighlighted_of_not_enters
    rintro ⟨⟨s, hs⟩, haccepts⟩
    rw [highlightedSuggestion?] at hs
    rcases h with hrefused | hhidden | hnone
    · exact ne_true_of_eq_false hrefused haccepts
    · rw [hhidden] at hs
      cases hs
    · rw [hnone] at hs
      split at hs <;> cases hs
  · intro event
    refine ⟨⟨?_, enters_of_longer⟩, ?_⟩
    · intro h
      obtain ⟨t, htokens⟩ := (handle_of_enters h now).tokens
      rw [htokens, List.length_append]
      exact Nat.lt_succ_self _
    · intro h
      exact ⟨(handle_of_enters h now).tokens, (handle_of_enters h now).prompt⟩

def diesel : Suggestion := ⟨"1", "Diesel", "transport", .text "95"⟩

/-- An operator is typed where a value has to come. -/
def plusFirst : Editor :=
  (Editor.new (Service.new (.fixed [diesel]) (.empty 1000 100) .inline) 300 0).run
    [.event (.inputChanged "+") 0]

/-- The operator is refused and stays in the input, while a tag can be picked. -/
theorem refused_entry_leaves_no_trace_plus :
    plusFirst.input = "+"
    ∧ plusFirst.handle (.key .enter) 10 = plusFirst
    ∧ plusFirst.handle (.key .space) 10 = plusFirst.handle (.typeChar ' ') 10
    ∧ (plusFirst.handle (.picked diesel) 10).prompt = .cleared := by
  have hrefused : plusFirst.store.accepts (classify (Text.trim plusFirst.input)) = false := by
    rfl
  have hoperand : plusFirst.store.accepts .operand = false := by
    rfl
  have htag : plusFirst.Enters (.picked diesel) := by
    rfl
  obtain ⟨henter, -, -, hspace, hentered⟩ := refused_entry_leaves_no_trace plusFirst 10
  refine ⟨by rfl, henter (Or.inr hrefused), hspace ?_, ((hentered (.picked diesel)).2 htag).2⟩
  rintro ⟨-, haccepts⟩
  exact ne_true_of_eq_false hoperand haccepts

end Editor

end TagCalc
