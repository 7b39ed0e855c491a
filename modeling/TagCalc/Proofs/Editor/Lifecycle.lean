/-
  TagCalc.Proofs.Editor.Lifecycle

  How tokens come and go. Of what an event can do to the formula (`handle_editBy`) this
  says what becomes of the tokens, by their places: one is appended, the last one goes,
  a tag changes where it stands, or all go (`handle_lifecycle`). An appended token has
  an id that no token had at any time before (`id_lt_freshId`).
-/

import TagCalc.Proofs.Editor.Run

namespace TagCalc

/-! ## Causes -/

/-- The events that may append a token: Enter, Space over an operand, and a pick. -/
def Editor.MayAppend (e : Editor) : Event → Prop
  | .key .enter => True
  | .key .space => classify (Text.trim e.input) = .operand
  | .picked _ => True
  | .pickHighlighted => True
  | _ => False

/-- The events that may give a tag another name. -/
def Event.MayRetag : Event → Prop
  | .reselect _ _ => True
  | .applyCandidate => True
  | _ => False

namespace Editor

/-- What an event may make of the tokens of a formula. -/
inductive Lifecycle (e : Editor) (event : Event) : List Token → Prop where
  | unchanged : Lifecycle e event e.store.tokens
  | appended (t : Token) (fresh : t.id = e.store.freshId) (cause : e.MayAppend event) :
      Lifecycle e event (e.store.tokens ++ [t])
  | lastRemoved (cause : event = .key .backspace) (blank : Text.trim e.input = "") :
      Lifecycle e event e.store.tokens.dropLast
  | retagged (k : Nat) (t : Token) (value : String) (suggestion : Option Suggestion)
      (place : e.store.tokens[k]? = some t) (tag : t.kind = .tag) (cause : event.MayRetag) :
      Lifecycle e event (e.store.tokens.set k { t with value := value, suggestion := suggestion })
  | cleared (cause : event = .clear) : Lifecycle e event []

/-! ## One event -/

/-- A key that commits the typed text is Enter, or Space over an operand. -/
theorem mayAppend_of_commits {e : Editor} {k : EditKey}
    (h : commits k (classify (Text.trim e.input)) = true) : e.MayAppend (.key k) := by
  cases k with
  | enter => exact trivial
  | space =>
    have hoperand : (classify (Text.trim e.input) == .operand) = true := h
    exact eq_of_beq hoperand
  | backspace => cases h

/-- The tag of an id changes where it stands. -/
theorem lifecycle_update {e : Editor} (hord : e.store.Ordered) {event : Event}
    (cause : event.MayRetag) {id : Nat} {t : Token} (found : e.store.get? id = some t)
    (tag : t.kind = .tag) (value : String) (suggestion : Option Suggestion) :
    Lifecycle e event (e.store.update id value suggestion).tokens := by
  obtain ⟨k, hk, rfl⟩ := Store.index_of_get? found
  rw [hord.tokens_update hk, Store.retag, Store.carried, if_pos tag]
  exact .retagged k t value suggestion hk tag cause

theorem handle_lifecycle {e : Editor} (hord : e.store.Ordered) (event : Event) (now : Nat) :
    Lifecycle e event (e.handle event now).store.tokens := by
  have hedit := e.handle_editBy event now
  generalize (e.handle event now).store = after at hedit
  cases hedit with
  | same => exact .unchanged
  | typed k filled committed accepted =>
    exact .appended _ rfl (mayAppend_of_commits committed)
  | picked s accepted => exact .appended _ rfl trivial
  | pickedHighlighted s highlighted accepted => exact .appended _ rfl trivial
  | removeLast blank t last =>
    rw [Store.tokens_remove_last hord last]
    exact .lastRemoved rfl (by simpa using blank)
  | retagged id name named t found tag =>
    have cause : Event.MayRetag (.reselect id name) := trivial
    exact lifecycle_update hord cause found tag name _
  | applied id name chosen named t found tag =>
    have cause : Event.MayRetag .applyCandidate := trivial
    exact lifecycle_update hord cause found tag name _
  | clear =>
    rw [Store.tokens_clear]
    exact .cleared rfl

/-! ## Fresh ids -/

/-- The next id is above that of every token that is or ever was in the formula. -/
theorem id_lt_freshId {e : Editor} (hord : e.store.Ordered) (happenings : List Happening)
    (i : Nat) {u : Token} (hu : u ∈ (e.run (happenings.take i)).store.tokens) :
    u.id < (e.run happenings).store.freshId := by
  have hbefore : u.id ≤ (e.run (happenings.take i)).store.issued :=
    (ordered_run hord _).le_issued u.id (List.mem_map_of_mem hu)
  -- the run goes on from there, and no step takes an id back
  have hafter := (e.run (happenings.take i)).issued_le_run (happenings.drop i)
  rw [← run_append, List.take_append_drop] at hafter
  exact Nat.lt_succ_of_le (Nat.le_trans hbefore hafter)

/-- In every run, an event leaves the formula as it is, appends a token whose id no token
    ever had, removes the last token, changes the name and the suggestion of one tag in
    its place, or removes all tokens, each for its own causes only. The revision counts
    at most one for an event, and nothing changes without being counted. Time changes
    neither. -/
theorem event_makes_one_change (service : Service) (debounce start : Nat)
    (happenings : List Happening) (event : Event) (now : Nat) :
    let first := Editor.new service debounce start
    let e := first.run happenings
    let after := e.handle event now
    Lifecycle e event after.store.tokens
    ∧ (∀ i, ∀ u ∈ (first.run (happenings.take i)).store.tokens, u.id < e.store.freshId)
    ∧ (after.store.revision = e.store.revision ∨ after.store.revision = e.store.revision + 1)
    ∧ (after.store.revision = e.store.revision → after.store.tokens = e.store.tokens)
    ∧ (e.tick now).store.tokens = e.store.tokens
    ∧ (e.tick now).store.revision = e.store.revision := by
  intro first e after
  have hfirst : first.store.Ordered := .empty
  have hcounts : e.store.Counts after.store := (e.handle_edit event now).change.counts
  refine ⟨handle_lifecycle (ordered_run hfirst happenings) event now, ?_, ?_, ?_, ?_, ?_⟩
  · intro i u hu
    exact id_lt_freshId hfirst happenings i hu
  · rcases hcounts with hsame | hone
    · exact Or.inl (congrArg Store.revision hsame)
    · exact Or.inr hone
  · intro hsame
    exact congrArg Store.tokens (hcounts.eq_of_revision_eq hsame)
  · rw [store_tick]
  · rw [store_tick]

end Editor

end TagCalc
