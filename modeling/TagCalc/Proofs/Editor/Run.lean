/-
  TagCalc.Proofs.Editor.Run

  Runs of the editor: events and ticks at any times, and what the surroundings of
  the lookups do in between.

  What a key does is said once (`handleKey_cases`), and so are the fields that an
  operation can change (`retag_frame` and its like) and what an event does to the
  formula (`handle_editBy`); an event leaves the service alone. A tick leaves alone all
  that lies on the desk (`desk_tick`) and makes the service move (`service_step`). So a
  run of the editor is a run of its service (`service_run`), and hands out what that
  run hands out (`handedOut_eq`).
-/

import TagCalc.Editor.Step
import TagCalc.Proofs.Formula.Build
import TagCalc.Proofs.Formula.Store
import TagCalc.Proofs.Lookup.Run

namespace TagCalc

namespace Editor

/-! ## Runs -/

/-- What can happen to the editor and to its lookups. -/
inductive Happening where
  | event (event : Event) (now : Nat)
  | tick (now : Nat)
  | release
  | die
  | replace (source : Source)

/-- The editor after something happened. -/
def step (e : Editor) : Happening → Editor
  | .event event now => e.handle event now
  | .tick now => e.tick now
  | .release => e.release
  | .die => { e with service := e.service.die }
  | .replace source => { e with service := e.service.withSource source }

/-- The editor after a run. -/
def run (e : Editor) (happenings : List Happening) : Editor := happenings.foldl step e

theorem run_append (e : Editor) (first second : List Happening) :
    e.run (first ++ second) = (e.run first).run second := List.foldl_append ..

/-- The results that the poll of a tick hands out. -/
def handsOut (e : Editor) : Happening → List Fetched
  | .tick now => (((e.fireDue now).refreshCatalog now).service.poll now).2
  | _ => []

/-- The results handed out in a run, in order. -/
def handedOut (e : Editor) (happenings : List Happening) : List Fetched :=
  trace step handsOut e happenings

/-! ## Keys -/

/-- A commit appends the typed text, if the key commits it and it may come next. -/
theorem commit?_eq (e : Editor) (k : EditKey) :
    e.commit? k =
      if commits k (classify (Text.trim e.input)) && e.store.accepts (classify (Text.trim e.input))
      then some { e with store := e.store.withText e.catalog e.input }.resetInput
      else none := rfl

theorem commit?_cases (e : Editor) (k : EditKey) :
    e.commit? k = none
    ∨ (commits k (classify (Text.trim e.input)) = true
        ∧ e.store.accepts (classify (Text.trim e.input)) = true
        ∧ e.commit? k
          = some { e with store := e.store.withText e.catalog e.input }.resetInput) := by
  rw [commit?_eq]
  split
  · rename_i hc
    rw [Bool.and_eq_true] at hc
    exact Or.inr ⟨hc.1, hc.2, rfl⟩
  · exact Or.inl rfl

/-- What a key does: nothing, an edit of the input, which for Backspace on a blank
    input comes after the removal of the last token, or a commit. -/
theorem handleKey_cases (e : Editor) (k : EditKey) (now : Nat) :
    (k = .enter ∧ e.handleKey k now = e)
    ∨ (k = .backspace ∧ (Text.trim e.input).isEmpty = true
        ∧ e.handleKey k now = e.removeLast.eraseCluster now)
    ∨ (k = .backspace ∧ (Text.trim e.input).isEmpty = false
        ∧ e.handleKey k now = e.eraseCluster now)
    ∨ (k = .space ∧ e.handleKey k now = e.typeChar ' ' now)
    ∨ ((Text.trim e.input).isEmpty = false
        ∧ commits k (classify (Text.trim e.input)) = true
        ∧ e.store.accepts (classify (Text.trim e.input)) = true
        ∧ e.handleKey k now
          = { e with store := e.store.withText e.catalog e.input }.resetInput) := by
  unfold handleKey
  by_cases hblank : (Text.trim e.input).isEmpty = true
  · rw [if_pos hblank]
    cases k with
    | backspace => exact Or.inr (Or.inl ⟨rfl, hblank, rfl⟩)
    | space => exact Or.inr (Or.inr (Or.inr (Or.inl ⟨rfl, rfl⟩)))
    | enter => exact Or.inl ⟨rfl, rfl⟩
  · rw [if_neg hblank]
    have hfilled : (Text.trim e.input).isEmpty = false := by simpa using hblank
    cases k with
    | backspace => exact Or.inr (Or.inr (Or.inl ⟨rfl, hfilled, rfl⟩))
    | enter =>
      dsimp only
      rcases e.commit?_cases .enter with heq | ⟨hcommits, haccepted, heq⟩
      · rw [heq, Option.getD_none]
        exact Or.inl ⟨rfl, rfl⟩
      · rw [heq, Option.getD_some]
        exact Or.inr (Or.inr (Or.inr (Or.inr ⟨hfilled, hcommits, haccepted, rfl⟩)))
    | space =>
      dsimp only
      rcases e.commit?_cases .space with heq | ⟨hcommits, haccepted, heq⟩
      · rw [heq, Option.getD_none]
        exact Or.inr (Or.inr (Or.inr (Or.inl ⟨rfl, rfl⟩)))
      · rw [heq, Option.getD_some]
        exact Or.inr (Or.inr (Or.inr (Or.inr ⟨hfilled, hcommits, haccepted, rfl⟩)))

/-! ## The desk -/

/-- The part of an editor that time leaves alone: all but the lookups and what they
    found. -/
structure Desk where
  mode : Mode
  store : Store
  input : String
  dropdownShown : Bool
  reselection : Option Reselection

/-- The desk of an editor. -/
def desk (e : Editor) : Desk := ⟨e.mode, e.store, e.input, e.dropdownShown, e.reselection⟩

theorem store_desk (e : Editor) : e.desk.store = e.store := rfl

theorem input_desk (e : Editor) : e.desk.input = e.input := rfl

theorem dropdownShown_desk (e : Editor) : e.desk.dropdownShown = e.dropdownShown := rfl

/-- A new input may open or close the dropdown, and leaves the rest on the desk alone. -/
theorem desk_setInput (e : Editor) (input : String) (now : Nat) :
    (e.setInput input now).desk
      = { e.desk with input := input, dropdownShown := opensDropdown input } := by
  unfold setInput inputEdited
  dsimp only
  split
  · dsimp only [desk]
  · split <;> dsimp only [desk]

/-! ## The fields that an operation can change

An operation keeps whatever is made of the other fields only. -/

theorem removeLast_frame (e : Editor) : e.removeLast = { e with store := e.removeLast.store } := by
  rw [removeLast]
  split <;> rfl

theorem retag_frame (e : Editor) (id : Nat) (name : String) :
    e.retag id name = { e with store := (e.retag id name).store } := by
  rw [retag]
  split
  · rfl
  · split
    · split <;> rfl
    · rfl

theorem beginReselect_frame (e : Editor) :
    e.beginReselect
      = { e with
          dropdownShown := e.beginReselect.dropdownShown
          mode := e.beginReselect.mode
          reselection := e.beginReselect.reselection } := by
  rw [beginReselect]
  split <;> rfl

theorem moveFocus_frame (e : Editor) (direction : Direction) :
    e.moveFocus direction
      = { e with
          mode := (e.moveFocus direction).mode
          reselection := (e.moveFocus direction).reselection } := by
  rw [moveFocus]
  split
  · rfl
  · split
    · rfl
    · split <;> rfl

theorem applyCandidate_frame (e : Editor) :
    e.applyCandidate
      = { e with
          store := e.applyCandidate.store
          mode := e.applyCandidate.mode
          reselection := e.applyCandidate.reselection } := by
  rw [applyCandidate]
  split
  · rename_i id name _
    rw [retag_frame]
    rfl
  · rfl

theorem refreshCatalog_frame (e : Editor) (now : Nat) :
    e.refreshCatalog now = { e with service := (e.refreshCatalog now).service } := by
  rw [refreshCatalog]
  split <;> rfl

/-- Taking in what was handed out changes what is suggested only. -/
theorem foldl_receive_frame (e : Editor) (results : List Fetched) :
    results.foldl receive e
      = { e with
          suggestions := (results.foldl receive e).suggestions
          highlighted := (results.foldl receive e).highlighted
          loading := (results.foldl receive e).loading } := by
  induction results generalizing e with
  | nil => rfl
  | cons f rest ih =>
    -- the other fields after the first result are those before it
    refine (ih (e.receive f)).trans ?_
    rw [List.foldl_cons, receive]
    split <;> rfl

/-! ## What leaves the formula and the service alone -/

@[simp] theorem service_inputEdited (e : Editor) (now : Nat) :
    (e.inputEdited now).service = e.service := by
  rw [inputEdited]
  dsimp only
  split
  · rfl
  · split <;> rfl

@[simp] theorem store_setInput (e : Editor) (input : String) (now : Nat) :
    (e.setInput input now).store = e.store := by
  rw [← store_desk, desk_setInput]
  rfl

@[simp] theorem service_setInput (e : Editor) (input : String) (now : Nat) :
    (e.setInput input now).service = e.service := by
  rw [setInput, service_inputEdited]

@[simp] theorem input_setInput (e : Editor) (input : String) (now : Nat) :
    (e.setInput input now).input = input := by
  rw [← input_desk, desk_setInput]

@[simp] theorem store_typeChar (e : Editor) (c : Char) (now : Nat) :
    (e.typeChar c now).store = e.store := by
  rw [typeChar, store_setInput]

@[simp] theorem service_typeChar (e : Editor) (c : Char) (now : Nat) :
    (e.typeChar c now).service = e.service := by
  rw [typeChar, service_setInput]

@[simp] theorem store_eraseCluster (e : Editor) (now : Nat) :
    (e.eraseCluster now).store = e.store := by
  rw [eraseCluster]
  split
  · rfl
  · rw [store_setInput]

@[simp] theorem service_eraseCluster (e : Editor) (now : Nat) :
    (e.eraseCluster now).service = e.service := by
  rw [eraseCluster]
  split
  · rfl
  · rw [service_setInput]

@[simp] theorem store_beginReselect (e : Editor) : e.beginReselect.store = e.store := by
  rw [beginReselect_frame]

@[simp] theorem service_beginReselect (e : Editor) : e.beginReselect.service = e.service := by
  rw [beginReselect_frame]

@[simp] theorem store_moveFocus (e : Editor) (direction : Direction) :
    (e.moveFocus direction).store = e.store := by
  rw [moveFocus_frame]

@[simp] theorem service_moveFocus (e : Editor) (direction : Direction) :
    (e.moveFocus direction).service = e.service := by
  rw [moveFocus_frame]

@[simp] theorem service_retag (e : Editor) (id : Nat) (name : String) :
    (e.retag id name).service = e.service := by
  rw [retag_frame]

@[simp] theorem service_applyCandidate (e : Editor) : e.applyCandidate.service = e.service := by
  rw [applyCandidate_frame]

@[simp] theorem service_pick (e : Editor) (s : Suggestion) : (e.pick s).service = e.service := by
  rw [pick]
  split <;> rfl

@[simp] theorem service_removeLast (e : Editor) : e.removeLast.service = e.service := by
  rw [removeLast_frame]

@[simp] theorem service_handleKey (e : Editor) (k : EditKey) (now : Nat) :
    (e.handleKey k now).service = e.service := by
  rcases e.handleKey_cases k now with
    ⟨-, heq⟩ | ⟨-, -, heq⟩ | ⟨-, -, heq⟩ | ⟨-, heq⟩ | ⟨-, -, -, heq⟩
  · rw [heq]
  · rw [heq, service_eraseCluster, service_removeLast]
  · rw [heq, service_eraseCluster]
  · rw [heq, service_typeChar]
  · rw [heq, resetInput]

/-- Events never touch the service. -/
@[simp] theorem service_handle (e : Editor) (event : Event) (now : Nat) :
    (e.handle event now).service = e.service := by
  cases event with
  | inputChanged text => exact service_setInput ..
  | typeChar c => exact service_typeChar ..
  | key k => exact service_handleKey ..
  | picked s => exact service_pick ..
  | pickHighlighted =>
    simp only [handle]
    split
    · exact service_pick ..
    · rfl
  | highlightNext => rfl
  | highlightPrevious => rfl
  | reselect id name => exact service_retag ..
  | beginReselect => exact service_beginReselect ..
  | focusNextTag => exact service_moveFocus ..
  | focusPreviousTag => exact service_moveFocus ..
  | candidateNext => rfl
  | candidatePrevious => rfl
  | applyCandidate => exact service_applyCandidate ..
  | cancel =>
    simp only [handle]
    split <;> rfl
  | clear => rfl
  | quit => rfl

/-! ## What an event does to the formula -/

/-- A pick appends the tag of its suggestion, or is refused. -/
theorem pick_cases (e : Editor) (s : Suggestion) :
    (e.pick s).store = e.store
    ∨ (e.store.accepts .tag = true
        ∧ (e.pick s).store = e.store.append s.name .tag (some s)) := by
  rw [pick]
  by_cases haccepts : e.store.accepts .tag = true
  · rw [if_pos haccepts]
    exact Or.inr ⟨haccepts, rfl⟩
  · rw [if_neg haccepts]
    exact Or.inl rfl

/-- Only a tag of the formula takes another name, and only one that is not empty. -/
theorem retag_cases (e : Editor) (id : Nat) (name : String) :
    (e.retag id name).store = e.store
    ∨ (name.isEmpty = false ∧ ∃ t, e.store.get? id = some t ∧ t.kind = .tag
        ∧ (e.retag id name).store
          = e.store.update id name (e.catalog.find? (·.name == name))) := by
  rw [retag]
  by_cases hname : name.isEmpty = true
  · rw [if_pos hname]
    exact Or.inl rfl
  · rw [if_neg hname]
    cases hget : e.store.get? id with
    | none => exact Or.inl rfl
    | some t =>
      simp only
      by_cases htag : t.kind = .tag
      · rw [if_pos htag]
        exact Or.inr ⟨eq_false_of_ne_true hname, t, rfl, htag, rfl⟩
      · rw [if_neg htag]
        exact Or.inl rfl

/-- What an event does to the formula of an editor, with what it enters there: the
    typed text, a suggestion, or another name for a tag. -/
inductive EditBy (e : Editor) : Event → Store → Prop where
  | same (event : Event) : EditBy e event e.store
  | typed (k : EditKey) (filled : (Text.trim e.input).isEmpty = false)
      (committed : commits k (classify (Text.trim e.input)) = true)
      (accepted : e.store.accepts (classify (Text.trim e.input)) = true) :
      EditBy e (.key k) (e.store.withText e.catalog e.input)
  | picked (s : Suggestion) (accepted : e.store.accepts .tag = true) :
      EditBy e (.picked s) (e.store.append s.name .tag (some s))
  | pickedHighlighted (s : Suggestion) (highlighted : e.highlightedSuggestion? = some s)
      (accepted : e.store.accepts .tag = true) :
      EditBy e .pickHighlighted (e.store.append s.name .tag (some s))
  | removeLast (blank : (Text.trim e.input).isEmpty = true) (t : Token)
      (last : e.store.last? = some t) : EditBy e (.key .backspace) (e.store.remove t.id)
  | retagged (id : Nat) (name : String) (named : name.isEmpty = false) (t : Token)
      (found : e.store.get? id = some t) (tag : t.kind = .tag) :
      EditBy e (.reselect id name) (e.store.update id name (e.catalog.find? (·.name == name)))
  | applied (id : Nat) (name : String) (chosen : e.chosen? = some (id, name))
      (named : name.isEmpty = false) (t : Token) (found : e.store.get? id = some t)
      (tag : t.kind = .tag) :
      EditBy e .applyCandidate (e.store.update id name (e.catalog.find? (·.name == name)))
  | clear : EditBy e .clear e.store.clear

theorem handleKey_editBy (e : Editor) (k : EditKey) (now : Nat) :
    EditBy e (.key k) (e.handleKey k now).store := by
  rcases e.handleKey_cases k now with
    ⟨-, heq⟩ | ⟨rfl, hblank, heq⟩ | ⟨-, -, heq⟩ | ⟨-, heq⟩ | ⟨hfilled, hcommits, haccepted, heq⟩
  · rw [heq]
    exact .same _
  · rw [heq, store_eraseCluster, removeLast]
    cases hlast : e.store.last? with
    | none => exact .same _
    | some t => exact .removeLast hblank t hlast
  · rw [heq, store_eraseCluster]
    exact .same _
  · rw [heq, store_typeChar]
    exact .same _
  · rw [heq]
    exact .typed k hfilled hcommits haccepted

theorem applyCandidate_editBy (e : Editor) :
    EditBy e .applyCandidate e.applyCandidate.store := by
  rw [applyCandidate]
  cases hchosen : e.chosen? with
  | none => exact .same _
  | some choice =>
    obtain ⟨id, name⟩ := choice
    show EditBy e .applyCandidate (e.retag id name).store
    rcases e.retag_cases id name with heq | ⟨hname, t, hget, htag, heq⟩
    · rw [heq]
      exact .same _
    · rw [heq]
      exact .applied id name hchosen hname t hget htag

/-- Every event is one of the edits to the formula. -/
theorem handle_editBy (e : Editor) (event : Event) (now : Nat) :
    EditBy e event (e.handle event now).store := by
  cases event with
  | inputChanged text =>
    simp only [handle, store_setInput]
    exact .same _
  | typeChar c =>
    simp only [handle, store_typeChar]
    exact .same _
  | key k => exact e.handleKey_editBy k now
  | picked s =>
    simp only [handle]
    rcases e.pick_cases s with heq | ⟨haccepted, heq⟩
    · rw [heq]
      exact .same _
    · rw [heq]
      exact .picked s haccepted
  | pickHighlighted =>
    simp only [handle]
    cases hhighlighted : e.highlightedSuggestion? with
    | none => exact .same _
    | some s =>
      simp only
      rcases e.pick_cases s with heq | ⟨haccepted, heq⟩
      · rw [heq]
        exact .same _
      · rw [heq]
        exact .pickedHighlighted s hhighlighted haccepted
  | highlightNext => exact .same _
  | highlightPrevious => exact .same _
  | reselect id name =>
    simp only [handle]
    rcases e.retag_cases id name with heq | ⟨hname, t, hget, htag, heq⟩
    · rw [heq]
      exact .same _
    · rw [heq]
      exact .retagged id name hname t hget htag
  | beginReselect =>
    simp only [handle, store_beginReselect]
    exact .same _
  | focusNextTag =>
    simp only [handle, store_moveFocus]
    exact .same _
  | focusPreviousTag =>
    simp only [handle, store_moveFocus]
    exact .same _
  | candidateNext => exact .same _
  | candidatePrevious => exact .same _
  | applyCandidate => exact e.applyCandidate_editBy
  | cancel =>
    simp only [handle]
    split <;> exact .same _
  | clear => exact .clear
  | quit => exact .same _

/-- An edit of the formula, whichever event it comes from. -/
inductive Edit (e : Editor) : Store → Prop where
  | same : Edit e e.store
  | typed (filled : (Text.trim e.input).isEmpty = false)
      (accepted : e.store.accepts (classify (Text.trim e.input)) = true) :
      Edit e (e.store.withText e.catalog e.input)
  | picked (s : Suggestion) (accepted : e.store.accepts .tag = true) :
      Edit e (e.store.append s.name .tag (some s))
  | removeLast (t : Token) (last : e.store.last? = some t) : Edit e (e.store.remove t.id)
  | retagged (id : Nat) (name : String) (named : name.isEmpty = false) (t : Token)
      (found : e.store.get? id = some t) (tag : t.kind = .tag) :
      Edit e (e.store.update id name (e.catalog.find? (·.name == name)))
  | clear : Edit e e.store.clear

theorem EditBy.edit {e : Editor} {event : Event} {s : Store} (h : EditBy e event s) :
    Edit e s := by
  cases h with
  | same event => exact .same
  | typed k filled committed accepted => exact .typed filled accepted
  | picked s accepted => exact .picked s accepted
  | pickedHighlighted s highlighted accepted => exact .picked s accepted
  | removeLast blank t last => exact .removeLast t last
  | retagged id name named t found tag => exact .retagged id name named t found tag
  | applied id name chosen named t found tag => exact .retagged id name named t found tag
  | clear => exact .clear

/-- An edit changes the formula in one of few ways. -/
theorem Edit.change {e : Editor} {s : Store} (h : Edit e s) : Store.Change e.store s := by
  cases h with
  | same => exact .same
  | typed filled accepted => exact .append _ _ _ accepted
  | picked s accepted => exact .append s.name .tag (some s) accepted
  | removeLast t last => exact .removeLast t last
  | retagged id name named t found tag => exact .update id name _ t found tag
  | clear => exact .clear

theorem handle_edit (e : Editor) (event : Event) (now : Nat) :
    Edit e (e.handle event now).store := (e.handle_editBy event now).edit

/-! ## What a tick does -/

@[simp] theorem desk_startLookup (e : Editor) (query : String) (now : Nat) :
    (e.startLookup query now).desk = e.desk := by
  rw [startLookup]
  dsimp only
  split <;> rfl

@[simp] theorem service_startLookup (e : Editor) (query : String) (now : Nat) :
    (e.startLookup query now).service = (e.service.request query now).1 := by
  rw [startLookup]
  dsimp only
  split <;> rfl

@[simp] theorem desk_fireDue (e : Editor) (now : Nat) : (e.fireDue now).desk = e.desk := by
  rw [fireDue]
  split
  · rfl
  · split
    · rw [desk_startLookup]
      rfl
    · rfl

@[simp] theorem desk_refreshCatalog (e : Editor) (now : Nat) :
    (e.refreshCatalog now).desk = e.desk := by
  rw [refreshCatalog_frame]
  rfl

@[simp] theorem desk_collect (e : Editor) (now : Nat) : (e.collect now).desk = e.desk := by
  rw [collect]
  dsimp only
  rw [foldl_receive_frame]
  rfl

@[simp] theorem service_collect (e : Editor) (now : Nat) :
    (e.collect now).service = (e.service.poll now).1 := by
  rw [collect]
  dsimp only
  rw [foldl_receive_frame]

/-- Time changes nothing but the lookups and what they found. -/
@[simp] theorem desk_tick (e : Editor) (now : Nat) : (e.tick now).desk = e.desk := by
  rw [tick, desk_collect, desk_refreshCatalog, desk_fireDue]

@[simp] theorem store_tick (e : Editor) (now : Nat) : (e.tick now).store = e.store :=
  congrArg Desk.store (e.desk_tick now)

/-- Time changes nothing that was typed. -/
@[simp] theorem input_tick (e : Editor) (now : Nat) : (e.tick now).input = e.input :=
  congrArg Desk.input (e.desk_tick now)

/-- Every step is one of the edits to the formula. -/
theorem step_edit (e : Editor) (h : Happening) : Edit e (e.step h).store := by
  cases h with
  | event event now => exact e.handle_edit event now
  | tick now =>
    simp only [step, store_tick]
    exact .same
  | release => exact .same
  | die => exact .same
  | replace source => exact .same

/-- Ids stay in order in every run. -/
theorem ordered_run {e : Editor} (h : e.store.Ordered) (happenings : List Happening) :
    (e.run happenings).store.Ordered := by
  induction happenings generalizing e with
  | nil => exact h
  | cons x rest ih => exact ih (h.change (e.step_edit x).change)

/-- No step takes an id back. -/
theorem issued_le_run (e : Editor) (happenings : List Happening) :
    e.store.issued ≤ (e.run happenings).store.issued := by
  induction happenings generalizing e with
  | nil => exact Nat.le_refl _
  | cons x rest ih => exact Nat.le_trans (e.step_edit x).change.issued_le (ih (e.step x))

/-! ## The moves of the service -/

/-- The lookup that comes due. -/
def fireMoves (e : Editor) (now : Nat) : List Service.Move :=
  match e.pending with
  | none => []
  | some (query, due) => if due ≤ now then [.request query now] else []

/-- The lookup of the full list, unless it is fresh or under way. -/
def refreshMoves (e : Editor) (now : Nat) : List Service.Move :=
  if (e.service.cached? fullList now).isNone && !e.service.isInFlight fullList then
    [.request fullList now]
  else
    []

/-- How the service moves when something happens. -/
def moves (e : Editor) : Happening → List Service.Move
  | .event _ _ => []
  | .tick now => e.fireMoves now ++ (e.fireDue now).refreshMoves now ++ [.poll now]
  | .release => [.release]
  | .die => [.die]
  | .replace source => [.replace source]

/-- How the service moves in a run. -/
def runMoves (e : Editor) (happenings : List Happening) : List Service.Move :=
  trace step moves e happenings

theorem service_fireDue (e : Editor) (now : Nat) :
    (e.fireDue now).service = e.service.run (e.fireMoves now) := by
  unfold fireDue fireMoves
  cases e.pending with
  | none => rfl
  | some p =>
    obtain ⟨query, due⟩ := p
    dsimp only
    split
    · rw [service_startLookup]
      rfl
    · rfl

theorem service_refreshCatalog (e : Editor) (now : Nat) :
    (e.refreshCatalog now).service = e.service.run (e.refreshMoves now) := by
  unfold refreshCatalog refreshMoves
  split <;> rfl

theorem service_beforePoll (e : Editor) (now : Nat) :
    ((e.fireDue now).refreshCatalog now).service
      = e.service.run (e.fireMoves now ++ (e.fireDue now).refreshMoves now) := by
  rw [service_refreshCatalog, service_fireDue, Service.run_append]

theorem service_step (e : Editor) (h : Happening) :
    (e.step h).service = e.service.run (e.moves h) := by
  cases h with
  | event event now => exact service_handle ..
  | tick now =>
    have hpoll : (e.tick now).service = (((e.service.run
        (e.fireMoves now ++ (e.fireDue now).refreshMoves now))).poll now).1 := by
      rw [tick, service_collect, service_beforePoll]
    show (e.tick now).service = e.service.run (_ ++ [.poll now])
    rw [hpoll, Service.run_append _ _ [.poll now]]
    rfl
  | release => rfl
  | die => rfl
  | replace source => rfl

/-- A run of the editor is a run of its service. -/
theorem service_run (e : Editor) (happenings : List Happening) :
    (e.run happenings).service = e.service.run (e.runMoves happenings) := by
  induction happenings generalizing e with
  | nil => rfl
  | cons h rest ih =>
    show ((e.step h).run rest).service = _
    rw [ih, service_step, ← Service.run_append]
    rfl

/-- Before it polls, a tick only asks. -/
theorem moves_beforePoll (e : Editor) (now : Nat) :
    ∀ m ∈ e.fireMoves now ++ (e.fireDue now).refreshMoves now,
      ∃ query now, m = .request query now := by
  intro m hm
  rcases List.mem_append.1 hm with hm | hm
  · unfold fireMoves at hm
    split at hm
    · cases hm
    · split at hm
      · exact ⟨_, _, List.mem_singleton.1 hm⟩
      · cases hm
  · unfold refreshMoves at hm
    split at hm
    · exact ⟨_, _, List.mem_singleton.1 hm⟩
    · cases hm

/-- Where a move of the service comes from: a tick asks and polls, and the rest is done
    by the surroundings. -/
theorem mem_moves {e : Editor} {h : Happening} {m : Service.Move} (hm : m ∈ e.moves h) :
    (∃ query now, m = .request query now)
    ∨ (∃ now, m = .poll now)
    ∨ (h = .release ∧ m = .release)
    ∨ (h = .die ∧ m = .die)
    ∨ ∃ source, h = .replace source ∧ m = .replace source := by
  cases h with
  | event event now => cases hm
  | tick now =>
    rcases List.mem_append.1 hm with hm | hm
    · exact Or.inl (e.moves_beforePoll now m hm)
    · exact Or.inr (Or.inl ⟨now, List.mem_singleton.1 hm⟩)
  | release => exact Or.inr (Or.inr (Or.inl ⟨rfl, List.mem_singleton.1 hm⟩))
  | die => exact Or.inr (Or.inr (Or.inr (Or.inl ⟨rfl, List.mem_singleton.1 hm⟩)))
  | replace source =>
    exact Or.inr (Or.inr (Or.inr (Or.inr ⟨source, rfl, List.mem_singleton.1 hm⟩)))

/-- Only a replaced source replaces it. -/
theorem eq_replace_of_mem_moves {e : Editor} {h : Happening} {other : Source}
    (hmem : .replace other ∈ e.moves h) : h = .replace other := by
  rcases mem_moves hmem with
    ⟨_, _, heq⟩ | ⟨_, heq⟩ | ⟨-, heq⟩ | ⟨-, heq⟩ | ⟨source, hreplace, heq⟩
  · cases heq
  · cases heq
  · cases heq
  · cases heq
  · cases heq
    exact hreplace

/-- A run replaces the source only where it is said to. -/
theorem replace_mem_of_mem_runMoves {e : Editor} {happenings : List Happening} {other : Source}
    (h : .replace other ∈ e.runMoves happenings) : .replace other ∈ happenings := by
  induction happenings generalizing e with
  | nil => cases h
  | cons x rest ih =>
    rcases List.mem_append.1 h with h | h
    · rw [eq_replace_of_mem_moves h]
      exact List.mem_cons_self ..
    · exact List.mem_cons_of_mem _ (ih h)

/-- The worker dies only where it is said to. -/
theorem eq_die_of_mem_moves {e : Editor} {h : Happening} (hmem : .die ∈ e.moves h) :
    h = .die := by
  rcases mem_moves hmem with
    ⟨_, _, heq⟩ | ⟨_, heq⟩ | ⟨-, heq⟩ | ⟨hdie, -⟩ | ⟨_, -, heq⟩
  · cases heq
  · cases heq
  · cases heq
  · exact hdie
  · cases heq

theorem handsOut_eq (e : Editor) (h : Happening) :
    e.handsOut h = e.service.handedOut (e.moves h) := by
  cases h with
  | tick now =>
    show (((e.fireDue now).refreshCatalog now).service.poll now).2
      = e.service.handedOut (_ ++ [.poll now])
    -- only the poll hands out, and it sees the service that the requests left
    rw [Service.handedOut_append, Service.handedOut_requests (e.moves_beforePoll now),
      service_beforePoll]
    exact (List.append_nil _).symm
  | event event now => rfl
  | release => rfl
  | die => rfl
  | replace source => rfl

/-- A run of the editor hands out what the run of its service hands out. -/
theorem handedOut_eq (e : Editor) (happenings : List Happening) :
    e.handedOut happenings = e.service.handedOut (e.runMoves happenings) := by
  induction happenings generalizing e with
  | nil => rfl
  | cons h rest ih =>
    show e.handsOut h ++ (e.step h).handedOut rest
      = e.service.handedOut (e.moves h ++ (e.step h).runMoves rest)
    rw [ih, Service.handedOut_append, handsOut_eq, service_step]

/-- How the service moves before the first step. -/
def startMoves (now : Nat) : List Service.Move := [.request fullList now, .poll now]

theorem service_new (service : Service) (debounce now : Nat) :
    (Editor.new service debounce now).service = service.run (startMoves now) := rfl

end Editor

end TagCalc
