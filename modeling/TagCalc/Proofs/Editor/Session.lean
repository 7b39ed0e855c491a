/-
  TagCalc.Proofs.Editor.Session

  Sessions at the keyboard: keys, and what happens by itself between them. Events at
  will could remove the tag that is being resolved, or start resolving after the end.
  Keys cannot, since the mode decides which events they stand for. An event keeps the
  modes apart as long as it hides the dropdown and leaves the tags alone whenever it
  leaves a tag being resolved (`ModeSafe.refocus`), and every event that a key stands
  for does (`opensQuietly_of_event?`).
-/

import TagCalc.Proofs.Editor.Reselection

namespace TagCalc

/-! ## Bindings -/

/-- Clearing the formula: the press of Ctrl-L. -/
def KeyStroke.IsClear (k : KeyStroke) : Prop :=
  k.phase = .press ∧ k.control = true ∧ k.code = .char 'l'

theorem KeyCode.controlEvent?_cases {code : KeyCode} {event : Event}
    (h : code.controlEvent? = some event) :
    event = .quit ∨ (event = .clear ∧ code = .char 'l') := by
  unfold controlEvent? at h
  split at h
  · exact Or.inl (Option.some.inj h).symm
  · exact Or.inl (Option.some.inj h).symm
  · exact Or.inr ⟨(Option.some.inj h).symm, rfl⟩
  · cases h

/-- The events that keys stand for while editing. -/
inductive Event.Edits : Event → Prop where
  | key (k : EditKey) : Edits (.key k)
  | typeChar (c : Char) : Edits (.typeChar c)
  | highlightNext : Edits .highlightNext
  | highlightPrevious : Edits .highlightPrevious
  | pickHighlighted : Edits .pickHighlighted
  | beginReselect : Edits .beginReselect
  | cancel : Edits .cancel

/-- The events that keys stand for while a tag is being resolved. -/
inductive Event.Resolves : Event → Prop where
  | focusPreviousTag : Resolves .focusPreviousTag
  | focusNextTag : Resolves .focusNextTag
  | candidateNext : Resolves .candidateNext
  | candidatePrevious : Resolves .candidatePrevious
  | applyCandidate : Resolves .applyCandidate
  | cancel : Resolves .cancel

theorem KeyCode.edits_of_editingEvent? {code : KeyCode} {event : Event}
    (h : code.editingEvent? = some event) : event.Edits := by
  cases code with
  | enter =>
    cases Option.some.inj h
    exact .key .enter
  | backspace =>
    cases Option.some.inj h
    exact .key .backspace
  | char c =>
    have htyped : some (if c = ' ' then .key .space else .typeChar c) = some event := h
    by_cases hblank : c = ' '
    · rw [if_pos hblank] at htyped
      cases Option.some.inj htyped
      exact .key .space
    · rw [if_neg hblank] at htyped
      cases Option.some.inj htyped
      exact .typeChar c
  | down =>
    cases Option.some.inj h
    exact .highlightNext
  | up =>
    cases Option.some.inj h
    exact .highlightPrevious
  | tab =>
    cases Option.some.inj h
    exact .pickHighlighted
  | left =>
    cases Option.some.inj h
    exact .beginReselect
  | escape =>
    cases Option.some.inj h
    exact .cancel
  | delete | backTab | right | home | function n | other name => cases h

theorem KeyCode.resolves_of_reselectingEvent? {code : KeyCode} {event : Event}
    (h : code.reselectingEvent? = some event) : event.Resolves := by
  cases code with
  | left =>
    cases Option.some.inj h
    exact .focusPreviousTag
  | right =>
    cases Option.some.inj h
    exact .focusNextTag
  | down =>
    cases Option.some.inj h
    exact .candidateNext
  | up =>
    cases Option.some.inj h
    exact .candidatePrevious
  | enter =>
    cases Option.some.inj h
    exact .applyCandidate
  | escape =>
    cases Option.some.inj h
    exact .cancel
  | backspace | delete | tab | backTab | home | function n | char c | other name => cases h

/-- A key that stands for an event is a shortcut to quit or to clear, or belongs to the
    mode. -/
theorem KeyStroke.event?_cases {k : KeyStroke} {mode : Mode} {event : Event}
    (h : k.event? mode = some event) :
    event = .quit
    ∨ (event = .clear ∧ k.IsClear)
    ∨ (mode = .editing ∧ event.Edits)
    ∨ (mode = .reselecting ∧ event.Resolves) := by
  unfold event? at h
  by_cases hup : (k.phase != .press) = true
  · rw [if_pos hup] at h
    cases h
  · rw [if_neg hup] at h
    have hpress : k.phase = .press := by simpa using hup
    by_cases hcontrol : k.control = true
    · rw [if_pos hcontrol] at h
      rcases KeyCode.controlEvent?_cases h with hquit | ⟨hclear, hcode⟩
      · exact Or.inl hquit
      · exact Or.inr (Or.inl ⟨hclear, hpress, hcontrol, hcode⟩)
    · rw [if_neg hcontrol] at h
      cases mode with
      | editing => exact Or.inr (Or.inr (Or.inl ⟨rfl, KeyCode.edits_of_editingEvent? h⟩))
      | reselecting =>
        exact Or.inr (Or.inr (Or.inr ⟨rfl, KeyCode.resolves_of_reselectingEvent? h⟩))
      | quit => cases h

namespace Editor

/-! ## Sessions -/

/-- What can happen in a session: a key, or something that needs nobody at the
    keyboard. -/
inductive Occurrence where
  | stroke (k : KeyStroke) (now : Nat)
  | tick (now : Nat)
  | release
  | die
  | replace (source : Source)

/-- The editor after a key: it reacts to the event that the key stands for in its
    mode, if there is one. -/
def press (e : Editor) (k : KeyStroke) (now : Nat) : Editor :=
  match k.event? e.mode with
  | some event => e.handle event now
  | none => e

/-- The editor after something occurred. -/
def occur (e : Editor) : Occurrence → Editor
  | .stroke k now => e.press k now
  | .tick now => e.tick now
  | .release => e.release
  | .die => { e with service := e.service.die }
  | .replace source => { e with service := e.service.withSource source }

/-- The editor after a session. -/
def session (e : Editor) (occurrences : List Occurrence) : Editor := occurrences.foldl occur e

/-! ## Modes -/

/-- The modes are kept apart: while editing no tag is being resolved, and while
    resolving it is a tag of the formula, with the dropdown out of the way. -/
structure ModeSafe (e : Editor) : Prop where
  editing : e.mode = .editing → e.reselection = none
  reselecting : e.mode = .reselecting →
    e.dropdownShown = false ∧ ∃ r, e.reselection = some r ∧ r.tokenId ∈ e.tagIds

/-- An editor that goes on resolving a tag hides the dropdown, and has the tags of the
    one before. -/
structure OpensQuietly (e e' : Editor) : Prop where
  hidden : e'.mode = .reselecting → e'.dropdownShown = false
  tags : e'.mode = .reselecting → e'.tagIds = e.tagIds

theorem OpensQuietly.of_mode_ne {e e' : Editor} (h : e'.mode ≠ .reselecting) :
    OpensQuietly e e' := ⟨fun hmode => absurd hmode h, fun hmode => absurd hmode h⟩

theorem ModeSafe.new (service : Service) (debounce start : Nat) :
    (Editor.new service debounce start).ModeSafe := by
  refine ⟨fun _ => rfl, ?_⟩
  intro hmode
  cases hmode

theorem mode_left_ne (e : Editor) : e.left.1 ≠ .reselecting := by
  show (if e.mode = .reselecting then Mode.editing else e.mode) ≠ .reselecting
  by_cases hmode : e.mode = .reselecting
  · rw [if_pos hmode]
    decide
  · rw [if_neg hmode]
    exact hmode

/-- Whatever becomes of the tag being resolved, the modes stay apart. -/
theorem ModeSafe.refocus {e e' : Editor} (h : e.ModeSafe) (hfocus : Refocus e e'.resolving)
    (hquiet : OpensQuietly e e') : e'.ModeSafe := by
  have hmode : e'.mode = e'.resolving.1 := rfl
  have hopen : e'.reselection = e'.resolving.2 := rfl
  obtain ⟨hhidden, htags⟩ := hquiet
  -- from here on the new mode and the new tag are known by these two equations only
  generalize e'.resolving = resolving at hfocus hmode hopen
  cases hfocus with
  | same =>
    refine ⟨?_, ?_⟩
    · intro hediting
      rw [hopen]
      exact h.editing (hmode.symm.trans hediting)
    · intro hreselecting
      obtain ⟨-, r, hr, hmem⟩ := h.reselecting (hmode.symm.trans hreselecting)
      refine ⟨hhidden hreselecting, r, hopen.trans hr, ?_⟩
      rw [htags hreselecting]
      exact hmem
  | leave =>
    refine ⟨fun _ => hopen, ?_⟩
    intro hreselecting
    exact absurd (hmode.symm.trans hreselecting) e.mode_left_ne
  | focus id tag =>
    -- the tag was one of the formula before, and the formula has the same tags still
    refine ⟨?_, ?_⟩
    · intro hediting
      cases hmode.symm.trans hediting
    · intro hreselecting
      refine ⟨hhidden hreselecting, _, hopen, ?_⟩
      rw [htags hreselecting]
      exact tag
  | candidate r direction opened =>
    refine ⟨?_, ?_⟩
    · -- while editing there is no tag whose candidate could change
      intro hediting
      have hnone := h.editing (hmode.symm.trans hediting)
      rw [opened] at hnone
      cases hnone
    · intro hreselecting
      obtain ⟨-, old, hold, hmem⟩ := h.reselecting (hmode.symm.trans hreselecting)
      rw [opened] at hold
      cases Option.some.inj hold
      refine ⟨hhidden hreselecting, _, hopen, ?_⟩
      rw [htags hreselecting]
      exact hmem
  | quit =>
    refine ⟨?_, ?_⟩
    · intro hediting
      cases hmode.symm.trans hediting
    · intro hreselecting
      cases hmode.symm.trans hreselecting

/-! ## What resolving leaves alone -/

/-- The part of an editor that resolving a tag leaves alone: the input, the dropdown,
    and the ids of the tokens. -/
def aside (e : Editor) : String × Bool × List Nat := (e.input, e.dropdownShown, e.store.ids)

@[simp] theorem aside_endReselect (e : Editor) : e.endReselect.aside = e.aside := rfl

@[simp] theorem aside_moveCandidate (e : Editor) (direction : Direction) :
    (e.moveCandidate direction).aside = e.aside := rfl

@[simp] theorem aside_moveFocus (e : Editor) (direction : Direction) :
    (e.moveFocus direction).aside = e.aside := by
  rw [moveFocus_frame]
  rfl

@[simp] theorem aside_retag (e : Editor) (id : Nat) (name : String) :
    (e.retag id name).aside = e.aside := by
  rw [retag]
  split
  · rfl
  · split
    · split
      · -- the tag has another name, but its id stays
        rw [aside, Store.ids_update]
        rfl
      · rfl
    · rfl

@[simp] theorem aside_applyCandidate (e : Editor) : e.applyCandidate.aside = e.aside := by
  rw [applyCandidate]
  split
  · rw [aside_endReselect, aside_retag]
  · rfl

/-- No key of the mode for resolving touches the rest. -/
theorem aside_handle_of_resolves {e : Editor} (hmode : e.mode = .reselecting) {event : Event}
    (h : event.Resolves) (now : Nat) : (e.handle event now).aside = e.aside := by
  cases h with
  | focusPreviousTag => exact aside_moveFocus ..
  | focusNextTag => exact aside_moveFocus ..
  | candidateNext => exact aside_moveCandidate ..
  | candidatePrevious => exact aside_moveCandidate ..
  | applyCandidate => exact aside_applyCandidate ..
  | cancel =>
    simp only [handle]
    rw [if_pos hmode, aside_endReselect]

/-! ## Keys keep the modes apart -/

theorem opensQuietly_beginReselect {e : Editor} (hmode : e.mode = .editing) :
    OpensQuietly e e.beginReselect := by
  rw [beginReselect]
  split
  · exact ⟨fun _ => rfl, fun _ => rfl⟩
  · apply OpensQuietly.of_mode_ne
    rw [hmode]
    decide

/-- While editing, Left alone starts resolving, and hides the dropdown first. -/
theorem opensQuietly_handle_of_edits {e : Editor} (hmode : e.mode = .editing) {event : Event}
    (h : event.Edits) (now : Nat) : OpensQuietly e (e.handle event now) := by
  -- an event that leaves the mode alone goes on editing
  have hstays : ∀ after : Editor, after.resolving = e.resolving → OpensQuietly e after := by
    intro after hsame
    apply OpensQuietly.of_mode_ne
    have hafter : after.mode = .editing := (congrArg Prod.fst hsame).trans hmode
    rw [hafter]
    decide
  cases h with
  | key k => exact hstays _ (e.resolving_handleKey k now)
  | typeChar c => exact hstays _ (e.resolving_typeChar c now)
  | highlightNext => exact hstays _ rfl
  | highlightPrevious => exact hstays _ rfl
  | pickHighlighted =>
    simp only [handle]
    split
    · exact hstays _ (e.resolving_pick _)
    · exact hstays _ rfl
  | beginReselect => exact opensQuietly_beginReselect hmode
  | cancel =>
    simp only [handle]
    rw [if_neg (by rw [hmode]; decide)]
    exact hstays _ rfl

/-- While resolving, the keys that go on resolving change no token at all. -/
theorem tagIds_handle_of_resolves {e : Editor} {event : Event} (h : event.Resolves) (now : Nat)
    (hopen : (e.handle event now).mode = .reselecting) :
    (e.handle event now).tagIds = e.tagIds := by
  have hstore : (e.handle event now).store = e.store := by
    cases h with
    | focusPreviousTag => exact store_moveFocus ..
    | focusNextTag => exact store_moveFocus ..
    | candidateNext => rfl
    | candidatePrevious => rfl
    | applyCandidate =>
      -- a candidate that is applied ends the resolving
      have hleft : (e.handle .applyCandidate now).mode = e.left.1 :=
        congrArg Prod.fst e.resolving_applyCandidate
      exact absurd (hleft.symm.trans hopen) e.mode_left_ne
    | cancel =>
      simp only [handle]
      split <;> rfl
  rw [tagIds, hstore, tagIds]

theorem opensQuietly_of_event? {e : Editor} (h : e.ModeSafe) {k : KeyStroke} {event : Event}
    (hevent : k.event? e.mode = some event) (now : Nat) :
    OpensQuietly e (e.handle event now) := by
  rcases KeyStroke.event?_cases hevent with
    rfl | ⟨rfl, -⟩ | ⟨hmode, hedits⟩ | ⟨hmode, hresolves⟩
  -- the shortcuts end the resolving, so there is nothing to keep
  · exact .of_mode_ne Mode.noConfusion
  · exact .of_mode_ne e.mode_left_ne
  · exact opensQuietly_handle_of_edits hmode hedits now
  · refine ⟨?_, tagIds_handle_of_resolves hresolves now⟩
    intro _
    have haside := aside_handle_of_resolves hmode hresolves now
    have hshown : (e.handle event now).dropdownShown = e.dropdownShown :=
      congrArg (fun a => a.2.1) haside
    rw [hshown]
    exact (h.reselecting hmode).1

theorem ModeSafe.press {e : Editor} (h : e.ModeSafe) (k : KeyStroke) (now : Nat) :
    (e.press k now).ModeSafe := by
  rw [Editor.press]
  cases hevent : k.event? e.mode with
  | none => exact h
  | some event =>
    exact h.refocus (e.handle_refocus event now) (opensQuietly_of_event? h hevent now)

/-- Time passes by all of it. -/
theorem ModeSafe.of_desk {e e' : Editor} (h : e.ModeSafe) (hdesk : e'.desk = e.desk) :
    e'.ModeSafe := by
  have hmode : e'.mode = e.mode := congrArg Desk.mode hdesk
  have hopen : e'.reselection = e.reselection := congrArg Desk.reselection hdesk
  have hshown : e'.dropdownShown = e.dropdownShown := congrArg Desk.dropdownShown hdesk
  have hstore : e'.store = e.store := congrArg Desk.store hdesk
  have htags : e'.tagIds = e.tagIds := by rw [tagIds, hstore, tagIds]
  refine ⟨?_, ?_⟩
  · rw [hmode, hopen]
    exact h.editing
  · rw [hmode, hopen, hshown, htags]
    exact h.reselecting

theorem ModeSafe.occur {e : Editor} (h : e.ModeSafe) (x : Occurrence) : (e.occur x).ModeSafe := by
  cases x with
  | stroke k now => exact h.press k now
  | tick now => exact h.of_desk (e.desk_tick now)
  | release => exact h.of_desk rfl
  | die => exact h.of_desk rfl
  | replace source => exact h.of_desk rfl

theorem ModeSafe.session {e : Editor} (h : e.ModeSafe) (occurrences : List Occurrence) :
    (e.session occurrences).ModeSafe := by
  induction occurrences generalizing e with
  | nil => exact h
  | cons x rest ih => exact ih (h.occur x)

/-! ## The end -/

/-- After the end only the shortcuts do anything, and neither of them goes back. -/
theorem mode_occur_of_quit {e : Editor} (h : e.mode = .quit) (x : Occurrence) :
    (e.occur x).mode = .quit := by
  cases x with
  | stroke k now =>
    rw [occur, press]
    cases hevent : k.event? e.mode with
    | none => exact h
    | some event =>
      rcases KeyStroke.event?_cases hevent with rfl | ⟨rfl, -⟩ | ⟨hmode, -⟩ | ⟨hmode, -⟩
      · rfl
      · show (if e.mode = .reselecting then Mode.editing else e.mode) = .quit
        rw [h]
        rfl
      · cases hmode.symm.trans h
      · cases hmode.symm.trans h
  | tick now => exact (congrArg Desk.mode (e.desk_tick now)).trans h
  | release => exact h
  | die => exact h
  | replace source => exact h

theorem mode_session_of_quit {e : Editor} (h : e.mode = .quit) (occurrences : List Occurrence) :
    (e.session occurrences).mode = .quit := by
  induction occurrences generalizing e with
  | nil => exact h
  | cons x rest ih => exact ih (mode_occur_of_quit h x)

/-! ## Keys while resolving -/

/-- While a tag is being resolved, no key changes what was typed, and none but the one
    that clears the formula adds or removes a token. -/
theorem press_of_reselecting {e : Editor} (hmode : e.mode = .reselecting) (k : KeyStroke)
    (now : Nat) :
    (e.press k now).input = e.input ∧ (¬k.IsClear → (e.press k now).store.ids = e.store.ids) := by
  rw [press]
  cases hevent : k.event? e.mode with
  | none => exact ⟨rfl, fun _ => rfl⟩
  | some event =>
    rcases KeyStroke.event?_cases hevent with
      rfl | ⟨rfl, hclear⟩ | ⟨hediting, -⟩ | ⟨-, hresolves⟩
    · exact ⟨rfl, fun _ => rfl⟩
    · exact ⟨rfl, fun hother => absurd hclear hother⟩
    · cases hediting.symm.trans hmode
    · have haside := aside_handle_of_resolves hmode hresolves now
      exact ⟨congrArg Prod.fst haside, fun _ => congrArg (fun a => a.2.2) haside⟩

theorem mem_tagIds {e : Editor} {id : Nat} :
    id ∈ e.tagIds ↔ ∃ t ∈ e.store.tokens, t.id = id ∧ t.kind = .tag := by
  simp only [tagIds, List.mem_map, List.mem_filter, beq_iff_eq]
  constructor
  · rintro ⟨t, ⟨hmem, htag⟩, hid⟩
    exact ⟨t, hmem, hid, htag⟩
  · rintro ⟨t, hmem, hid, htag⟩
    exact ⟨t, ⟨hmem, htag⟩, hid⟩

/-- At every moment of a session at the keyboard: while editing, no tag is being
    resolved; while resolving, the dropdown is hidden, the tag being resolved is in the
    formula, no key changes the input, and only Ctrl-L removes tokens or adds any; and
    after the end, nothing brings the editor back. -/
theorem keyboard_keeps_modes_apart (service : Service) (debounce start : Nat)
    (occurrences : List Occurrence) :
    let e := (Editor.new service debounce start).session occurrences
    (e.mode = .editing → e.reselection = none)
    ∧ (e.mode = .reselecting → e.dropdownShown = false
        ∧ ∃ r, e.reselection = some r
          ∧ ∃ t ∈ e.store.tokens, t.id = r.tokenId ∧ t.kind = .tag)
    ∧ (e.mode = .reselecting → ∀ (k : KeyStroke) (now : Nat),
        (e.press k now).input = e.input
        ∧ (¬k.IsClear → (e.press k now).store.ids = e.store.ids))
    ∧ (e.mode = .quit → ∀ later, (e.session later).mode = .quit) := by
  intro e
  have hsafe : e.ModeSafe := (ModeSafe.new service debounce start).session occurrences
  refine ⟨hsafe.editing, ?_, ?_, ?_⟩
  · intro hmode
    obtain ⟨hhidden, r, hr, htag⟩ := hsafe.reselecting hmode
    exact ⟨hhidden, r, hr, mem_tagIds.1 htag⟩
  · intro hmode k now
    exact press_of_reselecting hmode k now
  · intro hmode later
    exact mode_session_of_quit hmode later

/-- A tag that was typed is resolved again: R, Enter and Left. -/
example :
    let rent : Suggestion := ⟨"1", "Rent", "housing", .text "900"⟩
    let idle := Service.new (.fixed [rent]) (.empty 1000 100) .inline
    let key := fun code => Occurrence.stroke ⟨code, false, false, false, .press⟩ 0
    let e := (Editor.new idle 300 0).session [key (.char 'R'), key .enter, key .left]
    (e.mode, e.reselection) = (.reselecting, some ⟨1, some 0⟩) := by decide +kernel

end Editor

end TagCalc
