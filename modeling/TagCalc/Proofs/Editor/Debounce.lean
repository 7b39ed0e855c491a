/-
  TagCalc.Proofs.Editor.Debounce

  A lookup waits until the input has been left alone. A run leaves a history of what
  bears on lookups: the edits of the input, the commits and picks that empty it, and the
  lookups themselves. What an event does to the pending lookup is said once, together with
  the mark that it leaves (`handle_retimes`); a tick only takes the pending lookup away
  (`timing_tick`).

  So the pending lookup belongs to the edit that stands last in the history, and is due
  the debounce time after it (`Scheduled`). Every step keeps this (`Paced.step`), and a
  lookup always comes right after an edit.
-/

import TagCalc.Proofs.Editor.Run

namespace TagCalc

/-! ## The history of lookups -/

/-- What bears on lookups: an edit of the input, a commit or a pick that empties it, and
    the lookup of a query. -/
inductive Mark where
  | edited (now : Nat)
  | emptied
  | lookedUp (query : String) (now : Nat)
deriving DecidableEq, Repr

/-- Whether a mark is that of a lookup. -/
def Mark.isLookup : Mark → Bool
  | lookedUp _ _ => true
  | _ => false

/-- The mark of a request. The full list is asked for without regard to the input, so a
    request for it leaves none. -/
def Service.Move.mark? : Service.Move → Option Mark
  | request query now => if query = "" then none else some (.lookedUp query now)
  | _ => none

namespace Editor

/-- Whether a key commits the typed text. -/
def commitsText (e : Editor) (k : EditKey) : Bool :=
  !(Text.trim e.input).isEmpty && (e.commit? k).isSome

/-- The mark of an event. Space is typed unless it commits, and Backspace edits an input
    that has something to erase. -/
def mark? (e : Editor) (event : Event) (now : Nat) : Option Mark :=
  match event with
  | .inputChanged _ => some (.edited now)
  | .typeChar _ => some (.edited now)
  | .key .enter => if e.commitsText .enter then some .emptied else none
  | .key .space => some (if e.commitsText .space then .emptied else .edited now)
  | .key .backspace => if e.input.isEmpty then none else some (.edited now)
  | .picked _ => if e.store.accepts .tag then some .emptied else none
  | .pickHighlighted =>
    if e.highlightedSuggestion?.isSome && e.store.accepts .tag then some .emptied else none
  | _ => none

/-- The mark of what happens, as far as it is an event. -/
def eventMarks (e : Editor) : Happening → List Mark
  | .event event now => (e.mark? event now).toList
  | _ => []

/-- The marks of what happens: that of the event, and those of what the service is asked
    for. -/
def marks (e : Editor) (x : Happening) : List Mark :=
  e.eventMarks x ++ (e.moves x).filterMap Service.Move.mark?

/-- The marks of a run, in order. -/
def history (e : Editor) (happenings : List Happening) : List Mark :=
  trace step marks e happenings

/-! ## The pending lookup -/

/-- What decides when a lookup starts. -/
structure Timing where
  input : String
  pending : Option (String × Nat)
  debounce : Nat

/-- The timing of an editor. -/
def timing (e : Editor) : Timing := ⟨e.input, e.pending, e.debounce⟩

namespace Timing

/-- After an edit, the query of the new input is due the debounce time later. -/
def edit (t : Timing) (input : String) (now : Nat) : Timing :=
  { t with
    input := input
    pending :=
      if (queryOf input).isEmpty then none else some (queryOf input, now + t.debounce) }

/-- After a commit or a pick, the input is empty and nothing is pending. -/
def reset (t : Timing) : Timing := { t with input := "", pending := none }

/-- As time passes, the pending lookup is taken away once it is due. -/
def elapse (t : Timing) (now : Nat) : Timing :=
  match t.pending with
  | none => t
  | some (_, due) => if due ≤ now then { t with pending := none } else t

theorem elapse_of_due {t : Timing} {query : String} {due now : Nat}
    (hpending : t.pending = some (query, due)) (hdue : due ≤ now) :
    t.elapse now = { t with pending := none } := by
  rw [elapse, hpending]
  dsimp only
  rw [if_pos hdue]

theorem elapse_of_not_due {t : Timing} {now : Nat}
    (hwait : ∀ query due, t.pending = some (query, due) → ¬due ≤ now) : t.elapse now = t := by
  rw [elapse]
  cases hpending : t.pending with
  | none => rfl
  | some p =>
    obtain ⟨query, due⟩ := p
    dsimp only
    rw [if_neg (hwait query due hpending)]

end Timing

theorem timing_setInput (e : Editor) (input : String) (now : Nat) :
    (e.setInput input now).timing = e.timing.edit input now := by
  unfold setInput inputEdited Timing.edit
  dsimp only
  by_cases hquery : (queryOf input).isEmpty = true
  · rw [if_pos hquery, if_pos hquery]
    rfl
  · rw [if_neg hquery, if_neg hquery]
    split <;> rfl

@[simp] theorem timing_removeLast (e : Editor) : e.removeLast.timing = e.timing := by
  rw [removeLast_frame]
  rfl

@[simp] theorem timing_retag (e : Editor) (id : Nat) (name : String) :
    (e.retag id name).timing = e.timing := by
  rw [retag_frame]
  rfl

@[simp] theorem timing_beginReselect (e : Editor) : e.beginReselect.timing = e.timing := by
  rw [beginReselect_frame]
  rfl

@[simp] theorem timing_moveFocus (e : Editor) (direction : Direction) :
    (e.moveFocus direction).timing = e.timing := by
  rw [moveFocus_frame]
  rfl

@[simp] theorem timing_applyCandidate (e : Editor) : e.applyCandidate.timing = e.timing := by
  rw [applyCandidate_frame]
  rfl

/-! ## Events -/

/-- What happens to a timing together with the mark that is left: nothing, an edit, or a
    reset. -/
inductive Retimes (t : Timing) (now : Nat) : Option Mark → Timing → Prop where
  | kept : Retimes t now none t
  | edited (input : String) : Retimes t now (some (.edited now)) (t.edit input now)
  | emptied : Retimes t now (some .emptied) t.reset

theorem eraseCluster_retimes (e : Editor) (now : Nat) :
    Retimes e.timing now (if e.input.isEmpty then none else some (.edited now))
      (e.eraseCluster now).timing := by
  rw [eraseCluster]
  split
  · exact .kept
  · rw [timing_setInput]
    exact .edited _

theorem pick_retimes (e : Editor) (s : Suggestion) (now : Nat) :
    Retimes e.timing now (if e.store.accepts .tag then some .emptied else none)
      (e.pick s).timing := by
  rw [pick]
  split
  · exact .emptied
  · exact .kept

/-- A commit, or what the key does when nothing is committed. -/
theorem commit?_retimes (e : Editor) (k : EditKey) {now : Nat} {refused : Option Mark}
    {other : Editor} (h : Retimes e.timing now refused other.timing) :
    Retimes e.timing now (if (e.commit? k).isSome then some .emptied else refused)
      ((e.commit? k).getD other).timing := by
  rcases e.commit?_cases k with heq | ⟨-, -, heq⟩
  · rw [heq]
    exact h
  · rw [heq]
    exact .emptied

theorem typeSpace_retimes (e : Editor) (now : Nat) :
    Retimes e.timing now (some (.edited now)) (e.typeChar ' ' now).timing := by
  rw [typeChar, timing_setInput]
  exact .edited _

theorem handleKey_retimes (e : Editor) (k : EditKey) (now : Nat) :
    Retimes e.timing now (e.mark? (.key k) now) (e.handleKey k now).timing := by
  unfold handleKey mark? commitsText
  by_cases hblank : (Text.trim e.input).isEmpty = true
  · rw [if_pos hblank, hblank]
    cases k with
    | backspace =>
      -- the token that goes first leaves the input as it was
      have herased := e.removeLast.eraseCluster_retimes now
      have hinput : e.removeLast.input = e.input :=
        congrArg Timing.input e.timing_removeLast
      rw [timing_removeLast, hinput] at herased
      exact herased
    | space => exact e.typeSpace_retimes now
    | enter => exact .kept
  · rw [if_neg hblank, eq_false_of_ne_true hblank]
    simp only [Bool.not_false, Bool.true_and]
    cases k with
    | backspace => exact e.eraseCluster_retimes now
    | enter => exact e.commit?_retimes .enter .kept
    | space =>
      rw [apply_ite some]
      exact e.commit?_retimes .space (e.typeSpace_retimes now)

theorem pickHighlighted_retimes (e : Editor) (now : Nat) :
    Retimes e.timing now (e.mark? .pickHighlighted now) (e.handle .pickHighlighted now).timing := by
  simp only [mark?, handle]
  cases e.highlightedSuggestion? with
  | none => exact .kept
  | some s => exact e.pick_retimes s now

/-- Every event does to the timing what its mark says. -/
theorem handle_retimes (e : Editor) (event : Event) (now : Nat) :
    Retimes e.timing now (e.mark? event now) (e.handle event now).timing := by
  cases event with
  | inputChanged text =>
    simp only [handle, timing_setInput]
    exact .edited text
  | typeChar c =>
    simp only [handle, typeChar, timing_setInput]
    exact .edited (e.input.push c)
  | key k => exact e.handleKey_retimes k now
  | picked s => exact e.pick_retimes s now
  | pickHighlighted => exact e.pickHighlighted_retimes now
  | highlightNext => exact .kept
  | highlightPrevious => exact .kept
  | reselect id name =>
    simp only [handle, timing_retag]
    exact .kept
  | beginReselect =>
    simp only [handle, timing_beginReselect]
    exact .kept
  | focusNextTag =>
    simp only [handle, timing_moveFocus]
    exact .kept
  | focusPreviousTag =>
    simp only [handle, timing_moveFocus]
    exact .kept
  | candidateNext => exact .kept
  | candidatePrevious => exact .kept
  | applyCandidate =>
    simp only [handle, timing_applyCandidate]
    exact .kept
  | cancel =>
    simp only [handle]
    split <;> exact .kept
  | clear => exact .kept
  | quit => exact .kept

/-! ## Ticks -/

theorem timing_startLookup (e : Editor) (query : String) (now : Nat) :
    (e.startLookup query now).timing = e.timing := by
  rw [startLookup]
  dsimp only
  split <;> rfl

theorem timing_fireDue (e : Editor) (now : Nat) :
    (e.fireDue now).timing = e.timing.elapse now := by
  have hsame : e.timing.pending = e.pending := rfl
  rw [fireDue, Timing.elapse, hsame]
  cases e.pending with
  | none => rfl
  | some p =>
    obtain ⟨query, due⟩ := p
    dsimp only
    split
    · rw [timing_startLookup]
      rfl
    · rfl

theorem timing_refreshCatalog (e : Editor) (now : Nat) :
    (e.refreshCatalog now).timing = e.timing := by
  rw [refreshCatalog_frame]
  rfl

theorem timing_collect (e : Editor) (now : Nat) : (e.collect now).timing = e.timing := by
  rw [collect]
  dsimp only
  rw [foldl_receive_frame]
  rfl

/-- Of a tick, only its time matters to the pending lookup. -/
theorem timing_tick (e : Editor) (now : Nat) : (e.tick now).timing = e.timing.elapse now := by
  rw [tick, timing_collect, timing_refreshCatalog, timing_fireDue]

theorem fireMoves_of_due {e : Editor} {query : String} {due now : Nat}
    (hpending : e.pending = some (query, due)) (hdue : due ≤ now) :
    e.fireMoves now = [.request query now] := by
  rw [fireMoves, hpending]
  dsimp only
  rw [if_pos hdue]

theorem fireMoves_of_not_due {e : Editor} {now : Nat}
    (hwait : ∀ query due, e.pending = some (query, due) → ¬due ≤ now) :
    e.fireMoves now = [] := by
  rw [fireMoves]
  cases hpending : e.pending with
  | none => rfl
  | some p =>
    obtain ⟨query, due⟩ := p
    dsimp only
    rw [if_neg (hwait query due hpending)]

/-- A tick asks for the query whose lookup is due. -/
theorem mem_moves_of_due {e : Editor} {query : String} {due now : Nat}
    (hpending : e.pending = some (query, due)) (hdue : due ≤ now) :
    .request query now ∈ e.moves (.tick now) := by
  rw [moves, fireMoves_of_due hpending hdue]
  exact List.mem_cons_self ..

/-- No query is asked for otherwise, apart from that of the full list. -/
theorem due_of_mem_moves {e : Editor} {x : Happening} {query : String} {now : Nat}
    (hmem : .request query now ∈ e.moves x) (hquery : query ≠ "") :
    x = .tick now ∧ ∃ due, e.pending = some (query, due) ∧ due ≤ now := by
  cases x with
  | event event time => cases hmem
  | tick time =>
    rcases List.mem_append.1 hmem with hasked | hpolled
    · rcases List.mem_append.1 hasked with hfired | hrefreshed
      · by_cases hfires : ∃ q due, e.pending = some (q, due) ∧ due ≤ time
        · obtain ⟨q, due, hpending, hdue⟩ := hfires
          rw [fireMoves_of_due hpending hdue] at hfired
          cases List.mem_singleton.1 hfired
          exact ⟨rfl, due, hpending, hdue⟩
        · have hwait : ∀ q due, e.pending = some (q, due) → ¬due ≤ time := by
            intro q due hpending hdue
            exact hfires ⟨q, due, hpending, hdue⟩
          rw [fireMoves_of_not_due hwait] at hfired
          cases hfired
      · unfold refreshMoves at hrefreshed
        split at hrefreshed
        · cases List.mem_singleton.1 hrefreshed
          exact absurd rfl hquery
        · cases hrefreshed
    · cases List.mem_singleton.1 hpolled
  | release => cases List.mem_singleton.1 hmem
  | die => cases List.mem_singleton.1 hmem
  | replace source => cases List.mem_singleton.1 hmem

/-- The refresh of the full list and the poll leave no mark. -/
theorem marks_tick (e : Editor) (now : Nat) :
    e.marks (.tick now) = (e.fireMoves now).filterMap Service.Move.mark? := by
  have hrefresh : ((e.fireDue now).refreshMoves now).filterMap Service.Move.mark? = [] := by
    unfold refreshMoves
    split <;> rfl
  have hpoll : [Service.Move.poll now].filterMap Service.Move.mark? = [] := rfl
  have hmarks : e.marks (.tick now)
      = (e.fireMoves now ++ (e.fireDue now).refreshMoves now
          ++ [Service.Move.poll now]).filterMap Service.Move.mark? := rfl
  rw [hmarks, List.filterMap_append, List.filterMap_append, hrefresh, hpoll, List.append_nil,
    List.append_nil]

/-- A lookup that is due leaves its mark. -/
theorem marks_tick_of_due {e : Editor} {query : String} {due now : Nat}
    (hpending : e.pending = some (query, due)) (hdue : due ≤ now) (hquery : query ≠ "") :
    e.marks (.tick now) = [.lookedUp query now] := by
  rw [marks_tick, fireMoves_of_due hpending hdue]
  simp [Service.Move.mark?, hquery]

/-- Without a lookup that is due, a tick leaves no mark. -/
theorem marks_tick_of_not_due {e : Editor} {now : Nat}
    (hwait : ∀ query due, e.pending = some (query, due) → ¬due ≤ now) :
    e.marks (.tick now) = [] := by
  rw [marks_tick, fireMoves_of_not_due hwait]
  rfl

/-! ## The pending lookup and the last edit -/

/-- The pending lookup is for the query of the input. It belongs to the edit that stands
    last in the history, and is due the debounce time after it. -/
def Scheduled (history : List Mark) (t : Timing) : Prop :=
  ∀ query due, t.pending = some (query, due) →
    query = queryOf t.input ∧ query ≠ ""
    ∧ ∃ edited, history.getLast? = some (.edited edited) ∧ due = edited + t.debounce

/-- Every lookup of a history comes right after an edit, at least the debounce time
    later. -/
def FollowsEdits (debounce : Nat) (history : List Mark) : Prop :=
  ∀ earlier query now later, history = earlier ++ .lookedUp query now :: later →
    ∃ edited, earlier.getLast? = some (.edited edited) ∧ edited + debounce ≤ now

theorem scheduled_of_none {history : List Mark} {t : Timing} (h : t.pending = none) :
    Scheduled history t := by
  intro query due hpending
  rw [h] at hpending
  cases hpending

theorem Retimes.debounce_eq {t t' : Timing} {now : Nat} {mark : Option Mark}
    (h : Retimes t now mark t') : t'.debounce = t.debounce := by
  cases h <;> rfl

/-- An event leaves the mark to which the pending lookup belongs from then on. -/
theorem Retimes.scheduled {t t' : Timing} {now : Nat} {mark : Option Mark}
    (h : Retimes t now mark t') {history : List Mark} (hs : Scheduled history t) :
    Scheduled (history ++ mark.toList) t' := by
  cases h with
  | kept =>
    show Scheduled (history ++ []) t
    rw [List.append_nil]
    exact hs
  | edited input =>
    intro query due hpending
    unfold Timing.edit at hpending
    dsimp only at hpending
    split at hpending
    · cases hpending
    · rename_i hquery
      cases hpending
      exact ⟨rfl, by simpa using hquery, now, List.getLast?_concat, rfl⟩
  | emptied => exact scheduled_of_none rfl

/-- The history goes on with another mark, or with a lookup right after an edit. -/
theorem FollowsEdits.concat {debounce : Nat} {history : List Mark} {mark : Mark}
    (h : FollowsEdits debounce history)
    (hmark : ∀ query now, mark = .lookedUp query now →
      ∃ edited, history.getLast? = some (.edited edited) ∧ edited + debounce ≤ now) :
    FollowsEdits debounce (history ++ [mark]) := by
  intro earlier query now later heq
  rcases List.eq_nil_or_concat later with rfl | ⟨rest, last, rfl⟩
  · -- the lookup is the last mark, so what is earlier is the old history
    obtain ⟨rfl, hlast⟩ := List.append_inj' heq rfl
    exact hmark query now (List.singleton_inj.1 hlast)
  · rw [List.concat_eq_append, ← List.cons_append, ← List.append_assoc] at heq
    obtain ⟨hold, -⟩ := List.append_inj' heq rfl
    exact h earlier query now rest hold

/-- Of the marks after an edit and before the next one, at most one is a lookup. -/
theorem FollowsEdits.lookups_le_one {debounce : Nat} {earlier later : List Mark} {edited : Nat}
    (h : FollowsEdits debounce (earlier ++ .edited edited :: later))
    (hlast : ∀ now, .edited now ∉ later) : (later.filter Mark.isLookup).length ≤ 1 := by
  cases later with
  | nil => exact Nat.zero_le 1
  | cons mark rest =>
    -- a lookup further on would come right after an edit that is not the last one
    have hrest : rest.filter Mark.isLookup = [] := by
      rw [List.filter_eq_nil_iff]
      intro other hmem hlookup
      obtain ⟨before, after, rfl⟩ := List.append_of_mem hmem
      cases other with
      | edited now => cases hlookup
      | emptied => cases hlookup
      | lookedUp query now =>
        obtain ⟨again, hagain, -⟩ :=
          h (earlier ++ [.edited edited] ++ mark :: before) query now after (by simp)
        rw [List.getLast?_append, List.getLast?_cons, Option.some_or, ← List.getLast?_cons]
          at hagain
        have hin : .edited again ∈ mark :: before := List.mem_of_getLast? hagain
        apply hlast again
        rw [← List.cons_append]
        exact List.mem_append_left _ hin
    rw [List.filter_cons, hrest]
    split
    · exact Nat.le_refl 1
    · exact Nat.zero_le 1

/-! ## Runs -/

/-- An editor and the history of its run: the pending lookup is scheduled, and all
    lookups so far came right after edits. -/
structure Paced (debounce : Nat) (history : List Mark) (e : Editor) : Prop where
  debounce_eq : e.debounce = debounce
  scheduled : Scheduled history e.timing
  follows : FollowsEdits debounce history

theorem Paced.new (service : Service) (debounce start : Nat) :
    Paced debounce [] (Editor.new service debounce start) := by
  refine ⟨rfl, scheduled_of_none rfl, ?_⟩
  intro earlier query now later heq
  simp at heq

/-- What leaves no mark and keeps the timing. -/
theorem Paced.of_timing_eq {debounce : Nat} {history : List Mark} {e e' : Editor}
    (h : Paced debounce history e) (hsame : e'.timing = e.timing) :
    Paced debounce (history ++ []) e' := by
  rw [List.append_nil]
  refine ⟨?_, ?_, h.follows⟩
  · rw [← h.debounce_eq]
    exact congrArg Timing.debounce hsame
  · rw [hsame]
    exact h.scheduled

theorem Paced.handle {debounce : Nat} {history : List Mark} {e : Editor}
    (h : Paced debounce history e) (event : Event) (now : Nat) :
    Paced debounce (history ++ (e.mark? event now).toList) (e.handle event now) := by
  have hretimes := e.handle_retimes event now
  refine ⟨hretimes.debounce_eq.trans h.debounce_eq, hretimes.scheduled h.scheduled, ?_⟩
  cases hmark : e.mark? event now with
  | none =>
    rw [Option.toList_none, List.append_nil]
    exact h.follows
  | some mark =>
    rw [Option.toList_some]
    apply h.follows.concat
    rintro query time rfl
    rw [hmark] at hretimes
    cases hretimes

/-- A lookup that is due was scheduled by the last edit, and only then a tick starts one. -/
theorem Paced.tick {debounce : Nat} {history : List Mark} {e : Editor}
    (h : Paced debounce history e) (now : Nat) :
    Paced debounce (history ++ e.marks (.tick now)) (e.tick now) := by
  by_cases hfires : ∃ query due, e.pending = some (query, due) ∧ due ≤ now
  · obtain ⟨query, due, hpending, hdue⟩ := hfires
    obtain ⟨-, hquery, edited, hlast, hafter⟩ := h.scheduled query due hpending
    have hdebounce : e.timing.debounce = debounce := h.debounce_eq
    have htiming : (e.tick now).timing = { e.timing with pending := none } :=
      (e.timing_tick now).trans (Timing.elapse_of_due hpending hdue)
    rw [marks_tick_of_due hpending hdue hquery]
    refine ⟨?_, ?_, ?_⟩
    · exact (congrArg Timing.debounce htiming).trans h.debounce_eq
    · rw [htiming]
      exact scheduled_of_none rfl
    · apply h.follows.concat
      intro q time heq
      cases heq
      exact ⟨edited, hlast, by omega⟩
  · have hwait : ∀ query due, e.pending = some (query, due) → ¬due ≤ now := by
      intro query due hpending hdue
      exact hfires ⟨query, due, hpending, hdue⟩
    rw [marks_tick_of_not_due hwait]
    exact h.of_timing_eq ((e.timing_tick now).trans (Timing.elapse_of_not_due hwait))

/-- Whatever happens, the editor stays paced. -/
theorem Paced.step {debounce : Nat} {history : List Mark} {e : Editor}
    (h : Paced debounce history e) (x : Happening) :
    Paced debounce (history ++ e.marks x) (e.step x) := by
  cases x with
  | event event now =>
    have hmarks : e.marks (.event event now) = (e.mark? event now).toList := List.append_nil _
    rw [hmarks]
    exact h.handle event now
  | tick now => exact h.tick now
  | release => exact h.of_timing_eq rfl
  | die => exact h.of_timing_eq rfl
  | replace source => exact h.of_timing_eq rfl

theorem Paced.run {debounce : Nat} {history : List Mark} {e : Editor}
    (h : Paced debounce history e) (happenings : List Happening) :
    Paced debounce (history ++ e.history happenings) (e.run happenings) :=
  trace_induction (P := Paced debounce) (fun x _ _ _ hx => hx.step x) h

/-- In every run the service is asked for a query, other than that of the full list, by
    ticks only, and for the query of the input at that moment. Of what bears on lookups,
    an edit of the input came last, at least the debounce time before: since then there
    was no commit, no pick and no other lookup. So the marks after an edit and before the
    next one hold at most one lookup. -/
theorem lookup_follows_edit (service : Service) (debounce start : Nat)
    (done : List Happening) (x : Happening) :
    let first := Editor.new service debounce start
    let e := first.run done
    (∀ query now, .request query now ∈ startMoves start → query = "")
    ∧ (e.step x).service = e.service.run (e.moves x)
    ∧ (∀ query now, .request query now ∈ e.moves x → query ≠ "" →
        x = .tick now
        ∧ query = queryOf e.input
        ∧ (∃ edited, (first.history done).getLast? = some (.edited edited)
            ∧ edited + debounce ≤ now)
        ∧ e.marks x = [.lookedUp query now])
    ∧ ∀ earlier edited later, first.history done = earlier ++ .edited edited :: later →
        (∀ now, .edited now ∉ later) → (later.filter Mark.isLookup).length ≤ 1 := by
  intro first e
  have h : Paced debounce (first.history done) e := (Paced.new service debounce start).run done
  refine ⟨?_, e.service_step x, ?_, ?_⟩
  · intro query now hmem
    simp only [startMoves, List.mem_cons, Service.Move.request.injEq, reduceCtorEq,
      List.not_mem_nil, or_false] at hmem
    exact hmem.1
  · intro query now hmem hquery
    obtain ⟨rfl, due, hpending, hdue⟩ := due_of_mem_moves hmem hquery
    obtain ⟨hinput, -, edited, hlast, hafter⟩ := h.scheduled query due hpending
    have hdebounce : e.timing.debounce = debounce := h.debounce_eq
    exact ⟨rfl, hinput, ⟨edited, hlast, by omega⟩, marks_tick_of_due hpending hdue hquery⟩
  · intro earlier edited later heq hlast
    have hfollows := h.follows
    rw [heq] at hfollows
    exact hfollows.lookups_le_one hlast

/-- "f" is typed at 0 and "u" at 100. The lookup of "fu" comes due at 400, the debounce
    time after the second character, and not at 300. -/
theorem lookup_follows_edit_of_fu :
    let first := Editor.new (Service.new (.fixed []) (.empty 1000 500) .worker) 300 0
    let done := [.event (.typeChar 'f') 0, .event (.typeChar 'u') 100]
    let e := first.run done
    .request "fu" 400 ∈ e.moves (.tick 400) ∧ "fu" ≠ ""
    ∧ e.marks (.tick 300) = []
    ∧ e.marks (.tick 400) = [.lookedUp "fu" 400]
    ∧ "fu" = queryOf e.input
    ∧ ∃ edited, (first.history done).getLast? = some (.edited edited) ∧ edited + 300 ≤ 400 := by
  intro first done e
  have hpending : e.pending = some ("fu", 400) := by decide +kernel
  have hmem : .request "fu" 400 ∈ e.moves (.tick 400) := mem_moves_of_due hpending (Nat.le_refl _)
  have hquery : "fu" ≠ "" := by decide
  obtain ⟨-, -, hrequest, -⟩ := lookup_follows_edit
    (Service.new (.fixed []) (.empty 1000 500) .worker) 300 0 done (.tick 400)
  obtain ⟨-, hinput, hedited, hmarks⟩ := hrequest "fu" 400 hmem hquery
  have hearly : e.marks (.tick 300) = [] := by decide +kernel
  exact ⟨hmem, hquery, hearly, hmarks, hinput, hedited⟩

end Editor

end TagCalc
