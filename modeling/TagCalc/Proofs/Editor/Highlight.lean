/-
  TagCalc.Proofs.Editor.Highlight

  The highlight of the dropdown is an index into the suggestions, and there is none just
  when nothing is suggested (`Prompt.Marked`). Events touch the two in few ways only
  (`handle_prompt`): a new input keeps or drops both, and a move stays within the list. A
  tick puts in a whole list and highlights its first entry (`marked_showResults`).

  From an index in range the highlight goes round the list: the two directions undo each
  other (`cycle_back`), and the number of moves is added to the index (`moveOn_eq`).
-/

import TagCalc.Proofs.Editor.Reselection
import TagCalc.Proofs.Editor.Staleness

namespace TagCalc

/-! ## Selections -/

/-- The other way. -/
def Direction.opposite : Direction → Direction
  | next => previous
  | previous => next

theorem cycle_next {count : Nat} (hpos : 0 < count) (i : Nat) :
    cycle (some i) .next count = some ((i + 1) % count) :=
  if_neg (Nat.ne_of_gt hpos)

theorem cycle_previous {count : Nat} (hpos : 0 < count) (i : Nat) :
    cycle (some i) .previous count = some ((i + (count - 1)) % count) :=
  if_neg (Nat.ne_of_gt hpos)

/-- There is something to select unless there is nothing at all. -/
theorem cycle_eq_none_iff {current : Option Nat} {direction : Direction} {count : Nat} :
    cycle current direction count = none ↔ count = 0 := by
  unfold cycle
  by_cases hzero : count = 0
  · rw [if_pos hzero]
    exact ⟨fun _ => hzero, fun _ => rfl⟩
  · rw [if_neg hzero]
    refine ⟨?_, fun h => absurd h hzero⟩
    cases current <;> cases direction <;> exact nofun

/-- A move back undoes a move, at the ends of the list too. -/
theorem cycle_back {i count : Nat} (hlt : i < count) (direction : Direction) :
    cycle (cycle (some i) direction count) direction.opposite count = some i := by
  have hpos : 0 < count := Nat.zero_lt_of_lt hlt
  -- either way the index goes up by the length of the list in all
  have hround : (i + count) % count = i := by
    rw [Nat.add_mod_right, Nat.mod_eq_of_lt hlt]
  cases direction with
  | next =>
    rw [cycle_next hpos, Direction.opposite, cycle_previous hpos, Nat.mod_add_mod,
      show i + 1 + (count - 1) = i + count by omega, hround]
  | previous =>
    rw [cycle_previous hpos, Direction.opposite, cycle_next hpos, Nat.mod_add_mod,
      show i + (count - 1) + 1 = i + count by omega, hround]

/-- Going on from any index, every other one is met within one round. -/
theorem exists_lt_add_mod_eq {i j count : Nat} (hi : i < count) (hj : j < count) :
    ∃ k < count, (i + k) % count = j := by
  by_cases hle : i ≤ j
  · refine ⟨j - i, by omega, ?_⟩
    rw [Nat.add_sub_cancel' hle, Nat.mod_eq_of_lt hj]
  · refine ⟨j + count - i, by omega, ?_⟩
    rw [show i + (j + count - i) = j + count by omega, Nat.add_mod_right, Nat.mod_eq_of_lt hj]

theorem firstIndex?_eq_none_iff {α : Type} {xs : List α} : firstIndex? xs = none ↔ xs = [] := by
  cases xs with
  | nil => exact ⟨fun _ => rfl, fun _ => rfl⟩
  | cons x rest => exact ⟨nofun, nofun⟩

/-! ## Highlights in range -/

namespace Prompt

/-- The highlight is in range, and missing only where there is nothing to highlight. -/
structure Marked (p : Prompt) : Prop where
  none_iff : p.highlighted = none ↔ p.suggestions = []
  lt_length : ∀ i, p.highlighted = some i → i < p.suggestions.length

variable {p : Prompt}

theorem Marked.cleared : Prompt.cleared.Marked := ⟨⟨fun _ => rfl, fun _ => rfl⟩, nofun⟩

/-- A new input keeps list and highlight, or drops both. -/
theorem Marked.edited (h : p.Marked) (input : String) (due : Nat) :
    (p.edited input due).Marked := by
  by_cases hquery : queryOf input = ""
  · rw [edited_of_no_query hquery]
    exact ⟨⟨fun _ => rfl, fun _ => rfl⟩, nofun⟩
  · by_cases hactive : p.active = some (queryOf input)
    · rw [edited_of_active hquery hactive]
      exact ⟨h.none_iff, h.lt_length⟩
    · rw [edited_of_other hquery hactive]
      exact ⟨h.none_iff, h.lt_length⟩

theorem Marked.change {p' : Prompt} (h : p.Marked) (hc : p.Change p') : p'.Marked := by
  cases hc with
  | same => exact h
  | edited input due => exact h.edited input due
  | cleared => exact .cleared
  | moved direction =>
    refine ⟨?_, fun i hi => cycle_lt hi⟩
    rw [cycle_eq_none_iff, List.length_eq_zero_iff]
  | hidden => exact ⟨h.none_iff, h.lt_length⟩

end Prompt

namespace Editor

/-! ## Ticks -/

/-- A list is shown with its first entry highlighted. -/
theorem marked_showResults (e : Editor) (found : Catalog) :
    (e.showResults found).prompt.Marked :=
  ⟨firstIndex?_eq_none_iff, fun _ hi => firstIndex?_lt hi⟩

theorem marked_startLookup {e : Editor} (h : e.prompt.Marked) (query : String) (now : Nat) :
    (e.startLookup query now).prompt.Marked := by
  rw [startLookup]
  dsimp only
  split
  · exact marked_showResults _ _
  · exact ⟨h.none_iff, h.lt_length⟩

theorem marked_fireDue {e : Editor} (h : e.prompt.Marked) (now : Nat) :
    (e.fireDue now).prompt.Marked := by
  rw [fireDue]
  split
  · exact h
  · split
    · have hfired : ({ e with pending := none } : Editor).prompt.Marked :=
        ⟨h.none_iff, h.lt_length⟩
      exact marked_startLookup hfired _ now
    · exact h

theorem marked_receive {e : Editor} (h : e.prompt.Marked) (f : Fetched) :
    (e.receive f).prompt.Marked := by
  rw [receive]
  split
  · exact marked_showResults e f.suggestions
  · exact h

theorem marked_foldl_receive {e : Editor} (h : e.prompt.Marked) (results : List Fetched) :
    (results.foldl receive e).prompt.Marked := by
  induction results generalizing e with
  | nil => exact h
  | cons f rest ih => exact ih (marked_receive h f)

theorem marked_tick {e : Editor} (h : e.prompt.Marked) (now : Nat) :
    (e.tick now).prompt.Marked := by
  have hasked : ((e.fireDue now).refreshCatalog now).prompt.Marked := by
    rw [prompt_refreshCatalog]
    exact marked_fireDue h now
  exact marked_foldl_receive (e := { (e.fireDue now).refreshCatalog now with
    service := (((e.fireDue now).refreshCatalog now).service.poll now).1 }) hasked _

/-! ## Runs -/

theorem marked_step {e : Editor} (h : e.prompt.Marked) (x : Happening) :
    (e.step x).prompt.Marked := by
  cases x with
  | event event now => exact h.change (e.handle_prompt event now)
  | tick now => exact marked_tick h now
  | release => exact h
  | die => exact h
  | replace source => exact h

theorem marked_run {e : Editor} (h : e.prompt.Marked) (happenings : List Happening) :
    (e.run happenings).prompt.Marked := by
  induction happenings generalizing e with
  | nil => exact h
  | cons x rest ih => exact ih (marked_step h x)

/-! ## Round the list -/

/-- Moves the highlight on, once at each of the times. -/
def moveOn (e : Editor) (times : List Nat) : Editor :=
  e.run (times.map (Happening.event .highlightNext))

/-- The editor with another highlight. -/
def highlightAt (e : Editor) (i : Nat) : Editor := { e with highlighted := some i }

theorem highlightAt_self {e : Editor} {i : Nat} (hi : e.highlighted = some i) :
    e.highlightAt i = e := by
  rw [highlightAt, ← hi]

theorem moveHighlight_back {e : Editor} {i : Nat} (hi : e.highlighted = some i)
    (hlt : i < e.suggestions.length) (direction : Direction) :
    (e.moveHighlight direction).moveHighlight direction.opposite = e := by
  have hback : cycle (cycle e.highlighted direction e.suggestions.length) direction.opposite
      e.suggestions.length = e.highlighted := by
    rw [hi]
    exact cycle_back hlt direction
  calc (e.moveHighlight direction).moveHighlight direction.opposite
      = { e with
          highlighted := cycle (cycle e.highlighted direction e.suggestions.length)
            direction.opposite e.suggestions.length } := rfl
    _ = e := by rw [hback]

/-- Each move counts one, modulo the length of the list. -/
theorem moveOn_eq {e : Editor} {i : Nat} (hi : e.highlighted = some i)
    (hlt : i < e.suggestions.length) (times : List Nat) :
    e.moveOn times = e.highlightAt ((i + times.length) % e.suggestions.length) := by
  have hpos : 0 < e.suggestions.length := Nat.zero_lt_of_lt hlt
  induction times generalizing e i with
  | nil =>
    rw [List.length_nil, Nat.add_zero, Nat.mod_eq_of_lt hlt, highlightAt_self hi]
    rfl
  | cons now rest ih =>
    have hnext : (e.moveHighlight .next).highlighted = some ((i + 1) % e.suggestions.length) := by
      rw [moveHighlight, hi]
      exact cycle_next hpos i
    have hindex : ((i + 1) % e.suggestions.length + rest.length) % e.suggestions.length
        = (i + (rest.length + 1)) % e.suggestions.length := by
      rw [Nat.mod_add_mod, Nat.add_assoc, Nat.add_comm 1]
    -- the rest goes on from the next index, round the same list
    calc e.moveOn (now :: rest)
        = (e.moveHighlight .next).moveOn rest := rfl
      _ = e.highlightAt (((i + 1) % e.suggestions.length + rest.length) % e.suggestions.length) :=
          ih hnext (Nat.mod_lt _ hpos) hpos
      _ = e.highlightAt ((i + (now :: rest).length) % e.suggestions.length) := by
          rw [hindex, List.length_cons]

/-- In every run of an editor over any service, the highlight is missing just when nothing
    is suggested, and in range otherwise. From there a move on and a move back, in
    either order, change nothing; moves on add their number to the index, modulo the
    number of suggestions; and as many as there are suggestions lead back, past every
    entry. -/
theorem highlight_goes_round (service : Service) (debounce start : Nat)
    (happenings : List Happening) :
    let e := (Editor.new service debounce start).run happenings
    (e.highlighted = none ↔ e.suggestions = [])
    ∧ ∀ i, e.highlighted = some i →
        i < e.suggestions.length
        ∧ (∀ now later, (e.handle .highlightNext now).handle .highlightPrevious later = e)
        ∧ (∀ now later, (e.handle .highlightPrevious now).handle .highlightNext later = e)
        ∧ (∀ times,
            e.moveOn times = e.highlightAt ((i + times.length) % e.suggestions.length))
        ∧ ∀ times, times.length = e.suggestions.length →
            e.moveOn times = e
            ∧ ∀ j < e.suggestions.length, ∃ k < e.suggestions.length,
                (e.moveOn (times.take k)).highlighted = some j := by
  intro e
  have hmarked : e.prompt.Marked :=
    marked_run (e := Editor.new service debounce start) .cleared happenings
  refine ⟨hmarked.none_iff, ?_⟩
  intro i hi
  have hlt : i < e.suggestions.length := hmarked.lt_length i hi
  refine ⟨hlt, ?_, ?_, moveOn_eq hi hlt, ?_⟩
  · intro _ _
    exact moveHighlight_back hi hlt .next
  · intro _ _
    exact moveHighlight_back hi hlt .previous
  · intro times hlength
    refine ⟨?_, ?_⟩
    · rw [moveOn_eq hi hlt, hlength, Nat.add_mod_right, Nat.mod_eq_of_lt hlt,
        highlightAt_self hi]
    · intro j hj
      obtain ⟨k, hk, hmet⟩ := exists_lt_add_mod_eq hlt hj
      refine ⟨k, hk, ?_⟩
      rw [moveOn_eq hi hlt, List.length_take, Nat.min_eq_left (by omega), hmet, highlightAt]

/-- Three suggestions are shown for "fl", and the last one is highlighted. -/
def lastOfThree : Editor :=
  (Editor.new (Service.new (.fixed [⟨"1", "Flat", "housing", .text "900"⟩,
      ⟨"2", "Flour", "groceries", .text "2"⟩, ⟨"3", "Flight", "travel", .text "180"⟩])
    (.empty 300000 60000) .inline) 300 0).run
    [.event (.inputChanged "fl") 0, .tick 300, .event .highlightPrevious 310]

/-- From the last of three entries, two moves lead to the second one, and three back. -/
theorem highlight_goes_round_three :
    lastOfThree.highlighted = some 2
    ∧ (lastOfThree.handle .highlightNext 320).handle .highlightPrevious 330 = lastOfThree
    ∧ lastOfThree.moveOn [320, 330] = lastOfThree.highlightAt 1
    ∧ lastOfThree.moveOn [320, 330, 340] = lastOfThree := by
  have hlast : lastOfThree.highlighted = some 2 := by
    rfl
  have hthree : lastOfThree.suggestions.length = 3 := by
    rfl
  obtain ⟨-, hround⟩ := highlight_goes_round
    (Service.new (.fixed [⟨"1", "Flat", "housing", .text "900"⟩,
      ⟨"2", "Flour", "groceries", .text "2"⟩, ⟨"3", "Flight", "travel", .text "180"⟩])
      (.empty 300000 60000) .inline) 300 0
    [.event (.inputChanged "fl") 0, .tick 300, .event .highlightPrevious 310]
  obtain ⟨-, hback, -, hmoves, hall⟩ := hround 2 hlast
  refine ⟨hlast, hback 320 330, ?_, (hall [320, 330, 340] hthree.symm).1⟩
  have htwo : lastOfThree.moveOn [320, 330]
      = lastOfThree.highlightAt ((2 + 2) % lastOfThree.suggestions.length) := hmoves [320, 330]
  rw [hthree, show (2 + 2) % 3 = 1 by decide] at htwo
  exact htwo

end Editor

end TagCalc
