/-
  TagCalc.Proofs.Editor.Backspace

  Backspace walks everything back. One press takes the last cluster off the input and,
  over a blank input, the last token off the formula too (`erases_backspace`). What is
  left to erase, counted in characters and tokens, gets less with each press until
  nothing is left (`Erases.remaining_le`), and time and the lookups leave it alone. So
  the presses of a run are enough once there are as many of them (`remaining_run_le`).
-/

import TagCalc.Proofs.Editor.Run
import TagCalc.Proofs.Text.Cluster

namespace TagCalc.Editor

/-! ## One press -/

/-- What a press makes of an editor: a visible input loses its last cluster; a blank one
    does too, if it is not empty, and the last token goes with it. -/
structure Erases (before after : Editor) : Prop where
  visible : Text.trim before.input ≠ "" → after.store = before.store
  blank : Text.trim before.input = "" → after.store.tokens = before.store.tokens.dropLast
  empty : before.input = "" → after.input = ""
  input : before.input ≠ "" → ∃ cluster, Text.ShedsCluster before.input after.input cluster

theorem input_removeLast (e : Editor) : e.removeLast.input = e.input := by
  rw [removeLast_frame]

theorem tokens_removeLast {e : Editor} (hord : e.store.Ordered) :
    e.removeLast.store.tokens = e.store.tokens.dropLast := by
  rw [removeLast]
  cases hlast : e.store.last? with
  | none =>
    have hnone : e.store.tokens = [] := List.getLast?_eq_none_iff.1 hlast
    dsimp only
    rw [hnone, List.dropLast_nil]
  | some t => exact Store.tokens_remove_last hord hlast

theorem input_eraseCluster (e : Editor) (now : Nat) :
    (e.eraseCluster now).input
      = if e.input = "" then "" else Text.dropLastCluster e.input := by
  rw [eraseCluster]
  by_cases hempty : e.input = ""
  · rw [if_pos (by simp [hempty]), if_pos hempty, hempty]
  · rw [if_neg (by simpa using hempty), if_neg hempty, input_setInput]

/-- Every press erases from the input what can be erased there. -/
theorem input_backspace (e : Editor) (now : Nat) :
    (e.handle (.key .backspace) now).input
      = if e.input = "" then "" else Text.dropLastCluster e.input := by
  rw [handle, handleKey]
  split
  · rw [input_eraseCluster, input_removeLast]
  · exact e.input_eraseCluster now

theorem erases_backspace {e : Editor} (hord : e.store.Ordered) (now : Nat) :
    e.Erases (e.handle (.key .backspace) now) := by
  refine ⟨?_, ?_, ?_, ?_⟩
  · intro hvisible
    rw [handle, handleKey, if_neg (by simpa using hvisible)]
    exact e.store_eraseCluster now
  · intro hblank
    rw [handle, handleKey, if_pos (by simp [hblank]), store_eraseCluster, tokens_removeLast hord]
  · intro hempty
    rw [input_backspace, if_pos hempty]
  · intro hfilled
    rw [input_backspace, if_neg hfilled]
    exact Text.shedsCluster_dropLastCluster hfilled

/-- Where there is neither text nor token, a press changes nothing at all. -/
theorem backspace_of_nothing {e : Editor} (hinput : e.input = "") (htokens : e.store.tokens = [])
    (now : Nat) : e.handle (.key .backspace) now = e := by
  have hlast : e.store.last? = none := by
    rw [Store.last?, htokens, List.getLast?_nil]
  have hkept : e.removeLast = e := by
    rw [removeLast, hlast]
  rw [handle, handleKey, if_pos (by rw [hinput]; rfl), hkept, eraseCluster,
    if_pos (by rw [hinput]; rfl)]

/-! ## Many presses -/

/-- What is left to erase: characters of the input and tokens of the formula. -/
def remaining (e : Editor) : Nat := e.input.length + e.store.tokens.length

theorem remaining_eq_zero_iff {e : Editor} :
    e.remaining = 0 ↔ e.input = "" ∧ e.store.tokens = [] := by
  rw [remaining, Nat.add_eq_zero_iff, List.length_eq_zero_iff, ← String.length_toList,
    List.length_eq_zero_iff, String.toList_eq_nil_iff]

/-- A press makes less of what is left. -/
theorem Erases.remaining_le {e after : Editor} (h : e.Erases after) :
    after.remaining ≤ e.remaining - 1 := by
  by_cases hempty : e.input = ""
  · -- an empty input is blank, so that a token goes if there is one
    have htokens := h.blank (by rw [hempty]; rfl)
    rw [remaining, remaining, h.empty hempty, hempty, htokens, List.length_dropLast,
      String.length_empty]
    omega
  · obtain ⟨cluster, hsheds⟩ := h.input hempty
    have hshorter := hsheds.length_lt
    have hformula : after.store.tokens.length ≤ e.store.tokens.length := by
      by_cases hblank : Text.trim e.input = ""
      · rw [h.blank hblank, List.length_dropLast]
        omega
      · exact Nat.le_of_eq (congrArg (·.tokens.length) (h.visible hblank))
    rw [remaining, remaining]
    omega

/-- Whether something that happened is an event. -/
def Happening.isEvent : Happening → Bool
  | .event _ _ => true
  | _ => false

/-- The only event of a run is Backspace, at any times. -/
def OnlyBackspace (happenings : List Happening) : Prop :=
  ∀ event now, .event event now ∈ happenings → event = .key .backspace

theorem remaining_step_le {e : Editor} (hord : e.store.Ordered) {x : Happening}
    (honly : ∀ event now, x = .event event now → event = .key .backspace) :
    (e.step x).remaining ≤ e.remaining - if x.isEvent then 1 else 0 := by
  cases x with
  | event event now =>
    rw [honly event now rfl]
    exact (erases_backspace hord now).remaining_le
  | tick now =>
    show (e.tick now).input.length + (e.tick now).store.tokens.length ≤ e.remaining
    rw [input_tick, store_tick]
    exact Nat.le_refl _
  | release => exact Nat.le_refl _
  | die => exact Nat.le_refl _
  | replace source => exact Nat.le_refl _

/-- Every press of a run counts, whatever happens in between. -/
theorem remaining_run_le {e : Editor} (hord : e.store.Ordered) {happenings : List Happening}
    (honly : OnlyBackspace happenings) :
    (e.run happenings).remaining ≤ e.remaining - happenings.countP Happening.isEvent := by
  induction happenings generalizing e with
  | nil => exact Nat.le_refl _
  | cons x rest ih =>
    have hfirst := remaining_step_le hord (x := x) fun event now heq =>
      honly event now (heq ▸ List.mem_cons_self ..)
    have hrest := ih (hord.change (e.step_edit x).change) fun event now hmem =>
      honly event now (List.mem_cons_of_mem _ hmem)
    show ((e.step x).run rest).remaining ≤ _
    rw [List.countP_cons]
    omega

/-- In every run of an editor over any service, Backspace on a visible input takes the last
    cluster off the input and leaves the formula alone; on a blank input it takes off the
    last token and the last cluster of the input, as far as there are any. Input and
    formula are empty after as many presses as there are characters and tokens, at any
    times and whatever time and lookups do in between, and further presses change
    nothing. -/
theorem backspace_walks_back (service : Service) (debounce start : Nat)
    (happenings : List Happening) :
    let e := (Editor.new service debounce start).run happenings
    (∀ now, e.Erases (e.handle (.key .backspace) now))
    ∧ (∀ presses, OnlyBackspace presses →
        e.input.length + e.store.tokens.length ≤ presses.countP Happening.isEvent →
        (e.run presses).input = "" ∧ (e.run presses).store.tokens = [])
    ∧ (e.input = "" → e.store.tokens = [] → ∀ now, e.handle (.key .backspace) now = e) := by
  intro e
  have hord : e.store.Ordered := ordered_run (e := Editor.new service debounce start) .empty _
  refine ⟨erases_backspace hord, ?_, backspace_of_nothing⟩
  intro presses honly henough
  have hleft := remaining_run_le hord honly
  have hall : e.remaining ≤ presses.countP Happening.isEvent := henough
  exact remaining_eq_zero_iff.1 (by omega)

/-- The formula is "12 +", and an e with an accent and a blank are typed behind it. -/
def accented : Editor :=
  (Editor.new (Service.new (.fixed []) (.empty 1000 100) .inline) 300 0).run
    [.event (.inputChanged "12") 0, .event (.key .enter) 10, .event (.inputChanged "+") 20,
      .event (.key .enter) 30, .event (.inputChanged "e\u0301 ") 40]

/-- The letter and its accent go in one press, so one of the five presses is to spare. -/
theorem backspace_walks_back_over_accent :
    let press : Nat → Happening := .event (.key .backspace)
    let presses := [press 50, .tick 400, press 410, press 420, .release, press 430, press 440]
    accented.input = "e\u0301 "
    ∧ accented.store.tokens.map (·.value) = ["12", "+"]
    ∧ (accented.handle (.key .backspace) 50).input = "e\u0301"
    ∧ OnlyBackspace presses
    ∧ (accented.run presses).input = "" ∧ (accented.run presses).store.tokens = [] := by
  intro press presses
  have hinput : accented.input = "e\u0301 " := by
    rfl
  have htokens : accented.store.tokens.map (·.value) = ["12", "+"] := by
    rfl
  have hfirst : (accented.handle (.key .backspace) 50).input = "e\u0301" := by
    decide +kernel
  have honly : OnlyBackspace presses := by
    intro event now hmem
    simp only [presses, press, List.mem_cons, List.not_mem_nil, Happening.event.injEq,
      reduceCtorEq, or_false, false_or] at hmem
    rcases hmem with h | h | h | h | h <;> exact h.1
  refine ⟨hinput, htokens, hfirst, honly, ?_⟩
  obtain ⟨-, hwalks, -⟩ := backspace_walks_back
    (Service.new (.fixed []) (.empty 1000 100) .inline) 300 0
    [.event (.inputChanged "12") 0, .event (.key .enter) 10, .event (.inputChanged "+") 20,
      .event (.key .enter) 30, .event (.inputChanged "e\u0301 ") 40]
  -- three characters and two tokens
  have hempty := hwalks presses honly (by decide +kernel)
  rw [accented]
  exact hempty

end TagCalc.Editor
