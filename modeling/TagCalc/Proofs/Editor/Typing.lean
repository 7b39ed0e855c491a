/-
  TagCalc.Proofs.Editor.Typing

  Typing a text character by character against replacing the input once. An input gives
  up the active query when its own query is another one. While characters are appended
  the query only grows, so a query that was given up does not come back, and the inputs
  in between are forgotten (`Prompt.edited_edited`).
-/

import TagCalc.Proofs.Editor.Staleness

namespace TagCalc

/-! ## Two inputs in a row -/

/-- Of two inputs, each of which appends to the text before it, only the second one
    matters. -/
theorem Prompt.edited_edited {log : List Fetched} {p : Prompt} (h : p.Agrees log)
    {middle last : String} (hmiddle : p.input.toList <+: middle.toList)
    (hlast : middle.toList <+: last.toList) (before due : Nat) :
    (p.edited middle before).edited last due = p.edited last due := by
  by_cases hquery : queryOf last = ""
  · rw [edited_of_no_query hquery, edited_of_no_query hquery]
  · by_cases hblank : queryOf middle = ""
    · -- without a query nothing was shown before either, so nothing is lost
      have hfirst : queryOf p.input = "" := by
        have hle := prefix_queryOf hmiddle
        rw [hblank] at hle
        exact String.toList_inj.1 (List.prefix_nil.1 hle)
      obtain ⟨hsuggestions, hhighlighted, -, -⟩ := h.quiet hfirst
      have hgiven : (p.edited middle before).active ≠ some (queryOf last) := by
        rw [edited_of_no_query hblank]
        exact nofun
      have hother : p.active ≠ some (queryOf last) := by
        intro hactive
        obtain ⟨hsame, hne⟩ := h.active _ hactive
        exact hne (hsame.trans hfirst)
      rw [edited_of_other hquery hgiven, edited_of_other hquery hother,
        edited_of_no_query hblank, hsuggestions, hhighlighted]
    · by_cases hactive : p.active = some (queryOf middle)
      · -- the active query outlives the first input, so the second one finds it as it was
        have hkept : (p.edited middle before).active = p.active := by
          rw [edited_of_active hblank hactive]
        by_cases hstays : p.active = some (queryOf last)
        · rw [edited_of_active hquery (hkept.trans hstays), edited_of_active hquery hstays,
            edited_of_active hblank hactive]
        · have hgiven : (p.edited middle before).active ≠ some (queryOf last) := by
            rw [hkept]
            exact hstays
          rw [edited_of_other hquery hgiven, edited_of_other hquery hstays,
            edited_of_active hblank hactive]
      · have hgiven : (p.edited middle before).active ≠ some (queryOf last) := by
          rw [edited_of_other hblank hactive]
          exact nofun
        -- if the active query were the last one, it would be that of the first input too
        have hother : p.active ≠ some (queryOf last) := by
          intro hback
          obtain ⟨hsame, -⟩ := h.active _ hback
          have hbetween := queryOf_eq_of_between hmiddle hlast hsame
          rw [hbetween, ← hsame] at hactive
          exact hactive hback
        rw [edited_of_other hquery hgiven, edited_of_other hquery hother,
          edited_of_other hblank hactive]

namespace Editor

theorem setInput_setInput {log : List Fetched} {e : Editor} (h : e.prompt.Agrees log)
    {middle last : String} (hmiddle : e.input.toList <+: middle.toList)
    (hlast : middle.toList <+: last.toList) (before now : Nat) :
    (e.setInput middle before).setInput last now = e.setInput last now := by
  have hprompt := Prompt.edited_edited h hmiddle hlast (before + e.debounce) (now + e.debounce)
  calc (e.setInput middle before).setInput last now
      = (e.withPrompt (e.prompt.edited middle (before + e.debounce))).setInput last now := by
        rw [setInput_eq e middle]
    _ = e.withPrompt ((e.prompt.edited middle (before + e.debounce)).edited last
          (now + e.debounce)) := by
        rw [setInput_eq, prompt_withPrompt, debounce_withPrompt, withPrompt_withPrompt]
    _ = e.setInput last now := by rw [hprompt, ← setInput_eq]

/-! ## Typing -/

/-- Types characters in order, each at its own time. -/
def typeAll (e : Editor) (typed : List (Char × Nat)) : Editor :=
  typed.foldl (fun e key => e.handle (.typeChar key.1) key.2) e

/-- The characters typed, as a text. -/
def textOf (typed : List (Char × Nat)) : String := String.ofList (typed.map (·.1))

theorem typeAll_cons (e : Editor) (key : Char × Nat) (rest : List (Char × Nat)) :
    e.typeAll (key :: rest) = (e.typeChar key.1 key.2).typeAll rest := by
  rw [typeAll, typeAll, List.foldl_cons, handle]

theorem append_textOf_cons (input : String) (key : Char × Nat) (rest : List (Char × Nat)) :
    input ++ textOf (key :: rest) = input.push key.1 ++ textOf rest := by
  apply String.toList_inj.1
  simp [textOf]

/-- Characters typed one by one leave what their text leaves when it comes at once. -/
theorem typeAll_eq {log : List Fetched} {e : Editor} (h : e.prompt.Agrees log)
    {typed : List (Char × Nat)} (hne : typed ≠ []) :
    e.typeAll typed = e.setInput (e.input ++ textOf typed) (typed.getLast hne).2 := by
  induction typed generalizing e with
  | nil => exact absurd rfl hne
  | cons key rest ih =>
    rw [typeAll_cons, append_textOf_cons]
    by_cases hrest : rest = []
    · subst hrest
      have hpushed : e.input.push key.1 ++ textOf [] = e.input.push key.1 := by
        apply String.toList_inj.1
        simp [textOf]
      rw [hpushed, typeAll, List.foldl_nil, typeChar, List.getLast_singleton]
    · have hinput : (e.typeChar key.1 key.2).input = e.input.push key.1 := input_setInput ..
      have hlater := ih (agrees_typeChar h key.1 key.2) hrest
      rw [hinput] at hlater
      rw [hlater, List.getLast_cons hrest]
      apply setInput_setInput h
      · rw [String.toList_push]
        exact List.prefix_append _ _
      · rw [String.toList_append]
        exact List.prefix_append _ _

/-- In every run, typing the characters of a text in order, each at its own time and with
    no tick in between, leaves the editor as the one event does that appends the whole
    text to the input when its last character is typed. -/
theorem typing_eq_replacing (source : Source) (fullWindow queryWindow : Nat)
    (dispatch : Dispatch) (before : List Service.Move) (debounce start : Nat)
    (happenings : List Happening) (typed : List (Char × Nat)) (hne : typed ≠ []) :
    let idle := Service.new source (.empty fullWindow queryWindow) dispatch
    let e := (Editor.new (idle.run before) debounce start).run happenings
    e.typeAll typed
      = e.handle (.inputChanged (e.input ++ textOf typed)) (typed.getLast hne).2 := by
  intro idle e
  have hidle : (idle.run before).Remembers (idle.handedOut before) :=
    (Service.Remembers.new source fullWindow queryWindow dispatch).run before
  have h := inStep_run (inStep_new hidle debounce start) happenings
  exact typeAll_eq h.prompt hne

def petrol : Suggestion := ⟨"1", "Petrol", "transport", .text "80"⟩

/-- The results for "p" are shown. -/
def shownForP : Editor :=
  (Editor.new (Service.new (.fixed [petrol]) (.empty 1000 100) .inline) 300 0).run
    [.event (.inputChanged "p") 0, .tick 300]

/-- When "e" and a blank are typed behind "p", the lookup of "pe" is due the debounce time
    after the blank. -/
theorem typing_eq_replacing_pe :
    shownForP.suggestions = [petrol]
    ∧ shownForP.typeAll [('e', 310), (' ', 320)] = shownForP.handle (.inputChanged "pe ") 320
    ∧ (shownForP.typeAll [('e', 310), (' ', 320)]).pending = some ("pe", 620) := by
  have hshown : shownForP.suggestions = [petrol] := by
    rfl
  have htyped : [('e', 310), (' ', 320)] ≠ [] := List.cons_ne_nil _ _
  have hwhole : shownForP.input ++ textOf [('e', 310), (' ', 320)] = "pe " := by
    rfl
  have hsame : shownForP.typeAll [('e', 310), (' ', 320)]
      = shownForP.handle (.inputChanged (shownForP.input ++ textOf [('e', 310), (' ', 320)])) 320 :=
    typing_eq_replacing (.fixed [petrol]) 1000 100 .inline [] 300 0
      [.event (.inputChanged "p") 0, .tick 300] [('e', 310), (' ', 320)] htyped
  rw [hwhole] at hsame
  exact ⟨hshown, hsame, by rfl⟩

end Editor

end TagCalc
