/-
  TagCalc.Proofs.Editor.Agreement

  The editor and the list of texts agree on formulas. Texts are entered one after
  the other, each typed and then committed with Enter, while time goes by in
  between. Over a service that fetches inline from a fixed catalog, Enter offers
  the text to the formula (`store_enter`), and so a whole run offers all of them
  (`store_enterAll`) and takes the same ones (`taken_eq`).
-/

import TagCalc.Proofs.Editor.Run
import TagCalc.Proofs.Lookup.FullList

namespace TagCalc

namespace Editor

/-! ## Entering texts -/

/-- A text that is typed and committed, with the times of all ticks before it is
    typed and before it is committed. -/
structure Entry where
  ticksBefore : List Nat
  text : String
  typedAt : Nat
  ticksBetween : List Nat
  enteredAt : Nat

/-- Lets time pass. -/
def ticks (e : Editor) (times : List Nat) : Editor := times.foldl tick e

/-- The editor when the text of an entry stands in the input. -/
def typed (e : Editor) (x : Entry) : Editor :=
  ((e.ticks x.ticksBefore).handle (.inputChanged x.text) x.typedAt).ticks x.ticksBetween

/-- The editor after an entry. -/
def enter (e : Editor) (x : Entry) : Editor := (e.typed x).handle (.key .enter) x.enteredAt

/-- The editor after some entries. -/
def enterAll (e : Editor) (entries : List Entry) : Editor := entries.foldl enter e

/-- Whether Enter changes the formula. -/
def Takes (e : Editor) (x : Entry) : Prop := (e.enter x).store.tokens ≠ (e.typed x).store.tokens

open Classical in
/-- The texts whose Enter changed the formula, in order. -/
noncomputable def taken (e : Editor) (entries : List Entry) : List String :=
  trace enter (fun e x => if e.Takes x then [x.text] else []) e entries

theorem ticks_cons (e : Editor) (now : Nat) (rest : List Nat) :
    e.ticks (now :: rest) = (e.tick now).ticks rest := by
  rw [ticks, ticks, List.foldl_cons]

theorem enterAll_cons (e : Editor) (x : Entry) (rest : List Entry) :
    e.enterAll (x :: rest) = (e.enter x).enterAll rest := by
  rw [enterAll, enterAll, List.foldl_cons]

theorem taken_cons (e : Editor) (x : Entry) (rest : List Entry) [Decidable (e.Takes x)] :
    e.taken (x :: rest) = (if e.Takes x then [x.text] else []) ++ (e.enter x).taken rest := by
  rw [taken, taken, trace_cons]
  congr

/-! ## The catalog at hand -/

/-- The service of an editor knows a catalog, and no other. -/
structure Knows (c : Catalog) (e : Editor) : Prop where
  drawsOn : e.service.DrawsOn (.fixed c)
  hasFullList : e.service.cache.HasFullList

theorem Knows.catalog {c : Catalog} {e : Editor} (h : Knows c e) : e.catalog = c.dedup := by
  rw [Editor.catalog, fullList, h.drawsOn.lastKnown? h.hasFullList, Source.resolve_fixed,
    Option.getD_some]

theorem Knows.handle {c : Catalog} {e : Editor} (h : Knows c e) (event : Event) (now : Nat) :
    Knows c (e.handle event now) := by
  refine ⟨?_, ?_⟩
  · rw [service_handle]
    exact h.drawsOn
  · rw [service_handle]
    exact h.hasFullList

/-- A tick asks and polls, so the source stays. -/
theorem Knows.tick {c : Catalog} {e : Editor} (h : Knows c e) (now : Nat) :
    Knows c (e.tick now) := by
  have hmoved : (e.tick now).service = e.service.run (e.moves (.tick now)) :=
    e.service_step (.tick now)
  refine ⟨?_, ?_⟩
  · rw [hmoved]
    apply h.drawsOn.run
    intro other hmem
    cases eq_replace_of_mem_moves hmem
  · rw [hmoved]
    exact Service.hasFullList_run h.hasFullList _

theorem Knows.ticks {c : Catalog} {e : Editor} (h : Knows c e) (times : List Nat) :
    Knows c (e.ticks times) := by
  induction times generalizing e with
  | nil => exact h
  | cons now rest ih =>
    rw [ticks_cons]
    exact ih (h.tick now)

theorem Knows.typed {c : Catalog} {e : Editor} (h : Knows c e) (x : Entry) :
    Knows c (e.typed x) := ((h.ticks _).handle _ _).ticks _

theorem Knows.enter {c : Catalog} {e : Editor} (h : Knows c e) (x : Entry) :
    Knows c (e.enter x) := (h.typed x).handle _ _

theorem Knows.enterAll {c : Catalog} {e : Editor} (h : Knows c e) (entries : List Entry) :
    Knows c (e.enterAll entries) := by
  induction entries generalizing e with
  | nil => exact h
  | cons x rest ih =>
    rw [enterAll_cons]
    exact ih (h.enter x)

/-- A new editor knows the catalog from the start: it asks for the full list and
    polls before it takes any event. -/
theorem Knows.new {c : Catalog} {service : Service} (hinline : service.Inline)
    (hdraws : service.DrawsOn (.fixed c)) (debounce start : Nat) :
    Knows c (Editor.new service debounce start) := by
  refine ⟨?_, ?_⟩
  · rw [service_new]
    apply hdraws.run
    intro other hmem
    simp [startMoves] at hmem
  · exact hinline.hasFullList start start

/-! ## One entry -/

theorem store_ticks (e : Editor) (times : List Nat) : (e.ticks times).store = e.store := by
  induction times generalizing e with
  | nil => rfl
  | cons now rest ih =>
    rw [ticks_cons, ih, store_tick]

theorem input_ticks (e : Editor) (times : List Nat) : (e.ticks times).input = e.input := by
  induction times generalizing e with
  | nil => rfl
  | cons now rest ih =>
    rw [ticks_cons, ih, input_tick]

theorem store_typed (e : Editor) (x : Entry) : (e.typed x).store = e.store := by
  rw [typed, store_ticks, handle, store_setInput, store_ticks]

theorem input_typed (e : Editor) (x : Entry) : (e.typed x).input = x.text := by
  rw [typed, input_ticks, handle, input_setInput]

/-- Enter offers the input to the formula. -/
theorem store_handle_enter (e : Editor) (now : Nat) :
    (e.handle (.key .enter) now).store = e.store.offer e.catalog e.input := by
  rw [handle, handleKey, Store.offer]
  rw [Store.takes]
  by_cases hempty : (Text.trim e.input).isEmpty = true
  · -- a blank input is left alone
    rw [if_pos hempty, hempty]
    rfl
  · rw [if_neg hempty, eq_false_of_ne_true hempty, commit?_eq]
    have hcommits : commits .enter (classify (Text.trim e.input)) = true := rfl
    rw [hcommits, Bool.not_false]
    by_cases haccepted : (true && e.store.accepts (classify (Text.trim e.input))) = true
    · rw [if_pos haccepted, if_pos haccepted, Option.getD_some]
      rfl
    · rw [if_neg haccepted, if_neg haccepted, Option.getD_none]

theorem store_enter {c : Catalog} {e : Editor} (h : Knows c e) (x : Entry) :
    (e.enter x).store = e.store.offer c.dedup x.text := by
  rw [enter, store_handle_enter, (h.typed x).catalog, store_typed, input_typed]

/-- Enter changes the formula just when the text may come next. -/
theorem takes_iff {c : Catalog} {e : Editor} (h : Knows c e) (x : Entry) :
    e.Takes x ↔ e.store.takes x.text = true := by
  rw [Takes, store_enter h, store_typed]
  constructor
  · intro hchanged
    cases htakes : e.store.takes x.text with
    | true => rfl
    | false =>
      rw [Store.offer_of_not_takes htakes] at hchanged
      exact absurd rfl hchanged
  · intro htakes hsame
    rw [Store.offer_of_takes htakes, Store.withText, Store.tokens_append] at hsame
    -- the tokens got longer
    have hlength := congrArg List.length hsame
    rw [List.length_append, List.length_singleton] at hlength
    omega

/-! ## All entries -/

theorem store_enterAll {c : Catalog} {e : Editor} (h : Knows c e) (entries : List Entry) :
    (e.enterAll entries).store = e.store.offerAll c.dedup (entries.map (·.text)) := by
  induction entries generalizing e with
  | nil => rfl
  | cons x rest ih =>
    rw [enterAll_cons, ih (h.enter x), store_enter h, List.map_cons, Store.offerAll_cons]

theorem taken_eq {c : Catalog} {e : Editor} (h : Knows c e) (entries : List Entry) :
    e.taken entries = e.store.taken c.dedup (entries.map (·.text)) := by
  induction entries generalizing e with
  | nil => rfl
  | cons x rest ih =>
    classical
    rw [taken_cons, List.map_cons, Store.taken_cons, ← store_enter h, ← ih (h.enter x)]
    simp only [takes_iff h x]

/-- The formula of an editor into which texts were entered is the one that the
    texts taken build: it has the same tokens, the same revision and the same
    result. All texts build a formula just when all were taken, and otherwise the
    failure reports the first one that was not. -/
theorem entered_formula_eq_build (c : Catalog) (fullWindow queryWindow : Nat)
    (before : List Service.Move) (debounce start : Nat) (entries : List Entry)
    (stays : ∀ other, .replace other ∉ before) :
    let idle := (Service.new (.fixed c) (.empty fullWindow queryWindow) .inline).run before
    let first := Editor.new idle debounce start
    let last := first.enterAll entries
    let texts := entries.map (·.text)
    (∃ built, Store.build (first.taken entries) c.dedup = .ok built
        ∧ built.tokens = last.store.tokens
        ∧ built.revision = last.store.revision
        ∧ resultText (evaluate built.tokens) = last.snapshot.result)
    ∧ ((∃ built, Store.build texts c.dedup = .ok built) ↔ first.taken entries = texts)
    ∧ ∀ failure, Store.build texts c.dedup = .error failure →
        ∃ x, entries[failure.position]? = some x
          ∧ ¬(first.enterAll (entries.take failure.position)).Takes x
          ∧ ∀ i y, i < failure.position → entries[i]? = some y →
              (first.enterAll (entries.take i)).Takes y := by
  intro idle first last texts
  have hinline : idle.Inline := (Service.Inline.new ..).run before
  have hdraws : idle.DrawsOn (.fixed c) := (Service.DrawsOn.new ..).run stays
  have h : Knows c first := .new hinline hdraws debounce start
  have hlast : last.store = Store.empty.offerAll c.dedup texts := store_enterAll h entries
  have htaken : first.taken entries = Store.empty.taken c.dedup texts := taken_eq h entries
  refine ⟨⟨last.store, ?_, rfl, rfl, rfl⟩, ?_, ?_⟩
  · rw [Store.build, htaken, hlast]
    exact Store.appendTexts_taken ..
  · rw [Store.build, htaken]
    exact Store.appendTexts_eq_ok_iff ..
  · intro failure hfailure
    -- what the prefixes of the texts leave is what the prefixes of the entries leave
    have hprefix : ∀ i, (first.enterAll (entries.take i)).store
        = Store.empty.offerAll c.dedup (texts.take i) := by
      intro i
      rw [store_enterAll h, List.map_take]
      rfl
    obtain ⟨i, raw, hposition, hraw, hskipped, hbefore⟩ := Store.appendTexts_eq_error hfailure
    rw [Nat.zero_add] at hposition
    rw [hposition]
    obtain ⟨x, hx, rfl⟩ : ∃ x, entries[i]? = some x ∧ x.text = raw := by
      rw [List.getElem?_map, Option.map_eq_some_iff] at hraw
      exact hraw
    refine ⟨x, hx, ?_, ?_⟩
    · rw [takes_iff (h.enterAll _), hprefix, hskipped]
      exact Bool.false_ne_true
    · intro j y hj hy
      rw [takes_iff (h.enterAll _), hprefix]
      apply hbefore j y.text hj
      rw [List.getElem?_map, hy, Option.map_some]

/-- After a number, another number is not taken. -/
theorem entered_formula_eq_build_second_number :
    let entries :=
      [⟨[], "2", 0, [150], 200⟩, ⟨[], "3", 210, [], 220⟩, ⟨[230, 5], "+", 240, [], 250⟩]
    let idle := (Service.new (.fixed []) (.empty 1000 100) .inline).run [.poll 0]
    let first := Editor.new idle 150 0
    (∀ other, .replace other ∉ [Service.Move.poll 0])
    ∧ Store.build (entries.map (·.text)) [] = .error (.rejected 1 "3" .number)
    ∧ ¬(first.enterAll (entries.take 1)).Takes ⟨[], "3", 210, [], 220⟩ := by
  intro entries idle first
  have stays : ∀ other, .replace other ∉ [Service.Move.poll 0] := by simp
  have herror : Store.build (entries.map (·.text)) [] = .error (.rejected 1 "3" .number) := rfl
  have hall := entered_formula_eq_build [] 1000 100 [.poll 0] 150 0 entries stays
  obtain ⟨x, hx, hskipped, -⟩ := hall.2.2 _ herror
  cases Option.some.inj hx
  exact ⟨stays, herror, hskipped⟩

end Editor

end TagCalc
