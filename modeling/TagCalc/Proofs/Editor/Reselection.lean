/-
  TagCalc.Proofs.Editor.Reselection

  Resolving tags again. What a step can do to the mode and to the tag being
  resolved is said once, for events in `handle_refocus`; time and the surroundings
  leave both alone (`resolving_tick`). A candidate is applied by its name: the tag
  takes the name and the first suggestion that has it (`applyCandidate_retags_selected`).
-/

import TagCalc.Proofs.Editor.Alternation

namespace TagCalc

/-! ## Selections -/

theorem cycle_lt {current : Option Nat} {direction : Direction} {count i : Nat}
    (h : cycle current direction count = some i) : i < count := by
  unfold cycle at h
  by_cases hzero : count = 0
  · rw [if_pos hzero] at h
    cases h
  · rw [if_neg hzero] at h
    have hpos : 0 < count := Nat.pos_of_ne_zero hzero
    cases current with
    | some j =>
      cases direction with
      | next =>
        rw [← Option.some.inj h]
        exact Nat.mod_lt _ hpos
      | previous =>
        rw [← Option.some.inj h]
        exact Nat.mod_lt _ hpos
    | none =>
      cases direction with
      | next =>
        rw [← Option.some.inj h]
        exact hpos
      | previous =>
        rw [← Option.some.inj h]
        exact Nat.sub_one_lt hzero

theorem firstIndex?_lt {α : Type} {xs : List α} {i : Nat} (h : firstIndex? xs = some i) :
    i < xs.length := by
  cases xs with
  | nil => cases h
  | cons x rest =>
    cases Option.some.inj h
    exact Nat.zero_lt_succ _

namespace Editor

/-- The candidate that a tag starts from is one of the full list. -/
theorem candidateFor_lt {e : Editor} {id i : Nat} (h : e.candidateFor id = some i) :
    i < e.catalog.length := by
  rw [candidateFor] at h
  rcases Option.or_eq_some_iff.1 h with hnamed | ⟨-, hfirst⟩
  · obtain ⟨t, -, hindex⟩ := Option.bind_eq_some_iff.1 hnamed
    exact (List.findIdx?_eq_some_iff_getElem.1 hindex).1
  · exact firstIndex?_lt hfirst

/-! ## Steps that leave the tag being resolved alone -/

/-- The mode and the tag being resolved. -/
def resolving (e : Editor) : Mode × Option Reselection := (e.mode, e.reselection)

theorem resolving_desk (e : Editor) : (e.desk.mode, e.desk.reselection) = e.resolving := rfl

@[simp] theorem resolving_setInput (e : Editor) (input : String) (now : Nat) :
    (e.setInput input now).resolving = e.resolving := by
  rw [← resolving_desk, desk_setInput]
  rfl

@[simp] theorem resolving_typeChar (e : Editor) (c : Char) (now : Nat) :
    (e.typeChar c now).resolving = e.resolving := by
  rw [typeChar, resolving_setInput]

@[simp] theorem resolving_eraseCluster (e : Editor) (now : Nat) :
    (e.eraseCluster now).resolving = e.resolving := by
  rw [eraseCluster]
  split
  · rfl
  · rw [resolving_setInput]

@[simp] theorem resolving_removeLast (e : Editor) : e.removeLast.resolving = e.resolving := by
  rw [removeLast_frame]
  rfl

@[simp] theorem resolving_pick (e : Editor) (s : Suggestion) :
    (e.pick s).resolving = e.resolving := by
  rw [pick]
  split <;> rfl

@[simp] theorem resolving_handleKey (e : Editor) (k : EditKey) (now : Nat) :
    (e.handleKey k now).resolving = e.resolving := by
  rcases e.handleKey_cases k now with
    ⟨-, heq⟩ | ⟨-, -, heq⟩ | ⟨-, -, heq⟩ | ⟨-, heq⟩ | ⟨-, -, -, heq⟩
  · rw [heq]
  · rw [heq, resolving_eraseCluster, resolving_removeLast]
  · rw [heq, resolving_eraseCluster]
  · rw [heq, resolving_typeChar]
  · rw [heq]
    rfl

@[simp] theorem resolving_retag (e : Editor) (id : Nat) (name : String) :
    (e.retag id name).resolving = e.resolving := by
  rw [retag_frame]
  rfl

@[simp] theorem resolving_tick (e : Editor) (now : Nat) :
    (e.tick now).resolving = e.resolving :=
  congrArg (fun d : Desk => (d.mode, d.reselection)) (e.desk_tick now)

/-! ## What an event does to the tag being resolved -/

/-- Leaving: no tag is resolved, and the mode for it ends. -/
def left (e : Editor) : Mode × Option Reselection :=
  (if e.mode = .reselecting then .editing else e.mode, none)

/-- What an event can do to the mode and the tag being resolved: nothing, the end
    of resolving, a tag of the formula with the candidate it starts from, another
    candidate, or the end of all. -/
inductive Refocus (e : Editor) : Mode × Option Reselection → Prop where
  | same : Refocus e e.resolving
  | leave : Refocus e e.left
  | focus (id : Nat) (tag : id ∈ e.tagIds) :
      Refocus e (.reselecting, some ⟨id, e.candidateFor id⟩)
  | candidate (r : Reselection) (direction : Direction) (opened : e.reselection = some r) :
      Refocus e
        (e.mode, some { r with candidate := cycle r.candidate direction e.catalog.length })
  | quit : Refocus e (.quit, e.reselection)

@[simp] theorem resolving_applyCandidate (e : Editor) : e.applyCandidate.resolving = e.left := by
  rw [applyCandidate]
  split
  · rename_i id name _
    have hmode : (e.retag id name).mode = e.mode := congrArg Prod.fst (e.resolving_retag id name)
    show (if (e.retag id name).mode = .reselecting then Mode.editing else (e.retag id name).mode,
      (none : Option Reselection)) = e.left
    rw [hmode, left]
  · rfl

theorem beginReselect_refocus (e : Editor) : Refocus e e.beginReselect.resolving := by
  rw [beginReselect]
  split
  · rename_i id hlast
    exact .focus id (List.mem_of_getLast? hlast)
  · exact .same

theorem moveFocus_refocus (e : Editor) (direction : Direction) :
    Refocus e (e.moveFocus direction).resolving := by
  rw [moveFocus]
  split
  · exact .same
  · split
    · exact .leave
    · split
      · rename_i id hnext
        obtain ⟨_, -, hid⟩ := Option.bind_eq_some_iff.1 hnext
        exact .focus id (List.mem_of_getElem? hid)
      · exact .same

theorem moveCandidate_refocus (e : Editor) (direction : Direction) :
    Refocus e (e.moveCandidate direction).resolving := by
  rw [moveCandidate, resolving]
  cases hr : e.reselection with
  | none =>
    have hsame : (e.mode, (none : Option Reselection)) = e.resolving := by rw [resolving, hr]
    rw [Option.map_none, hsame]
    exact .same
  | some r => exact .candidate r direction hr

theorem handle_refocus (e : Editor) (event : Event) (now : Nat) :
    Refocus e (e.handle event now).resolving := by
  cases event with
  | inputChanged text =>
    simp only [handle, resolving_setInput]
    exact .same
  | typeChar c =>
    simp only [handle, resolving_typeChar]
    exact .same
  | key k =>
    simp only [handle, resolving_handleKey]
    exact .same
  | picked s =>
    simp only [handle, resolving_pick]
    exact .same
  | pickHighlighted =>
    simp only [handle]
    split
    · rw [resolving_pick]
      exact .same
    · exact .same
  | highlightNext => exact .same
  | highlightPrevious => exact .same
  | reselect id name =>
    simp only [handle, resolving_retag]
    exact .same
  | beginReselect => exact e.beginReselect_refocus
  | focusNextTag => exact e.moveFocus_refocus .next
  | focusPreviousTag => exact e.moveFocus_refocus .previous
  | candidateNext => exact e.moveCandidate_refocus .next
  | candidatePrevious => exact e.moveCandidate_refocus .previous
  | applyCandidate =>
    simp only [handle, resolving_applyCandidate]
    exact .leave
  | cancel =>
    simp only [handle]
    split
    · exact .leave
    · exact .same
  | clear => exact .leave
  | quit => exact .quit

/-! ## Applying a candidate -/

theorem chosen?_eq {e : Editor} {r : Reselection} {i : Nat} {s : Suggestion}
    (hr : e.reselection = some r) (hi : r.candidate = some i) (hs : e.catalog[i]? = some s) :
    e.chosen? = some (r.tokenId, s.name) := by
  simp [chosen?, hr, hi, hs]

theorem applyCandidate_eq {e : Editor} {r : Reselection} {i : Nat} {s : Suggestion}
    (hr : e.reselection = some r) (hi : r.candidate = some i) (hs : e.catalog[i]? = some s) :
    e.applyCandidate = (e.retag r.tokenId s.name).endReselect := by
  rw [applyCandidate, chosen?_eq hr hi hs]

/-- A tag takes a name that is not empty, with the first suggestion of this name. -/
theorem tokens_retag {e : Editor} (hord : e.store.Ordered) {k : Nat} {t : Token}
    (hk : e.store.tokens[k]? = some t) (htag : t.kind = .tag) {name : String} (hname : name ≠ "") :
    (e.retag t.id name).store.tokens
      = e.store.tokens.set k
          { t with value := name, suggestion := e.catalog.find? (·.name == name) } := by
  have hretag : e.retag t.id name
      = { e with store := e.store.update t.id name (e.catalog.find? (·.name == name)) } := by
    rw [retag, if_neg (by simpa using hname), hord.get?_id hk]
    exact if_pos htag
  rw [hretag, hord.tokens_update hk, Store.retag, Store.carried, if_pos htag]

/-- Of entries that share a name, the search by this name finds the first one. -/
theorem find?_name {catalog : Catalog} {i : Nat} {s : Suggestion} (hs : catalog[i]? = some s) :
    ∃ u ∈ catalog, catalog.find? (·.name == s.name) = some u ∧ u.name = s.name
      ∧ ((∀ j v, j < i → catalog[j]? = some v → v.name ≠ s.name) → u = s) := by
  have hsome : (catalog.find? (·.name == s.name)).isSome = true :=
    List.find?_isSome.2 ⟨s, List.mem_of_getElem? hs, beq_self_eq_true _⟩
  obtain ⟨u, hu⟩ := Option.isSome_iff_exists.1 hsome
  refine ⟨u, List.mem_of_find?_eq_some hu, hu, by simpa using List.find?_some hu, ?_⟩
  intro hfirst
  obtain ⟨hlt, heq⟩ := List.getElem?_eq_some_iff.1 hs
  have hfound : catalog.find? (·.name == s.name) = some s := by
    rw [List.find?_eq_some_iff_getElem]
    refine ⟨beq_self_eq_true _, i, hlt, heq, ?_⟩
    intro j hj
    have hother := hfirst j catalog[j] hj (List.getElem?_eq_getElem _)
    simpa using hother
  exact Option.some.inj (hu.symm.trans hfound)

/-- Applying the candidate chosen for a tag of the formula gives the tag the
    candidate's name, and a suggestion of this name: the candidate itself, unless
    an entry before it has the same name. The tag keeps its id, its kind and its
    place, and no other token changes. A name that is empty changes nothing. In
    both cases resolving ends. -/
theorem applyCandidate_retags_selected (service : Service) (debounce start : Nat)
    (happenings : List Happening) (now : Nat) :
    let e := (Editor.new service debounce start).run happenings
    let after := e.handle .applyCandidate now
    ∀ r i s k t, e.reselection = some r → r.candidate = some i → e.catalog[i]? = some s →
      e.store.tokens[k]? = some t → t.id = r.tokenId → t.kind = .tag →
      (s.name ≠ "" → ∃ u ∈ e.catalog,
          after.store.tokens
            = e.store.tokens.set k { t with value := s.name, suggestion := some u }
          ∧ u.name = s.name
          ∧ ((∀ j v, j < i → e.catalog[j]? = some v → v.name ≠ s.name) → u = s))
      ∧ (s.name = "" → after.store = e.store)
      ∧ after.reselection = none ∧ after.mode ≠ .reselecting := by
  intro e after r i s k t hr hi hs hk hid htag
  have hord : e.store.Ordered := (run_ordered_alternating (e := Editor.new service debounce start)
    .empty .nil happenings).1
  have hafter : after = (e.retag t.id s.name).endReselect := by
    rw [hid]
    exact applyCandidate_eq hr hi hs
  have hleft : after.resolving = e.left := e.resolving_applyCandidate
  refine ⟨?_, ?_, congrArg Prod.snd hleft, ?_⟩
  · intro hname
    obtain ⟨u, hmem, hfound, hsame, hfirst⟩ := find?_name hs
    refine ⟨u, hmem, ?_, hsame, hfirst⟩
    have htokens := tokens_retag hord hk htag hname
    rw [hfound] at htokens
    rw [hafter]
    exact htokens
  · intro hname
    rw [hafter, retag, if_pos (by simpa using hname)]
    rfl
  · have hmode : after.mode = if e.mode = .reselecting then .editing else e.mode :=
      congrArg Prod.fst hleft
    rw [hmode]
    split
    · decide
    · assumption

/-- An editor that knows two suggestions: it has a tag for the first, and the second
    is chosen for this tag. -/
def secondChosen (first second : Suggestion) : Editor :=
  (Editor.new (Service.new (.fixed [first, second]) (.empty 1000 100) .inline) 300 0).run
    [.event (.picked first) 0, .event .beginReselect 0, .event .candidateNext 0]

/-- The second of two suggestions of different names is applied. -/
theorem applyCandidate_retags_selected_second :
    let rent : Suggestion := ⟨"1", "Rent", "housing", .text "900"⟩
    let food : Suggestion := ⟨"2", "Food", "groceries", .text "150"⟩
    let e := secondChosen rent food
    e.reselection = some ⟨1, some 1⟩ ∧ e.catalog[1]? = some food
    ∧ e.store.tokens[0]? = some ⟨1, "Rent", .tag, some rent⟩
    ∧ (e.handle .applyCandidate 5).store.tokens = [⟨1, "Food", .tag, some food⟩] := by
  intro rent food e
  have hr : e.reselection = some ⟨1, some 1⟩ := rfl
  have hs : e.catalog[1]? = some food := rfl
  have hk : e.store.tokens[0]? = some ⟨1, "Rent", .tag, some rent⟩ := rfl
  obtain ⟨happly, -⟩ := applyCandidate_retags_selected
    (Service.new (.fixed [rent, food]) (.empty 1000 100) .inline) 300 0
    [.event (.picked rent) 0, .event .beginReselect 0, .event .candidateNext 0] 5
    ⟨1, some 1⟩ 1 food 0 ⟨1, "Rent", .tag, some rent⟩ hr rfl hs hk rfl rfl
  obtain ⟨u, -, htokens, -, hfirst⟩ := happly (by decide)
  have hother : ∀ j v, j < 1 → e.catalog[j]? = some v → v.name ≠ food.name := by
    intro j v hj hv
    obtain rfl : j = 0 := by omega
    cases Option.some.inj hv
    decide
  rw [hfirst hother] at htokens
  exact ⟨hr, hs, hk, htokens⟩

/-- A candidate without a name is not applied, and neither is the second of two
    candidates that share a name: the tag keeps the first one. -/
theorem selected_candidate_not_applied :
    let rent : Suggestion := ⟨"1", "Rent", "housing", .text "900"⟩
    let nameless : Suggestion := ⟨"2", "", "other", .text "5"⟩
    let office : Suggestion := ⟨"3", "Rent", "office", .text "400"⟩
    ((secondChosen rent nameless).reselection = some ⟨1, some 1⟩
      ∧ (secondChosen rent nameless).catalog[1]? = some nameless
      ∧ ((secondChosen rent nameless).handle .applyCandidate 0).store.tokens
          = [⟨1, "Rent", .tag, some rent⟩]
      ∧ some rent ≠ some nameless)
    ∧ (secondChosen rent office).reselection = some ⟨1, some 1⟩
    ∧ (secondChosen rent office).catalog[1]? = some office
    ∧ ((secondChosen rent office).handle .applyCandidate 0).store.tokens
        = [⟨1, "Rent", .tag, some rent⟩]
    ∧ some rent ≠ some office := by
  intro rent nameless office
  refine ⟨⟨rfl, rfl, rfl, ?_⟩, rfl, rfl, rfl, ?_⟩
  · intro h
    have hid : "1" = "2" := congrArg Suggestion.id (Option.some.inj h)
    exact absurd hid (by decide)
  · intro h
    have hid : "1" = "3" := congrArg Suggestion.id (Option.some.inj h)
    exact absurd hid (by decide)

end Editor

end TagCalc
