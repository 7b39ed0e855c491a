/-
  TagCalc.Proofs.Editor.Preselection

  Where resolving a tag again starts. A tag starts from the first entry of exactly its
  name, or from the first of all when no entry has it (`startFor?`), and to apply the
  candidate at once gives the tag this entry (`tokens_begin_apply`). A tag that was typed
  may differ from its suggestion in case, so it need not start from its own suggestion.
-/

import TagCalc.Proofs.Editor.Reselection
import TagCalc.Proofs.Formula.Evaluation

namespace TagCalc

/-! ## The entry a tag starts from -/

/-- The entry that a tag of some name starts from when it is resolved again: the first
    entry of exactly this name, or the first of all. -/
def Catalog.startFor? (c : Catalog) (name : String) : Option Suggestion :=
  (c.find? (·.name == name)).or c.head?

/-- Of the entries of its own name, the entry a tag starts from is the first. -/
theorem Catalog.find?_name_of_startFor? {c : Catalog} {name : String} {s : Suggestion}
    (h : c.startFor? name = some s) : c.find? (·.name == s.name) = some s := by
  rcases Option.or_eq_some_iff.1 h with hnamed | ⟨-, hfirst⟩
  · have hname : s.name = name := by simpa using List.find?_some hnamed
    rw [hname]
    exact hnamed
  · obtain ⟨rest, rfl⟩ := List.head?_eq_some_iff.1 hfirst
    exact List.find?_cons_of_pos (beq_self_eq_true _)

/-- A tag under the name of an entry, which it then stands for. An empty name is not
    applied. -/
def Token.renamed (t : Token) (s : Suggestion) : Token :=
  if s.name = "" then t else { t with value := s.name, suggestion := some s }

namespace Token

@[simp] theorem kind_renamed (t : Token) (s : Suggestion) : (t.renamed s).kind = t.kind := by
  rw [renamed]
  split <;> rfl

/-- A tag keeps its suggestion when it is renamed to this one, or to none. -/
theorem suggestion_renamed_iff {t : Token} {s : Suggestion} (h : t.suggestion = some s)
    (u : Suggestion) : (t.renamed u).suggestion = some s ↔ u = s ∨ u.name = "" := by
  rw [renamed]
  by_cases hname : u.name = ""
  · rw [if_pos hname]
    exact iff_of_true h (Or.inr hname)
  · rw [if_neg hname]
    constructor
    · intro hsame
      exact Or.inl (Option.some.inj hsame)
    · rintro (rfl | hempty)
      · rfl
      · exact absurd hempty hname

theorem number?_tag {t : Token} (htag : t.kind = .tag) {s : Suggestion}
    (h : t.suggestion = some s) : t.number? = some s.value.toFloat := by
  rw [number?, htag, h]
  rfl

end Token

namespace Editor

/-- The candidate that a tag starts from is that entry. -/
theorem candidateFor_eq {e : Editor} {t : Token} (hget : e.store.get? t.id = some t)
    (hne : e.catalog ≠ []) :
    ∃ i s, e.candidateFor t.id = some i ∧ e.catalog[i]? = some s
      ∧ e.catalog.startFor? t.value = some s := by
  rw [candidateFor, hget, Option.bind_some, Catalog.startFor?,
    List.find?_eq_bind_findIdx?_getElem?]
  cases hindex : e.catalog.findIdx? (·.name == t.value) with
  | some i =>
    obtain ⟨hlt, -⟩ := List.findIdx?_eq_some_iff_getElem.1 hindex
    have hs : e.catalog[i]? = some e.catalog[i] := List.getElem?_eq_getElem hlt
    refine ⟨i, e.catalog[i], rfl, hs, ?_⟩
    rw [Option.bind_some, hs, Option.some_or]
  | none =>
    obtain ⟨s, rest, hcatalog⟩ := List.exists_cons_of_ne_nil hne
    rw [hcatalog]
    exact ⟨0, s, rfl, rfl, rfl⟩

/-- The last tag is the one that is resolved first. -/
theorem tagIds_getLast? {e : Editor} {front rest : List Token} {t : Token}
    (htokens : e.store.tokens = front ++ t :: rest) (htag : t.kind = .tag)
    (hlast : ∀ u ∈ rest, u.kind ≠ .tag) : e.tagIds.getLast? = some t.id := by
  have hrest : rest.filter (·.kind == .tag) = [] := by
    rw [List.filter_eq_nil_iff]
    intro u hu
    simpa using hlast u hu
  rw [tagIds, htokens, List.filter_append, List.filter_cons_of_pos (by simp [htag]), hrest,
    List.map_append, List.map_cons, List.map_nil, List.getLast?_concat]

/-! ## Applying the candidate at once -/

/-- The editor while its last tag is resolved again. -/
theorem handle_beginReselect {e : Editor} {id : Nat} (hlast : e.tagIds.getLast? = some id)
    (now : Nat) :
    e.handle .beginReselect now = { e with dropdownShown := false }.focus id := by
  rw [handle, beginReselect, hlast]

/-- A candidate that is applied at once gives the last tag the entry it starts from. -/
theorem tokens_begin_apply {e : Editor} (hord : e.store.Ordered) {front rest : List Token}
    {t : Token} (htokens : e.store.tokens = front ++ t :: rest) (htag : t.kind = .tag)
    (hlast : ∀ u ∈ rest, u.kind ≠ .tag) (hne : e.catalog ≠ []) (began applied : Nat) :
    ∃ s, e.catalog.startFor? t.value = some s
      ∧ ((e.handle .beginReselect began).handle .applyCandidate applied).store.tokens
        = front ++ t.renamed s :: rest := by
  have hk : e.store.tokens[front.length]? = some t := by rw [htokens]; simp
  obtain ⟨i, s, hi, hs, hstart⟩ := candidateFor_eq (hord.get?_id hk) hne
  refine ⟨s, hstart, ?_⟩
  let opened := { e with dropdownShown := false }.focus t.id
  have happly : opened.applyCandidate = (opened.retag t.id s.name).endReselect :=
    applyCandidate_eq (r := ⟨t.id, e.candidateFor t.id⟩) rfl hi hs
  rw [handle_beginReselect (tagIds_getLast? htokens htag hlast)]
  show opened.applyCandidate.store.tokens = _
  rw [happly, Token.renamed]
  show (opened.retag t.id s.name).store.tokens = _
  by_cases hname : s.name = ""
  · rw [if_pos hname, retag, if_pos (by simpa using hname)]
    exact htokens
  · have hretag : (opened.retag t.id s.name).store.tokens
        = e.store.tokens.set front.length
          { t with value := s.name, suggestion := e.catalog.find? (·.name == s.name) } :=
      tokens_retag (e := opened) hord hk htag hname
    rw [if_neg hname, hretag, Catalog.find?_name_of_startFor? hstart, htokens]
    simp

theorem resolving_begin_apply {e : Editor} {id : Nat} (hlast : e.tagIds.getLast? = some id)
    (began applied : Nat) :
    ((e.handle .beginReselect began).handle .applyCandidate applied).resolving
      = (.editing, none) := by
  rw [handle_beginReselect hlast]
  show ({ e with dropdownShown := false }.focus id).applyCandidate.resolving = _
  rw [resolving_applyCandidate]
  rfl

/-- To begin resolving the last tag again and to apply the candidate at once leaves the
    tag with the entry that it starts from: the first of exactly its name, or the first
    of all. All other tokens stay as they are. So the tag keeps its suggestion just when
    it starts from it, or from an entry without a name, and the result stays with it. A
    tag that has the name of its suggestion as it is written, the first of this name in
    the full list, always does. -/
theorem begin_apply_gives_start (service : Service) (debounce start : Nat)
    (happenings : List Happening) (began applied : Nat) :
    let e := (Editor.new service debounce start).run happenings
    let after := (e.handle .beginReselect began).handle .applyCandidate applied
    ∀ front t rest s, e.store.tokens = front ++ t :: rest → t.kind = .tag →
      (∀ u ∈ rest, u.kind ≠ .tag) → t.suggestion = some s → s ∈ e.catalog →
      ∃ u, e.catalog.startFor? t.value = some u
        ∧ after.store.tokens = front ++ t.renamed u :: rest
        ∧ ((t.renamed u).suggestion = some s ↔ u = s ∨ u.name = "")
        ∧ ((t.renamed u).suggestion = some s → after.result = e.result)
        ∧ (t.value = s.name → e.catalog.find? (·.name == s.name) = some s →
          (t.renamed u).suggestion = some s)
        ∧ after.mode = .editing ∧ after.reselection = none := by
  intro e after front t rest s htokens htag hlast hs hmem
  have hord : e.store.Ordered := ordered_run (e := Editor.new service debounce start) .empty _
  have hne : e.catalog ≠ [] := List.ne_nil_of_mem hmem
  obtain ⟨u, hstart, hafter⟩ := tokens_begin_apply hord htokens htag hlast hne began applied
  have hresolving := resolving_begin_apply (tagIds_getLast? htokens htag hlast) began applied
  refine ⟨u, hstart, hafter, Token.suggestion_renamed_iff hs u, ?_, ?_,
    congrArg Prod.fst hresolving, congrArg Prod.snd hresolving⟩
  · intro hkept
    have hvalue := Token.number?_tag ((t.kind_renamed u).trans htag) hkept
    rw [result, result, show after.store.tokens = _ from hafter, htokens]
    exact evaluate_replace_value (Token.number?_tag htag hs) hvalue (t.kind_renamed u) front rest
  · intro hname hfirst
    rw [Catalog.startFor?, hname, hfirst, Option.some_or, Option.some.injEq] at hstart
    exact (Token.suggestion_renamed_iff hs u).2 (Or.inl hstart.symm)

def water : Suggestion := ⟨"1", "Water", "housing", .text "40"⟩

def rent : Suggestion := ⟨"2", "Rent", "housing", .text "900"⟩

def office : Suggestion := ⟨"3", "Rent", "office", .text "400"⟩

/-- An editor over three suggestions, of which the last two have one name. -/
def overTwoRents : Editor :=
  Editor.new (Service.new (.fixed [water, rent, office]) (.empty 1000 100) .inline) 300 0

/-- A tag that is picked for the second entry, before an operator. -/
def pickedRent : Editor :=
  overTwoRents.run
    [.event (.picked rent) 0, .event (.inputChanged "+") 0, .event (.key .enter) 0]

/-- The picked tag starts from its own entry and keeps it. -/
theorem begin_apply_gives_start_second :
    pickedRent.store.tokens = [⟨1, "Rent", .tag, some rent⟩, ⟨2, "+", .operand, none⟩]
    ∧ rent ∈ pickedRent.catalog
    ∧ ((pickedRent.handle .beginReselect 10).handle .applyCandidate 20).store.tokens
      = pickedRent.store.tokens
    ∧ ((pickedRent.handle .beginReselect 10).handle .applyCandidate 20).result
      = pickedRent.result := by
  have htokens : pickedRent.store.tokens
      = [] ++ ⟨1, "Rent", .tag, some rent⟩ :: [⟨2, "+", .operand, none⟩] := by
    rfl
  have hmem : rent ∈ pickedRent.catalog :=
    List.mem_cons_of_mem _ (List.mem_cons_self ..)
  have hlast : ∀ u ∈ [(⟨2, "+", .operand, none⟩ : Token)], u.kind ≠ .tag := by
    intro u hu
    rw [List.mem_singleton.1 hu]
    decide
  obtain ⟨u, hstart, hafter, -, hresult, hkept, -⟩ :=
    begin_apply_gives_start
      (.new (.fixed [water, rent, office]) (.empty 1000 100) .inline) 300 0
      [.event (.picked rent) 0, .event (.inputChanged "+") 0, .event (.key .enter) 0] 10 20
      [] ⟨1, "Rent", .tag, some rent⟩ [⟨2, "+", .operand, none⟩] rent htokens rfl hlast rfl hmem
  have hrent : pickedRent.catalog.startFor? "Rent" = some rent := by rfl
  obtain rfl : rent = u := Option.some.inj (hrent.symm.trans hstart)
  exact ⟨htokens, hmem, hafter.trans htokens.symm, hresult (hkept rfl (by rfl))⟩

/-- A tag that is typed in another case than the name of its suggestion. -/
def typedRent : Editor :=
  overTwoRents.run [.event (.inputChanged "rent") 0, .event (.key .enter) 0]

/-- A tag that is picked for the second entry of its name. -/
def pickedOffice : Editor :=
  overTwoRents.run [.event (.picked office) 0]

/-- The typed tag starts from the first entry of all, and the other one from the first
    entry of its name: each takes an entry that it did not stand for. -/
theorem begin_apply_changes_suggestion :
    (typedRent.mode = .editing
      ∧ typedRent.store.tokens = [⟨1, "rent", .tag, some rent⟩] ∧ rent ∈ typedRent.catalog
      ∧ ((typedRent.handle .beginReselect 0).handle .applyCandidate 0).store.tokens
        = [⟨1, "Water", .tag, some water⟩]
      ∧ water ≠ rent)
    ∧ pickedOffice.mode = .editing
    ∧ pickedOffice.store.tokens = [⟨1, "Rent", .tag, some office⟩] ∧ office ∈ pickedOffice.catalog
    ∧ ((pickedOffice.handle .beginReselect 0).handle .applyCandidate 0).store.tokens
      = [⟨1, "Rent", .tag, some rent⟩]
    ∧ rent ≠ office := by
  have hrent : rent ∈ typedRent.catalog := List.mem_cons_of_mem _ (List.mem_cons_self ..)
  have hoffice : office ∈ pickedOffice.catalog :=
    List.mem_cons_of_mem _ (List.mem_cons_of_mem _ (List.mem_cons_self ..))
  have hids : water.id ≠ rent.id ∧ rent.id ≠ office.id := by decide
  refine ⟨⟨by rfl, by rfl, hrent, by rfl, ?_⟩, by rfl, by rfl, hoffice, by rfl, ?_⟩
  · intro hsame
    exact hids.1 (congrArg Suggestion.id hsame)
  · intro hsame
    exact hids.2 (congrArg Suggestion.id hsame)

end Editor

end TagCalc
