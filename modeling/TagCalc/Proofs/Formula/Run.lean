/-
  TagCalc.Proofs.Formula.Run

  Runs of a store: any operations with any arguments, on ids that are in the formula,
  gone, or never given.

  All ids that the additions of a run returned ascend, and the ids of the formula are
  some of them in the same order (`Issues.run`). So an id stands for one token at most,
  for ever. Every operation leaves the store as it is or counts one revision
  (`counts_perform`), so within a run a revision determines the tokens
  (`tokens_run_of_revision_eq`).
-/

import TagCalc.Proofs.Formula.Store
import TagCalc.Proofs.Trace

namespace TagCalc.Store

/-! ## Operations and runs -/

/-- What can be done to a store. -/
inductive Operation where
  | add (value : String) (kind : Kind) (suggestion : Option Suggestion)
  | remove (id : Nat)
  | update (id : Nat) (value : String) (suggestion : Option Suggestion)
  | clear

/-- The store after an operation. -/
def perform (s : Store) : Operation → Store
  | .add value kind suggestion => s.append value kind suggestion
  | .remove id => s.remove id
  | .update id value suggestion => s.update id value suggestion
  | .clear => s.clear

/-- The id that an operation returns; only an addition returns one. -/
def returns (s : Store) : Operation → List Nat
  | .add _ _ _ => [s.freshId]
  | _ => []

/-- The store after some operations. -/
def run (s : Store) (operations : List Operation) : Store := operations.foldl perform s

/-- The ids returned in a run, in order. -/
def returned (s : Store) (operations : List Operation) : List Nat :=
  trace perform returns s operations

theorem run_append (s : Store) (first second : List Operation) :
    s.run (first ++ second) = (s.run first).run second := List.foldl_append ..

/-! ## Ids -/

/-- The ids returned so far ascend, and those of the formula are some of them, in
    order. -/
structure Issues (log : List Nat) (s : Store) : Prop where
  ids : s.ids.Sublist log
  ascending : log.Pairwise (· < ·)
  le_issued : ∀ id ∈ log, id ≤ s.issued

theorem Issues.ordered {log : List Nat} {s : Store} (h : Issues log s) : s.Ordered :=
  ⟨h.ascending.sublist h.ids, fun id hid => h.le_issued id (h.ids.subset hid)⟩

/-- Tokens may go and change, as long as no id is given. -/
theorem Issues.of_sublist {log : List Nat} {s s' : Store} (h : Issues log s)
    (hsub : s'.ids.Sublist s.ids) (hissued : s'.issued = s.issued) : Issues (log ++ []) s' := by
  rw [List.append_nil]
  exact ⟨hsub.trans h.ids, h.ascending, fun id hid => hissued ▸ h.le_issued id hid⟩

theorem Issues.append {log : List Nat} {s : Store} (h : Issues log s) (value : String)
    (kind : Kind) (suggestion : Option Suggestion) :
    Issues (log ++ [s.freshId]) (s.append value kind suggestion) := by
  refine ⟨?_, ?_, ?_⟩
  · rw [Store.ids, tokens_append, List.map_append]
    exact h.ids.append (List.Sublist.refl _)
  · -- the new id is the one after the last id given, and no id returned is above that one
    rw [List.pairwise_append]
    refine ⟨h.ascending, List.pairwise_singleton .., ?_⟩
    intro old hold new hnew
    rw [List.mem_singleton.1 hnew]
    exact Nat.lt_succ_of_le (h.le_issued old hold)
  · intro id hid
    show id ≤ s.issued + 1
    rcases List.mem_append.1 hid with hid | hid
    · exact Nat.le_succ_of_le (h.le_issued id hid)
    · exact Nat.le_of_eq (List.mem_singleton.1 hid)

theorem Issues.perform {log : List Nat} {s : Store} (h : Issues log s) (o : Operation) :
    Issues (log ++ s.returns o) (s.perform o) := by
  cases o with
  | add value kind suggestion => exact h.append value kind suggestion
  | remove id =>
    -- what is left is in the old order, and nothing was returned
    refine h.of_sublist ?_ (s.issued_remove id)
    rw [Store.perform, Store.ids, tokens_remove]
    exact List.Sublist.map _ List.filter_sublist
  | update id value suggestion =>
    refine h.of_sublist ?_ (s.issued_update id value suggestion)
    simp [Store.perform]
  | clear =>
    refine h.of_sublist ?_ s.issued_clear
    rw [Store.perform, Store.ids, tokens_clear]
    exact List.nil_sublist _

theorem Issues.run {log : List Nat} {s : Store} (h : Issues log s)
    (operations : List Operation) :
    Issues (log ++ s.returned operations) (s.run operations) :=
  trace_induction (P := Issues) (fun o _ _ _ hs => hs.perform o) h

/-! ## Suggestions -/

/-- Only tags carry suggestions. -/
def OnlyTagsCarry (s : Store) : Prop := ∀ t ∈ s.tokens, t.kind ≠ .tag → t.suggestion = none

theorem OnlyTagsCarry.perform {s : Store} (h : s.OnlyTagsCarry) (o : Operation) :
    (s.perform o).OnlyTagsCarry := by
  intro t ht hkind
  cases o with
  | add value kind suggestion =>
    rcases List.mem_append.1 ht with ht | ht
    · exact h t ht hkind
    · -- the suggestion handed in is dropped unless the new token is a tag
      rw [List.mem_singleton.1 ht] at hkind ⊢
      exact if_neg hkind
  | remove id =>
    rw [Store.perform, tokens_remove] at ht
    exact h t (List.mem_filter.1 ht).1 hkind
  | update id value suggestion =>
    rw [Store.perform, tokens_update] at ht
    rcases mem_updateFirst ht with ht | ⟨u, -, -, rfl⟩
    · exact h t ht hkind
    · exact if_neg hkind
  | clear =>
    rw [Store.perform, tokens_clear] at ht
    cases ht

theorem OnlyTagsCarry.run {s : Store} (h : s.OnlyTagsCarry) (operations : List Operation) :
    (s.run operations).OnlyTagsCarry := by
  induction operations generalizing s with
  | nil => exact h
  | cons o rest ih => exact ih (h.perform o)

/-! ## Revisions -/

theorem counts_perform (s : Store) (o : Operation) : s.Counts (s.perform o) := by
  cases o with
  | add value kind suggestion => exact s.counts_append value kind suggestion
  | remove id => exact s.counts_remove id
  | update id value suggestion => exact s.counts_update id value suggestion
  | clear => exact s.counts_clear

theorem revision_le_run (s : Store) (operations : List Operation) :
    s.revision ≤ (s.run operations).revision := by
  induction operations generalizing s with
  | nil => exact Nat.le_refl _
  | cons o rest ih => exact Nat.le_trans (s.counts_perform o).le.1 (ih (s.perform o))

/-- As long as the revision stays, so do the tokens. -/
theorem tokens_run_of_revision_eq {s : Store} {operations : List Operation}
    (h : (s.run operations).revision = s.revision) :
    (s.run operations).tokens = s.tokens := by
  induction operations generalizing s with
  | nil => rfl
  | cons o rest ih =>
    have hfirst := (s.counts_perform o).le.1
    have hrest := (s.perform o).revision_le_run rest
    have hend : ((s.perform o).run rest).revision = s.revision := h
    -- the revision never falls, so the first operation did not raise it either
    have hsame : s.perform o = s := (s.counts_perform o).eq_of_revision_eq (by omega)
    rw [hsame] at hend
    show ((s.perform o).run rest).tokens = s.tokens
    rw [hsame]
    exact ih hend

/-- Of two states of a run, the revision determines the tokens. -/
theorem tokens_eq_of_revision_eq {s : Store} {operations : List Operation} {i j : Nat}
    (h : (s.run (operations.take i)).revision = (s.run (operations.take j)).revision)
    (hle : i ≤ j) :
    (s.run (operations.take i)).tokens = (s.run (operations.take j)).tokens := by
  have hsplit : s.run (operations.take j)
      = (s.run (operations.take i)).run ((operations.take j).drop i) := by
    have htake : operations.take i = (operations.take j).take i := by
      rw [List.take_take, Nat.min_eq_left hle]
    rw [htake, ← run_append, List.take_append_drop]
  rw [hsplit] at h ⊢
  exact (tokens_run_of_revision_eq h.symm).symm

/-- Both counters count operations. -/
theorem counters_run_le (s : Store) (operations : List Operation) :
    (s.run operations).issued ≤ s.issued + operations.length
    ∧ (s.run operations).revision ≤ s.revision + operations.length := by
  induction operations generalizing s with
  | nil => exact ⟨Nat.le_refl _, Nat.le_refl _⟩
  | cons o rest ih =>
    obtain ⟨hissued, hrevision⟩ := ih (s.perform o)
    have hone : (s.perform o).issued ≤ s.issued + 1 := by
      cases o with
      | add value kind suggestion => exact Nat.le_refl _
      | remove id => exact Nat.le_succ_of_le (Nat.le_of_eq (s.issued_remove id))
      | update id value suggestion =>
        exact Nat.le_succ_of_le (Nat.le_of_eq (s.issued_update id value suggestion))
      | clear => exact Nat.le_succ_of_le (Nat.le_of_eq s.issued_clear)
    have hcounted := (s.counts_perform o).le.2
    show ((s.perform o).run rest).issued ≤ _ ∧ ((s.perform o).run rest).revision ≤ _
    rw [List.length_cons]
    omega

/-! ## Tokens by id -/

/-- In every run from the empty store, ids ascend along the formula and are never given
    twice, so that a removal or an update by an id, whichever it is, concerns the one
    token of this id if there is one and nothing otherwise; only tags carry
    suggestions; and two states of the run with the same revision have the same tokens.
    Neither counter exceeds the number of operations. -/
theorem run_addresses_tokens (operations : List Operation) :
    let s := empty.run operations
    let log := empty.returned operations
    s.ids.Pairwise (· < ·) ∧ log.Pairwise (· < ·) ∧ s.ids.Sublist log
    ∧ (∀ id, (∃ k t, s.tokens[k]? = some t ∧ t.id = id
          ∧ (s.remove id).tokens = s.tokens.eraseIdx k)
        ∨ ((∀ t ∈ s.tokens, t.id ≠ id) ∧ s.remove id = s))
    ∧ (∀ value kind suggestion,
        ((s.append value kind suggestion).remove s.freshId).tokens = s.tokens)
    ∧ (∀ id value suggestion, (∃ k t, s.tokens[k]? = some t ∧ t.id = id
          ∧ (s.update id value suggestion).tokens
            = s.tokens.set k
              { t with
                value := value
                suggestion := if t.kind = .tag then suggestion else none })
        ∨ ((∀ t ∈ s.tokens, t.id ≠ id) ∧ s.update id value suggestion = s))
    ∧ (∀ t ∈ s.tokens, t.kind ≠ .tag → t.suggestion = none)
    ∧ (∀ i j,
        (empty.run (operations.take i)).revision = (empty.run (operations.take j)).revision →
        (empty.run (operations.take i)).tokens = (empty.run (operations.take j)).tokens)
    ∧ s.issued ≤ operations.length ∧ s.revision ≤ operations.length := by
  intro s log
  have hissues : Issues log s := (⟨.slnil, .nil, nofun⟩ : Issues [] empty).run operations
  have hord : s.Ordered := hissues.ordered
  have hcarry : s.OnlyTagsCarry := OnlyTagsCarry.run (s := empty) nofun operations
  obtain ⟨hissued, hrevision⟩ := empty.counters_run_le operations
  refine ⟨hord.ascending, hissues.ascending, hissues.ids, ?_, hord.tokens_append_remove, ?_,
    hcarry, ?_, ?_, ?_⟩
  · intro id
    rcases s.index_or_absent id with ⟨k, t, hk, rfl⟩ | habsent
    · exact Or.inl ⟨k, t, hk, rfl, hord.tokens_remove hk⟩
    · exact Or.inr ⟨habsent, remove_of_absent habsent⟩
  · intro id value suggestion
    rcases s.index_or_absent id with ⟨k, t, hk, rfl⟩ | habsent
    · exact Or.inl ⟨k, t, hk, rfl, hord.tokens_update hk value suggestion⟩
    · exact Or.inr ⟨habsent, update_of_absent habsent value suggestion⟩
  · intro i j h
    rcases Nat.le_total i j with hle | hle
    · exact tokens_eq_of_revision_eq h hle
    · exact (tokens_eq_of_revision_eq h.symm hle).symm
  · rw [show empty.issued = 0 from rfl, Nat.zero_add] at hissued
    exact hissued
  · rw [show empty.revision = 0 from rfl, Nat.zero_add] at hrevision
    exact hrevision

end TagCalc.Store
