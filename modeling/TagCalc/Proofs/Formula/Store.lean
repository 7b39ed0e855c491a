/-
  TagCalc.Proofs.Formula.Store

  What the operations of a store do to its tokens, their ids and their kinds, how the
  revision counts them, and the order of ids: they ascend along the formula, so no two
  tokens share one (`Ordered.index_eq`), and a removal or an update by an id concerns
  one token only (`Ordered.tokens_remove`, `Ordered.tokens_update`).
-/

import TagCalc.Formula.Store

namespace TagCalc.Store

/-- The ids of the tokens, in order. -/
def ids (s : Store) : List Nat := s.tokens.map (·.id)

/-- The kinds of the tokens, in order. -/
def kinds (s : Store) : List Kind := s.tokens.map (·.kind)

/-! ## Tokens after an operation -/

@[simp] theorem tokens_empty : empty.tokens = [] := rfl

@[simp] theorem tokens_append (s : Store) (value : String) (kind : Kind)
    (suggestion : Option Suggestion) :
    (s.append value kind suggestion).tokens
      = s.tokens ++ [⟨s.freshId, value, kind, carried kind suggestion⟩] := rfl

/-- Whether or not the id is there, its tokens are filtered out. -/
theorem tokens_remove (s : Store) (id : Nat) :
    (s.remove id).tokens = s.tokens.filter (·.id != id) := by
  rw [remove]
  by_cases hlen : (s.tokens.filter (·.id != id)).length = s.tokens.length
  · rw [if_pos hlen]
    exact (List.filter_eq_self.2 (List.length_filter_eq_length_iff.1 hlen)).symm
  · rw [if_neg hlen]

theorem updateFirst_of_find?_eq_none {p : Token → Bool} (f : Token → Token) {ts : List Token}
    (h : ts.find? p = none) : updateFirst p f ts = ts := by
  induction ts with
  | nil => rfl
  | cons t rest ih =>
    rw [List.find?_cons] at h
    cases hp : p t with
    | true =>
      rw [hp] at h
      cases h
    | false =>
      rw [hp] at h
      simp [updateFirst, hp, ih h]

/-- Whether or not the id is there, its first token is changed. -/
theorem tokens_update (s : Store) (id : Nat) (value : String) (suggestion : Option Suggestion) :
    (s.update id value suggestion).tokens
      = updateFirst (·.id == id) (retag value suggestion) s.tokens := by
  rw [update]
  cases hg : s.get? id with
  | none => simp [updateFirst_of_find?_eq_none _ hg]
  | some t => rfl

@[simp] theorem tokens_clear (s : Store) : s.clear.tokens = [] := by
  rw [clear]
  cases hs : s.tokens with
  | nil => simp [hs]
  | cons t rest => rfl

/-- An id that no token has removes nothing. -/
theorem remove_of_absent {s : Store} {id : Nat} (h : ∀ t ∈ s.tokens, t.id ≠ id) :
    s.remove id = s := by
  have hkept : s.tokens.filter (·.id != id) = s.tokens := by
    rw [List.filter_eq_self]
    intro t ht
    exact bne_iff_ne.2 (h t ht)
  unfold remove
  dsimp only
  rw [hkept, if_pos rfl]

/-- An id that no token has changes nothing. -/
theorem update_of_absent {s : Store} {id : Nat} (h : ∀ t ∈ s.tokens, t.id ≠ id) (value : String)
    (suggestion : Option Suggestion) : s.update id value suggestion = s := by
  have hnone : s.get? id = none := by
    rw [get?, List.find?_eq_none]
    intro t ht hid
    exact h t ht (eq_of_beq hid)
  rw [update, hnone]
  exact if_pos rfl

/-- What a change of one token keeps is kept along the list. -/
theorem map_updateFirst {β : Type _} {p : Token → Bool} {f : Token → Token} {g : Token → β}
    (hg : ∀ t, g (f t) = g t) (ts : List Token) : (updateFirst p f ts).map g = ts.map g := by
  induction ts with
  | nil => rfl
  | cons t rest ih =>
    rw [updateFirst]
    split
    · rw [List.map_cons, List.map_cons, hg]
    · rw [List.map_cons, List.map_cons, ih]

/-- The first token that satisfies the test is changed where it stands. -/
theorem updateFirst_eq_set {p : Token → Bool} (f : Token → Token) {ts : List Token} {k : Nat}
    {t : Token} (hk : ts[k]? = some t) (hp : p t = true)
    (hbefore : ∀ u ∈ ts.take k, p u = false) : updateFirst p f ts = ts.set k (f t) := by
  induction ts generalizing k with
  | nil => cases hk
  | cons u rest ih =>
    cases k with
    | zero =>
      cases Option.some.inj hk
      rw [updateFirst, if_pos hp, List.set_cons_zero]
    | succ k =>
      have hu : p u = false := hbefore u (List.mem_cons_self ..)
      have hrest := ih (k := k) hk fun v hv => hbefore v (List.mem_cons_of_mem _ hv)
      rw [updateFirst, hu, if_neg Bool.false_ne_true, hrest, List.set_cons_succ]

/-- A token after the change was there before, or is the one that was changed. -/
theorem mem_updateFirst {p : Token → Bool} {f : Token → Token} {ts : List Token} {u : Token}
    (h : u ∈ updateFirst p f ts) : u ∈ ts ∨ ∃ t ∈ ts, ts.find? p = some t ∧ u = f t := by
  induction ts with
  | nil => cases h
  | cons t rest ih =>
    rw [updateFirst] at h
    rw [List.find?_cons]
    cases hp : p t with
    | true =>
      rw [hp, if_pos rfl] at h
      rcases List.mem_cons.1 h with rfl | h
      · exact Or.inr ⟨t, List.mem_cons_self .., rfl, rfl⟩
      · exact Or.inl (List.mem_cons_of_mem _ h)
    | false =>
      rw [hp, if_neg Bool.false_ne_true] at h
      rcases List.mem_cons.1 h with rfl | h
      · exact Or.inl (List.mem_cons_self ..)
      · rcases ih h with h | ⟨t', ht', hfound, heq⟩
        · exact Or.inl (List.mem_cons_of_mem _ h)
        · exact Or.inr ⟨t', List.mem_cons_of_mem _ ht', hfound, heq⟩

@[simp] theorem ids_update (s : Store) (id : Nat) (value : String)
    (suggestion : Option Suggestion) : (s.update id value suggestion).ids = s.ids := by
  rw [ids, tokens_update]
  exact map_updateFirst (f := retag value suggestion) (fun _ => rfl) _

@[simp] theorem kinds_update (s : Store) (id : Nat) (value : String)
    (suggestion : Option Suggestion) : (s.update id value suggestion).kinds = s.kinds := by
  rw [kinds, tokens_update]
  exact map_updateFirst (f := retag value suggestion) (fun _ => rfl) _

theorem length_tokens_update (s : Store) (id : Nat) (value : String)
    (suggestion : Option Suggestion) :
    (s.update id value suggestion).tokens.length = s.tokens.length := by
  have hkinds := congrArg List.length (s.kinds_update id value suggestion)
  rw [kinds, kinds, List.length_map, List.length_map] at hkinds
  exact hkinds

/-! ## Counters -/

@[simp] theorem issued_remove (s : Store) (id : Nat) : (s.remove id).issued = s.issued := by
  unfold remove
  dsimp only
  split <;> rfl

@[simp] theorem issued_update (s : Store) (id : Nat) (value : String)
    (suggestion : Option Suggestion) : (s.update id value suggestion).issued = s.issued := by
  unfold update
  split <;> rfl

@[simp] theorem issued_clear (s : Store) : s.clear.issued = s.issued := by
  unfold clear
  split <;> rfl

/-- The second of two stores is the first one, or one change later. -/
def Counts (s s' : Store) : Prop := s' = s ∨ s'.revision = s.revision + 1

theorem counts_append (s : Store) (value : String) (kind : Kind)
    (suggestion : Option Suggestion) : s.Counts (s.append value kind suggestion) := Or.inr rfl

theorem counts_remove (s : Store) (id : Nat) : s.Counts (s.remove id) := by
  unfold remove
  dsimp only
  split
  · exact Or.inl rfl
  · exact Or.inr rfl

theorem counts_update (s : Store) (id : Nat) (value : String) (suggestion : Option Suggestion) :
    s.Counts (s.update id value suggestion) := by
  unfold update
  split
  · exact Or.inl rfl
  · exact Or.inr rfl

theorem counts_clear (s : Store) : s.Counts s.clear := by
  unfold clear
  split
  · exact Or.inl rfl
  · exact Or.inr rfl

theorem Counts.le {s s' : Store} (h : s.Counts s') :
    s.revision ≤ s'.revision ∧ s'.revision ≤ s.revision + 1 := by
  rcases h with rfl | h
  · omega
  · omega

/-- A change is always counted. -/
theorem Counts.eq_of_revision_eq {s s' : Store} (h : s.Counts s')
    (hsame : s'.revision = s.revision) : s' = s := by
  rcases h with h | h
  · exact h
  · omega

/-! ## Ids -/

/-- Ids ascend along the formula, up to the last one given. -/
structure Ordered (s : Store) : Prop where
  ascending : s.ids.Pairwise (· < ·)
  le_issued : ∀ id ∈ s.ids, id ≤ s.issued

theorem Ordered.empty : empty.Ordered := ⟨List.Pairwise.nil, by simp [ids]⟩

theorem Ordered.append {s : Store} (h : s.Ordered) (value : String) (kind : Kind)
    (suggestion : Option Suggestion) : (s.append value kind suggestion).Ordered := by
  have hids : (s.append value kind suggestion).ids = s.ids ++ [s.issued + 1] := by
    simp [ids, freshId]
  refine ⟨?_, ?_⟩
  · rw [hids, List.pairwise_append]
    refine ⟨h.ascending, List.pairwise_singleton .., ?_⟩
    intro a ha b hb
    rw [List.mem_singleton] at hb
    have := h.le_issued a ha
    omega
  · intro id hid
    show id ≤ s.issued + 1
    rw [hids, List.mem_append, List.mem_singleton] at hid
    rcases hid with hid | rfl
    · have := h.le_issued id hid
      omega
    · exact Nat.le_refl _

/-- Ids stay in order when tokens go, as long as none is given anew. -/
theorem Ordered.of_sublist {s s' : Store} (h : s.Ordered) (hsub : s'.ids.Sublist s.ids)
    (hissued : s'.issued = s.issued) : s'.Ordered :=
  ⟨h.ascending.sublist hsub, fun id hid => hissued ▸ h.le_issued id (hsub.subset hid)⟩

theorem Ordered.remove {s : Store} (h : s.Ordered) (id : Nat) : (s.remove id).Ordered := by
  refine h.of_sublist ?_ (s.issued_remove id)
  rw [ids, tokens_remove]
  exact List.Sublist.map _ List.filter_sublist

theorem Ordered.update {s : Store} (h : s.Ordered) (id : Nat) (value : String)
    (suggestion : Option Suggestion) : (s.update id value suggestion).Ordered := by
  refine h.of_sublist ?_ (s.issued_update id value suggestion)
  simp

theorem Ordered.clear {s : Store} (h : s.Ordered) : s.clear.Ordered := by
  refine h.of_sublist ?_ s.issued_clear
  simp [ids]

/-- An id is that of one token only. -/
theorem Ordered.index_eq {s : Store} (h : s.Ordered) {j k : Nat} {u t : Token}
    (hj : s.tokens[j]? = some u) (hk : s.tokens[k]? = some t) (hid : u.id = t.id) : j = k := by
  have hnodup : s.ids.Nodup := h.ascending.imp Nat.ne_of_lt
  have hjid : s.ids[j]? = some u.id := by rw [ids, List.getElem?_map, hj, Option.map_some]
  have hkid : s.ids[k]? = some t.id := by rw [ids, List.getElem?_map, hk, Option.map_some]
  obtain ⟨hlt, -⟩ := List.getElem?_eq_some_iff.1 hjid
  apply (List.getElem?_inj hlt hnodup).1
  rw [hjid, hkid, hid]

/-- What comes before a token has another id. -/
theorem Ordered.ne_id_of_mem_take {s : Store} (h : s.Ordered) {k : Nat} {t u : Token}
    (hk : s.tokens[k]? = some t) (hu : u ∈ s.tokens.take k) : u.id ≠ t.id := by
  intro hid
  obtain ⟨j, hj⟩ := List.mem_iff_getElem?.1 hu
  rw [List.getElem?_take] at hj
  split at hj
  · have := h.index_eq hj hk hid
    omega
  · cases hj

/-- What comes after a token has another id. -/
theorem Ordered.ne_id_of_mem_drop {s : Store} (h : s.Ordered) {k : Nat} {t u : Token}
    (hk : s.tokens[k]? = some t) (hu : u ∈ s.tokens.drop (k + 1)) : u.id ≠ t.id := by
  intro hid
  obtain ⟨j, hj⟩ := List.mem_iff_getElem?.1 hu
  rw [List.getElem?_drop] at hj
  have := h.index_eq hj hk hid
  omega

/-- A token is found by its id. -/
theorem Ordered.get?_id {s : Store} (h : s.Ordered) {k : Nat} {t : Token}
    (hk : s.tokens[k]? = some t) : s.get? t.id = some t := by
  obtain ⟨hlt, heq⟩ := List.getElem?_eq_some_iff.1 hk
  rw [get?, List.find?_eq_some_iff_getElem]
  refine ⟨beq_self_eq_true _, k, hlt, heq, ?_⟩
  intro j hj
  have hmem : s.tokens[j] ∈ s.tokens.take k := List.mem_take_iff_getElem.2 ⟨j, by omega, rfl⟩
  rw [beq_false_of_ne (h.ne_id_of_mem_take hk hmem)]
  rfl

/-- The token that is found has the id, and stands somewhere. -/
theorem index_of_get? {s : Store} {id : Nat} {t : Token} (h : s.get? id = some t) :
    ∃ k : Nat, s.tokens[k]? = some t ∧ t.id = id := by
  rw [get?] at h
  obtain ⟨k, hk⟩ := List.mem_iff_getElem?.1 (List.mem_of_find?_eq_some h)
  have hid := List.find?_some h
  exact ⟨k, hk, eq_of_beq hid⟩

/-- An update changes one token, and leaves it where it is. -/
theorem Ordered.tokens_update {s : Store} (h : s.Ordered) {k : Nat} {t : Token}
    (hk : s.tokens[k]? = some t) (value : String) (suggestion : Option Suggestion) :
    (s.update t.id value suggestion).tokens
      = s.tokens.set k (retag value suggestion t) := by
  rw [Store.tokens_update]
  refine updateFirst_eq_set _ hk (beq_self_eq_true _) ?_
  intro u hu
  exact beq_false_of_ne (h.ne_id_of_mem_take hk hu)

/-- A removal drops one token, and leaves the others in their order. -/
theorem Ordered.tokens_remove {s : Store} (h : s.Ordered) {k : Nat} {t : Token}
    (hk : s.tokens[k]? = some t) : (s.remove t.id).tokens = s.tokens.eraseIdx k := by
  obtain ⟨hlt, heq⟩ := List.getElem?_eq_some_iff.1 hk
  have hsplit : s.tokens = s.tokens.take k ++ t :: s.tokens.drop (k + 1) := by
    rw [← heq, List.getElem_cons_drop, List.take_append_drop]
  have hbefore : (s.tokens.take k).filter (·.id != t.id) = s.tokens.take k := by
    rw [List.filter_eq_self]
    intro u hu
    exact bne_iff_ne.2 (h.ne_id_of_mem_take hk hu)
  have hafter : (s.tokens.drop (k + 1)).filter (·.id != t.id) = s.tokens.drop (k + 1) := by
    rw [List.filter_eq_self]
    intro u hu
    exact bne_iff_ne.2 (h.ne_id_of_mem_drop hk hu)
  have hself : (t :: s.tokens.drop (k + 1)).filter (·.id != t.id)
      = (s.tokens.drop (k + 1)).filter (·.id != t.id) := List.filter_cons_of_neg (by simp)
  calc (s.remove t.id).tokens
      = (s.tokens.take k ++ t :: s.tokens.drop (k + 1)).filter (·.id != t.id) := by
        rw [Store.tokens_remove, ← hsplit]
    _ = s.tokens.take k ++ s.tokens.drop (k + 1) := by
        rw [List.filter_append, hself, hbefore, hafter]
    _ = s.tokens.eraseIdx k := (List.eraseIdx_eq_take_drop_succ ..).symm

/-- Removing the last token by its id removes nothing else. -/
theorem tokens_remove_last {s : Store} (h : s.Ordered) {t : Token} (hlast : s.last? = some t) :
    (s.remove t.id).tokens = s.tokens.dropLast := by
  rw [last?, List.getLast?_eq_getElem?] at hlast
  rw [h.tokens_remove hlast, List.eraseIdx_length_sub_one]

/-- A token that is removed again leaves no trace in the formula. -/
theorem Ordered.tokens_append_remove {s : Store} (h : s.Ordered) (value : String) (kind : Kind)
    (suggestion : Option Suggestion) :
    ((s.append value kind suggestion).remove s.freshId).tokens = s.tokens := by
  have hlast : (s.append value kind suggestion).last?
      = some ⟨s.freshId, value, kind, carried kind suggestion⟩ := by
    rw [last?, tokens_append, List.getLast?_concat]
  have hremoved := tokens_remove_last (h.append value kind suggestion) hlast
  rw [tokens_append, List.dropLast_concat] at hremoved
  exact hremoved

/-- Every id is that of a token at some place, or of none. -/
theorem index_or_absent (s : Store) (id : Nat) :
    (∃ (k : Nat) (t : Token), s.tokens[k]? = some t ∧ t.id = id)
    ∨ ∀ t ∈ s.tokens, t.id ≠ id := by
  by_cases h : ∃ t ∈ s.tokens, t.id = id
  · obtain ⟨t, ht, hid⟩ := h
    obtain ⟨k, hk⟩ := List.mem_iff_getElem?.1 ht
    exact Or.inl ⟨k, t, hk, hid⟩
  · exact Or.inr fun t ht hid => h ⟨t, ht, hid⟩

/-! ## Changes -/

/-- What the editor does to its formula: it appends a token that may come next,
    removes the last token, gives a tag another name, or empties the formula. -/
inductive Change (s : Store) : Store → Prop where
  | same : Change s s
  | append (value : String) (kind : Kind) (suggestion : Option Suggestion)
      (accepted : s.accepts kind = true) : Change s (s.append value kind suggestion)
  | removeLast (t : Token) (last : s.last? = some t) : Change s (s.remove t.id)
  | update (id : Nat) (value : String) (suggestion : Option Suggestion) (t : Token)
      (found : s.get? id = some t) (tag : t.kind = .tag) : Change s (s.update id value suggestion)
  | clear : Change s s.clear

/-- Every change is counted. -/
theorem Change.counts {s s' : Store} (hc : Change s s') : s.Counts s' := by
  cases hc with
  | same => exact Or.inl rfl
  | append value kind suggestion => exact s.counts_append value kind suggestion
  | removeLast t => exact s.counts_remove t.id
  | update id value suggestion => exact s.counts_update id value suggestion
  | clear => exact s.counts_clear

/-- No change takes an id back. -/
theorem Change.issued_le {s s' : Store} (hc : Change s s') : s.issued ≤ s'.issued := by
  cases hc with
  | same => exact Nat.le_refl _
  | append value kind suggestion => exact Nat.le_succ _
  | removeLast t => exact Nat.le_of_eq (s.issued_remove t.id).symm
  | update id value suggestion => exact Nat.le_of_eq (s.issued_update id value suggestion).symm
  | clear => exact Nat.le_of_eq s.issued_clear.symm

theorem Ordered.change {s s' : Store} (h : s.Ordered) (hc : Change s s') : s'.Ordered := by
  cases hc with
  | same => exact h
  | append value kind suggestion => exact h.append value kind suggestion
  | removeLast t => exact h.remove t.id
  | update id value suggestion => exact h.update id value suggestion
  | clear => exact h.clear

end TagCalc.Store
