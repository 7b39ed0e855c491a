/-
  TagCalc.Proofs.Lookup.FullList

  The full list, by which tags are resolved. Once remembered it stays, since its
  entry outlives every window (`Cache.hasFullList_insertAll`), and a service that
  fetches inline remembers it as soon as it was asked for and polled
  (`Inline.hasFullList`). Over a source that stays, it is what that source
  answers to the empty query (`DrawsOn.lastKnown?`).

  Its entry changes by its own insertion only (`Cache.entry?_insert_fullList`). So
  the list remembered is the one handed out last (`lastKnown?_run`), and a poll
  leaves the full list fresh or in flight if it was so before (`KeepsUp.poll`).
-/

import TagCalc.Proofs.Lookup.Answers
import TagCalc.Proofs.Lookup.Flight

namespace TagCalc

/-! ## The entry of the full list -/

namespace Cache

/-- Whether the full list is remembered. -/
def HasFullList (c : Cache) : Prop := ∃ entry ∈ c.entries, entry.query = ""

/-- An insertion prunes old entries, but never this one. -/
theorem hasFullList_insert {c : Cache} {query : String} (h : c.HasFullList ∨ query = "")
    (found : Catalog) (now : Nat) : (c.insert query found now).HasFullList := by
  by_cases hquery : query = ""
  · exact ⟨⟨query, found, now⟩, List.mem_cons_self .., hquery⟩
  · obtain ⟨entry, hmem, hempty⟩ := h.resolve_right hquery
    -- neither the pruning nor the replacement of the last answer drops the old entry
    have hkept : c.keeps now entry = true := by simp [keeps, hempty]
    have hother : (entry.query != query) = true := by simp [hempty, Ne.symm hquery]
    refine ⟨entry, List.mem_cons_of_mem _ ?_, hempty⟩
    exact List.mem_filter.2 ⟨List.mem_filter.2 ⟨hmem, hkept⟩, hother⟩

theorem hasFullList_insertAll {c : Cache} {results : List Fetched}
    (h : c.HasFullList ∨ ∃ f ∈ results, f.query = "") (now : Nat) :
    (c.insertAll results now).HasFullList := by
  induction results generalizing c with
  | nil => exact h.resolve_right fun ⟨_, hf, _⟩ => List.not_mem_nil hf
  | cons f rest ih =>
    apply ih
    rcases h with hold | ⟨g, hg, hempty⟩
    · exact Or.inl (hasFullList_insert (Or.inl hold) _ now)
    · rcases List.mem_cons.1 hg with rfl | hg
      · exact Or.inl (hasFullList_insert (Or.inr hempty) _ now)
      · exact Or.inr ⟨g, hg, hempty⟩

theorem HasFullList.lastKnown? {c : Cache} (h : c.HasFullList) :
    ∃ entry ∈ c.entries, entry.query = "" ∧ c.lastKnown? "" = some entry.suggestions := by
  obtain ⟨entry, hmem, hempty⟩ := h
  have hsome : (c.entry? "").isSome = true :=
    List.find?_isSome.2 ⟨entry, hmem, by rw [hempty, beq_self_eq_true]⟩
  obtain ⟨first, hfirst⟩ := Option.isSome_iff_exists.1 hsome
  refine ⟨first, (mem_of_eq_entry hfirst).1, (mem_of_eq_entry hfirst).2, ?_⟩
  rw [Cache.lastKnown?, hfirst, Option.map_some]

/-- No insertion but its own replaces or drops the full list. -/
theorem entry?_insert_fullList (c : Cache) (query : String) (found : Catalog) (now : Nat) :
    Cache.entry? (c.insert query found now) ""
      = if query = "" then some ⟨query, found, now⟩ else c.entry? "" := by
  by_cases hquery : query = ""
  · rw [if_pos hquery, hquery]
    rfl
  · have hother : (query == "") = false := beq_false_of_ne hquery
    rw [if_neg hquery, insert, prune, entry?, entry?]
    dsimp only
    rw [List.find?_cons_of_neg (by simp [hother]), List.find?_filter, List.find?_filter]
    -- the pruning and the replacement drop no entry of the empty query
    congr 1
    funext entry
    by_cases hempty : entry.query = ""
    · simp [keeps, hempty, Ne.symm hquery]
    · simp [hempty]

/-- The full list remembered is the one that came in last. -/
theorem lastKnown?_insertAll {c : Cache} {log : List Fetched}
    (h : c.lastKnown? "" = latest? "" log) (results : List Fetched) (now : Nat) :
    (c.insertAll results now).lastKnown? "" = latest? "" (log ++ results) := by
  induction results generalizing c log with
  | nil =>
    rw [List.append_nil]
    exact h
  | cons f rest ih =>
    rw [← List.singleton_append, ← List.append_assoc]
    apply ih
    rw [lastKnown?, entry?_insert_fullList, latest?_concat]
    by_cases hempty : f.query = ""
    · rw [if_pos hempty, if_pos hempty]
      rfl
    · rw [if_neg hempty, if_neg hempty]
      exact h

theorem fullWindow_insertAll (c : Cache) (results : List Fetched) (now : Nat) :
    (c.insertAll results now).fullWindow = c.fullWindow := by
  induction results generalizing c with
  | nil => rfl
  | cons f rest ih => exact ih (c.insert f.query f.suggestions now)

theorem isSome_get?_fullList {c : Cache} {now : Nat} :
    (c.get? "" now).isSome = true
      ↔ ∃ entry, c.entry? "" = some entry ∧ now - entry.fetchedAt < c.fullWindow := by
  rw [get?]
  cases he : c.entry? "" with
  | none => simp
  | some entry => simp [window]

/-- A full list that was fresh stays so, and one that comes in now is fresh now. -/
theorem isSome_get?_insert {c : Cache} (positive : 0 < c.fullWindow) {query : String} {now : Nat}
    (h : (c.get? "" now).isSome = true ∨ query = "") (found : Catalog) :
    ((c.insert query found now).get? "" now).isSome = true := by
  rw [isSome_get?_fullList, entry?_insert_fullList]
  by_cases hquery : query = ""
  · refine ⟨⟨query, found, now⟩, if_pos hquery, ?_⟩
    show now - now < c.fullWindow
    rw [Nat.sub_self]
    exact positive
  · rw [if_neg hquery]
    exact isSome_get?_fullList.1 (h.resolve_right hquery)

theorem isSome_get?_insertAll {c : Cache} (positive : 0 < c.fullWindow) {results : List Fetched}
    {now : Nat} (h : (c.get? "" now).isSome = true ∨ ∃ f ∈ results, f.query = "") :
    ((c.insertAll results now).get? "" now).isSome = true := by
  induction results generalizing c with
  | nil => exact h.resolve_right fun ⟨_, hf, _⟩ => List.not_mem_nil hf
  | cons f rest ih =>
    have hwindow : 0 < (c.insert f.query f.suggestions now).fullWindow := positive
    apply ih hwindow
    rcases h with hold | ⟨g, hg, hempty⟩
    · exact Or.inl (isSome_get?_insert positive (Or.inl hold) _)
    · rcases List.mem_cons.1 hg with rfl | hg
      · exact Or.inl (isSome_get?_insert positive (Or.inr hempty) _)
      · exact Or.inr ⟨g, hg, hempty⟩

end Cache

namespace Service

theorem cache_request (s : Service) (query : String) (now : Nat) :
    (s.request query now).1.cache = s.cache := by
  -- a request hands out nothing
  obtain ⟨_, hcache⟩ := s.cache_move (.request query now)
  exact hcache

/-- No move forgets the full list. -/
theorem hasFullList_move {s : Service} (h : s.cache.HasFullList) (m : Move) :
    (s.move m).cache.HasFullList := by
  obtain ⟨now, hcache⟩ := s.cache_move m
  rw [hcache]
  exact Cache.hasFullList_insertAll (Or.inl h) now

theorem hasFullList_run {s : Service} (h : s.cache.HasFullList) (moves : List Move) :
    (s.run moves).cache.HasFullList := by
  apply run_induction (P := fun s => s.cache.HasFullList) _ h
  intro m _ s hs
  exact hasFullList_move hs m

/-- A run leaves the window of the full list alone. -/
theorem fullWindow_run (s : Service) (moves : List Move) :
    (s.run moves).cache.fullWindow = s.cache.fullWindow := by
  apply run_induction (P := fun t => t.cache.fullWindow = s.cache.fullWindow) _ rfl
  intro m _ t ht
  obtain ⟨now, hcache⟩ := t.cache_move m
  rw [hcache, Cache.fullWindow_insertAll, ht]

theorem lastKnown?_move {log : List Fetched} {s : Service}
    (h : s.lastKnown? "" = latest? "" log) (m : Move) :
    (s.move m).lastKnown? "" = latest? "" (log ++ s.handsOut m) := by
  obtain ⟨now, hcache⟩ := s.cache_move m
  rw [Service.lastKnown?, hcache]
  exact Cache.lastKnown?_insertAll h (s.handsOut m) now

/-- The full list remembered is the one handed out last. -/
theorem lastKnown?_run {log : List Fetched} {s : Service}
    (h : s.lastKnown? "" = latest? "" log) (moves : List Move) :
    (s.run moves).lastKnown? "" = latest? "" (log ++ s.handedOut moves) :=
  trace_induction (P := fun log (t : Service) => t.lastKnown? "" = latest? "" log)
    (fun m _ _ _ ht => lastKnown?_move ht m) h

/-! ## Keeping it up -/

/-- Whether the full list is fresh at a time or being fetched. -/
def KeepsUp (now : Nat) (s : Service) : Prop :=
  (s.cached? "" now).isSome = true ∨ s.isInFlight "" = true

/-- A poll that ends the fetch of the full list makes it fresh. -/
theorem KeepsUp.poll {now : Nat} {s : Service} (h : s.KeepsUp now)
    (positive : 0 < s.cache.fullWindow) : (s.poll now).1.KeepsUp now := by
  have hcache : (s.poll now).1.cache = s.cache.insertAll s.finished now := by rw [poll_eq]
  rw [KeepsUp, cached?, hcache]
  by_cases hfinished : "" ∈ s.finished.map (·.query)
  · exact Or.inl (Cache.isSome_get?_insertAll positive (Or.inr (List.mem_map.1 hfinished)))
  · rcases h with hfresh | hflying
    · exact Or.inl (Cache.isSome_get?_insertAll positive (Or.inl hfresh))
    · right
      rw [isInFlight_iff] at hflying ⊢
      exact mem_inFlight_poll.2 ⟨hflying, hfinished⟩

/-- Asked for the full list, a live service has it fresh or fetches it. -/
theorem keepsUp_request {s : Service} (live : s.dispatch ≠ .deadWorker) (now : Nat) :
    (s.request "" now).1.KeepsUp now := by
  rcases s.request_cases "" now with ⟨found, hc, heq⟩ | ⟨-, hf, heq⟩ | ⟨-, -, heq⟩
  · left
    rw [heq, hc]
    rfl
  · right
    rw [heq]
    exact hf
  · right
    rw [isInFlight_iff]
    exact mem_inFlight_request live (by rw [heq])

/-! ## Inline fetches -/

/-- A service that fetches inline: nothing waits, and what is in flight has been
    fetched. -/
structure Inline (s : Service) : Prop where
  dispatch : s.dispatch = .inline
  waiting : s.waiting = []
  fetched : ∀ q ∈ s.inFlight, ∃ f ∈ s.finished, f.query = q

theorem Inline.new (source : Source) (cache : Cache) :
    (Service.new source cache .inline).Inline :=
  ⟨rfl, rfl, fun _ hq => absurd hq List.not_mem_nil⟩

theorem Inline.request {s : Service} (h : s.Inline) (query : String) (now : Nat) :
    (s.request query now).1.Inline := by
  rcases s.request_service query now with heq | ⟨-, heq⟩
  · rw [heq]
    exact h
  · rw [heq, dispatchQuery_inline h.dispatch]
    refine ⟨h.dispatch, h.waiting, ?_⟩
    intro q hq
    rcases List.mem_append.1 hq with hq | hq
    · obtain ⟨f, hf, hfq⟩ := h.fetched q hq
      exact ⟨f, List.mem_append_left _ hf, hfq⟩
    · rw [List.mem_singleton] at hq
      exact ⟨⟨query, s.source.resolve query⟩, List.mem_append_right _ (List.mem_singleton_self _),
        hq.symm⟩

/-- All that is in flight is handed out by a poll. -/
theorem Inline.poll {s : Service} (h : s.Inline) (now : Nat) : (s.poll now).1.Inline := by
  rw [poll_eq]
  refine ⟨h.dispatch, h.waiting, ?_⟩
  intro q hq
  -- a query that stays in flight has no finished fetch, but every one of them has
  obtain ⟨hflying, hnew⟩ := List.mem_filter.1 hq
  obtain ⟨f, hf, hfq⟩ := h.fetched q hflying
  have hmem : q ∈ s.finished.map (·.query) := List.mem_map.2 ⟨f, hf, hfq⟩
  simp [hmem] at hnew

/-- An inline service has nothing in flight once it was polled. -/
theorem Inline.inFlight_poll {s : Service} (h : s.Inline) (now : Nat) :
    (s.poll now).1.inFlight = [] := by
  rw [List.eq_nil_iff_forall_not_mem]
  intro q hq
  obtain ⟨f, hf, -⟩ := (h.poll now).fetched q hq
  rw [poll_eq] at hf
  cases hf

/-- Without a worker nothing can be released and nothing can die. -/
theorem Inline.move {s : Service} (h : s.Inline) (m : Move) : (s.move m).Inline := by
  cases m with
  | request query now => exact h.request query now
  | poll now => exact h.poll now
  | release =>
    show s.release.Inline
    rw [release_nil h.waiting]
    exact h
  | die =>
    show s.die.Inline
    rw [die]
    rw [h.waiting]
    exact h
  | replace source => exact ⟨h.dispatch, h.waiting, h.fetched⟩

theorem Inline.run {s : Service} (h : s.Inline) (moves : List Move) : (s.run moves).Inline := by
  apply run_induction _ h
  intro m _ s hs
  exact hs.move m

/-- Once asked for and polled, the full list is remembered: it was fresh in the
    cache, or finished at the latest by the request. -/
theorem Inline.hasFullList {s : Service} (h : s.Inline) (asked polled : Nat) :
    ((s.request "" asked).1.poll polled).1.cache.HasFullList := by
  rw [poll_eq]
  apply Cache.hasFullList_insertAll
  rw [cache_request]
  rcases s.request_cases "" asked with ⟨found, hc, -⟩ | ⟨-, hf, heq⟩ | ⟨-, -, heq⟩
  · obtain ⟨entry, hmem, hempty, -⟩ := Cache.mem_of_get? hc
    exact Or.inl ⟨entry, hmem, hempty⟩
  · rw [heq]
    exact Or.inr (h.fetched "" (by simpa [isInFlight] using hf))
  · rw [heq, dispatchQuery_inline h.dispatch]
    exact Or.inr ⟨⟨"", s.source.resolve ""⟩,
      List.mem_append_right _ (List.mem_singleton_self _), rfl⟩

/-! ## A source that stays -/

/-- All lists of a service, remembered or waiting to be handed out, come from one
    source. -/
structure DrawsOn (source : Source) (s : Service) : Prop where
  source_eq : s.source = source
  cached : ∀ entry ∈ s.cache.entries, entry.suggestions = source.resolve entry.query
  finished : ∀ f ∈ s.finished, f.suggestions = source.resolve f.query

theorem DrawsOn.new (source : Source) (fullWindow queryWindow : Nat) (dispatch : Dispatch) :
    DrawsOn source (Service.new source (.empty fullWindow queryWindow) dispatch) :=
  ⟨rfl, fun _ hentry => absurd hentry List.not_mem_nil, fun _ hf => absurd hf List.not_mem_nil⟩

/-- Every move keeps the source, unless it replaces it. -/
theorem DrawsOn.move {source : Source} {s : Service} (h : DrawsOn source s) {m : Move}
    (hm : ∀ other, m ≠ .replace other) : DrawsOn source (s.move m) := by
  cases s.effect m with
  | none same cache finished _ =>
    refine ⟨same.trans h.source_eq, ?_, ?_⟩
    · rw [cache]
      exact h.cached
    · rw [finished]
      exact h.finished
  | fetch query same cache finished _ =>
    refine ⟨same.trans h.source_eq, ?_, ?_⟩
    · rw [cache]
      exact h.cached
    · -- the new result is what the source finds now, and the source is still the same
      intro f hf
      rw [finished] at hf
      rcases List.mem_append.1 hf with hf | hf
      · exact h.finished f hf
      · rw [List.mem_singleton.1 hf, h.source_eq]
  | poll now same cache finished _ =>
    refine ⟨same.trans h.source_eq, ?_, ?_⟩
    · intro entry hentry
      rw [cache] at hentry
      rcases Cache.mem_entries_insertAll hentry with hold | ⟨f, hf, hquery, hfound⟩
      · exact h.cached entry hold
      · rw [hquery, hfound]
        exact h.finished f hf
    · intro f hf
      rw [finished] at hf
      cases hf
  | replace other hreplace _ _ _ => exact absurd hreplace (hm other)

theorem DrawsOn.run {source : Source} {s : Service} (h : DrawsOn source s) {moves : List Move}
    (stays : ∀ other, .replace other ∉ moves) : DrawsOn source (s.run moves) := by
  apply run_induction (P := DrawsOn source) _ h
  intro m hm s hs
  apply hs.move
  rintro other rfl
  exact stays other hm

/-- As long as the source stays, what is handed out is what it answers. -/
theorem DrawsOn.handedOut {source : Source} {s : Service} (h : DrawsOn source s)
    {moves : List Move} (stays : ∀ other, .replace other ∉ moves) :
    ∀ f ∈ s.handedOut moves, f.suggestions = source.resolve f.query := by
  induction moves generalizing s with
  | nil => exact fun _ hf => absurd hf List.not_mem_nil
  | cons m rest ih =>
    have hm : ∀ other, m ≠ .replace other := by
      rintro other rfl
      exact stays other (List.mem_cons_self ..)
    have hout : ∀ f ∈ s.handsOut m, f.suggestions = source.resolve f.query := by
      cases s.effect m with
      | none _ _ _ out => simp [out]
      | fetch _ _ _ _ out => simp [out]
      | poll _ _ _ _ out =>
        rw [out]
        exact h.finished
      | replace other hreplace _ _ _ => exact absurd hreplace (hm other)
    intro f hf
    rw [handedOut_cons, List.mem_append] at hf
    rcases hf with hf | hf
    · exact hout f hf
    · exact ih (h.move hm) (fun other hmem => stays other (List.mem_cons_of_mem _ hmem)) f hf

/-- The full list is what the source answers to the empty query. -/
theorem DrawsOn.lastKnown? {source : Source} {s : Service} (h : DrawsOn source s)
    (hfull : s.cache.HasFullList) : s.lastKnown? "" = some (source.resolve "") := by
  obtain ⟨entry, hmem, hempty, hlast⟩ := hfull.lastKnown?
  rw [Service.lastKnown?, hlast, h.cached entry hmem, hempty]

end Service

/-- The full list of a fixed source holds the first entry of each id. -/
theorem Source.resolve_fixed (c : Catalog) : (Source.fixed c).resolve "" = c.dedup := by
  show c.dedup.filterBy "" = c.dedup
  rw [Catalog.filterBy_empty]

end TagCalc
