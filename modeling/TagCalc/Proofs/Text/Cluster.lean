/-
  TagCalc.Proofs.Text.Cluster

  A text without its last cluster. Where a boundary falls depends on the text before it
  and on the next character, so a text that is cut at a boundary has the clusters before
  the cut (`clustersAfter_cut`).

  Main statement: of a text that is not empty, just the last cluster goes, the clusters
  before it stay as they were, and the text gets shorter (`shedsCluster_dropLastCluster`).
-/

import TagCalc.Text.Cluster

namespace TagCalc.Text

/-- The second text is the first one without its last cluster, which is not empty. -/
structure ShedsCluster (before after : String) (cluster : List Char) : Prop where
  last : (clusters before.toList).getLast? = some cluster
  ne_nil : cluster ≠ []
  split : before.toList = after.toList ++ cluster
  kept : clusters after.toList = (clusters before.toList).dropLast

/-- Cut before its last cluster, a text has the clusters before the cut. -/
theorem clustersAfter_cut {ctx : ClusterContext} {cs tail last : List Char}
    {more : List (List Char)} (h : clustersAfter ctx cs = (tail, more ++ [last])) :
    clustersAfter ctx (tail ++ more.flatten) = (tail, more) := by
  induction cs generalizing ctx tail more with
  | nil => simp [clustersAfter] at h
  | cons c rest ih =>
    obtain ⟨opened, later, hrest⟩ : ∃ opened later,
        clustersAfter (ClusterContext.advance (some ctx) c) rest = (opened, later) := ⟨_, _, rfl⟩
    rw [clustersAfter, hrest] at h
    dsimp only at h
    cases hjoins : ctx.joins c with
    | true =>
      -- the open cluster goes on, and the cut is behind it
      rw [hjoins, if_pos rfl, Prod.mk.injEq] at h
      obtain ⟨rfl, rfl⟩ := h
      rw [List.cons_append, clustersAfter, ih hrest, hjoins]
      rfl
    | false =>
      rw [hjoins, if_neg Bool.false_ne_true, Prod.mk.injEq] at h
      obtain ⟨rfl, hmore⟩ := h
      cases more with
      | nil => rfl
      | cons first between =>
        -- the cluster of the character stays, so the cut is in what follows it
        rw [List.cons_append, List.cons.injEq] at hmore
        obtain ⟨rfl, rfl⟩ := hmore
        rw [List.nil_append, List.flatten_cons, List.cons_append, clustersAfter, ih hrest, hjoins]
        rfl

theorem clusters_flatten_dropLast (cs : List Char) :
    clusters (clusters cs).dropLast.flatten = (clusters cs).dropLast := by
  cases cs with
  | nil => rfl
  | cons c rest =>
    obtain ⟨first, later, hrest⟩ : ∃ first later,
        clustersAfter (ClusterContext.advance none c) rest = (first, later) := ⟨_, _, rfl⟩
    rw [clusters, hrest]
    dsimp only
    rcases List.eq_nil_or_concat later with rfl | ⟨between, last, rfl⟩
    · rfl
    · rw [List.concat_eq_append] at hrest ⊢
      rw [← List.cons_append, List.dropLast_concat, List.flatten_cons, List.cons_append, clusters,
        clustersAfter_cut hrest]

theorem toList_dropLastCluster (s : String) :
    (dropLastCluster s).toList = (clusters s.toList).dropLast.flatten := by
  rw [dropLastCluster, String.toList_ofList]

/-- A text that is not empty sheds one cluster. -/
theorem shedsCluster_dropLastCluster {s : String} (h : s ≠ "") :
    ∃ cluster, ShedsCluster s (dropLastCluster s) cluster := by
  have hne : clusters s.toList ≠ [] := by
    intro hnone
    have htext := flatten_clusters s.toList
    rw [hnone] at htext
    exact h (String.toList_inj.1 htext.symm)
  refine ⟨(clusters s.toList).getLast hne, List.getLast?_eq_some_getLast hne, ?_, ?_, ?_⟩
  · exact ne_nil_of_mem_clusters _ _ (List.getLast_mem hne)
  · calc s.toList
        = (clusters s.toList).flatten := (flatten_clusters _).symm
      _ = ((clusters s.toList).dropLast ++ [(clusters s.toList).getLast hne]).flatten := by
          rw [List.dropLast_concat_getLast]
      _ = (dropLastCluster s).toList ++ (clusters s.toList).getLast hne := by
          rw [List.flatten_append, List.flatten_singleton, toList_dropLastCluster]
  · rw [toList_dropLastCluster, clusters_flatten_dropLast]

theorem ShedsCluster.length_lt {before after : String} {cluster : List Char}
    (h : ShedsCluster before after cluster) : after.length < before.length := by
  have hlength := congrArg List.length h.split
  have hpos := List.length_pos_iff.2 h.ne_nil
  rw [List.length_append, String.length_toList, String.length_toList] at hlength
  omega

end TagCalc.Text
