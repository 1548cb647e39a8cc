import TreeLint.Proofs.Report.Merging

/-!
# Summaries of the same files in another order

Merging does not depend on the order of the files except for the order of the diagnostics, and
these are sorted in the end. A sort key leaves out where a finding ends, how serious it is, its help
and the spelling of its path, so diagnostics with one key stand in the order in which they were
found. Everything else in a summary is the same, whichever way the files were arranged.

**Results.**
* `Diagnostic.map_sortKey_sort_of_perm`: the sequence of sort keys of the same diagnostics.
* `Diagnostic.sortKey_eq_of_exchanged`: diagnostics that change places have one sort key.
* `Summary.rearranges_ofFiles`: the summaries of the same files in two orders.
-/

namespace TreeLint

namespace Path

instance : Std.LawfulEqCmp Component.cmp where
  eq_of_compare := by
    intro a b h
    cases a <;> cases b <;> simp_all [Component.cmp, Component.rank]

instance : Std.LawfulEqCmp cmpComponents := by
  have h : cmpComponents = List.compareLex Component.cmp :=
    funext fun a => funext fun b => cmpComponents_eq_compareLex a b
  rw [h]
  infer_instance

end Path

namespace Report

/-- Sort keys are told apart by their order. -/
instance : Std.LawfulEqCmp SortKey.cmp where
  eq_of_compare := by
    rintro ⟨p, ⟨line, column⟩, id, message⟩ ⟨q, ⟨line', column'⟩, id', message'⟩ h
    simp only [SortKey.cmp, Ordering.then_eq_eq, Std.LawfulEqCmp.compare_eq_iff_eq] at h
    obtain ⟨rfl, rfl, rfl, rfl, rfl⟩ := h
    rfl

namespace Diagnostic

/-- The sort keys of sorted diagnostics do not fall. -/
theorem pairwise_map_sortKey_sort (ds : List Diagnostic) :
    ((sort ds).map sortKey).Pairwise fun k l => (k.cmp l).isLE = true :=
  List.pairwise_map.mpr (List.pairwise_mergeSort ranks_le.trans ranks_le.total ds)

/-- The same diagnostics have the same sequence of sort keys when they are sorted. -/
theorem map_sortKey_sort_of_perm {ds es : List Diagnostic} (h : ds.Perm es) :
    (sort ds).map sortKey = (sort es).map sortKey := by
  refine List.Perm.eq_of_pairwise ?_ (pairwise_map_sortKey_sort ds) (pairwise_map_sortKey_sort es)
    (((sort_perm ds).trans (h.trans (sort_perm es).symm)).map sortKey)
  intro k l _ _ hkl hlk
  exact Std.LawfulEqCmp.eq_of_compare (Std.OrientedCmp.isLE_antisymm hkl hlk)

/-- Diagnostics that stand in one order in one sorted list and in the other order in another one
have the same sort key. -/
theorem sortKey_eq_of_exchanged {ds es : List Diagnostic} {c d : Diagnostic}
    (hds : [c, d].Sublist (sort ds)) (hes : [d, c].Sublist (sort es)) :
    c.sortKey = d.sortKey := by
  have hcd : (c.sortKey.cmp d.sortKey).isLE = true := by
    simpa using (pairwise_map_sortKey_sort ds).sublist (hds.map sortKey)
  have hdc : (d.sortKey.cmp c.sortKey).isLE = true := by
    simpa using (pairwise_map_sortKey_sort es).sublist (hes.map sortKey)
  exact Std.LawfulEqCmp.eq_of_compare (Std.OrientedCmp.isLE_antisymm hcd hdc)

end Diagnostic

instance : Std.Commutative Tally.add where
  comm := by
    intro a b
    simp [Tally.add, Nat.add_comm]

namespace Summary

/-- A summary without its diagnostics: what is counted. -/
def bare (s : Summary) : Summary :=
  { s with diagnostics := [] }

/-- Two summaries that count the same and list the same diagnostics, both in order. -/
structure Rearranges (a b : Summary) : Prop where
  counts : a.bare.Agrees b.bare
  diagnostics : a.diagnostics.Perm b.diagnostics
  sortKeys : a.diagnostics.map Diagnostic.sortKey = b.diagnostics.map Diagnostic.sortKey
  ordered : (a.diagnostics.map Diagnostic.sortKey).Pairwise fun k l => (k.cmp l).isLE = true
  exchanged : ∀ c d, [c, d].Sublist a.diagnostics → [d, c].Sublist b.diagnostics →
    c.sortKey = d.sortKey

theorem bare_merge_comm (a b : Summary) :
    (a.bare.merge b.bare).Agrees (b.bare.merge a.bare) where
  diagnostics := rfl
  filesProcessed := Nat.add_comm _ _
  filesWithErrors := Nat.add_comm _ _
  filesWithWarnings := Nat.add_comm _ _
  errorCount := Nat.add_comm _ _
  warningCount := Nat.add_comm _ _
  infoCount := Nat.add_comm _ _
  cancelled := Bool.or_comm _ _
  tallies := by
    intro ruleId
    simp only [merge, Tallies.counts_merge]
    exact Std.Commutative.comm _ _

/-- Two summaries may change places when they are merged into a third one. -/
theorem bare_merge_right_comm (a b c : Summary) :
    ((a.merge b).merge c).bare.Agrees ((a.merge c).merge b).bare := by
  have hfront : (b.bare.merge c.bare).Agrees (c.bare.merge b.bare) := bare_merge_comm b c
  exact (merge_assoc a.bare b.bare c.bare).trans
    (((Agrees.refl a.bare).merge hfront).trans (merge_assoc a.bare c.bare b.bare).symm)

/-- Summaries that count the same still do when others are merged into them. -/
theorem bare_foldl_merge (ss : List Summary) :
    ∀ {a b : Summary}, a.bare.Agrees b.bare →
      (ss.foldl merge a).bare.Agrees (ss.foldl merge b).bare := by
  induction ss with
  | nil =>
      intro a b h
      exact h
  | cons s ss ih =>
      intro a b h
      exact ih (h.merge (Agrees.refl s.bare))

theorem bare_foldl_merge_of_perm {ss ts : List Summary} (h : ss.Perm ts) :
    ∀ a : Summary, (ss.foldl merge a).bare.Agrees (ts.foldl merge a).bare := by
  induction h with
  | nil =>
      intro a
      exact Agrees.refl _
  | cons s _ ih =>
      intro a
      exact ih (a.merge s)
  | swap s t ss =>
      intro a
      exact bare_foldl_merge ss (bare_merge_right_comm a t s)
  | trans _ _ ih₁ ih₂ =>
      intro a
      exact (ih₁ a).trans (ih₂ a)

/-- The order of the files only decides on the order of diagnostics with one sort key. -/
theorem rearranges_ofFiles {ss ts : List Summary} (h : ss.Perm ts) :
    Rearranges (ofFiles ss) (ofFiles ts) := by
  have hfound : (ss.flatMap Summary.diagnostics).Perm (ts.flatMap Summary.diagnostics) :=
    h.flatMap_right _
  constructor
  case counts =>
    exact bare_foldl_merge_of_perm h empty
  case diagnostics =>
    rw [diagnostics_ofFiles, diagnostics_ofFiles]
    exact (Diagnostic.sort_perm _).trans (hfound.trans (Diagnostic.sort_perm _).symm)
  case sortKeys =>
    rw [diagnostics_ofFiles, diagnostics_ofFiles]
    exact Diagnostic.map_sortKey_sort_of_perm hfound
  case ordered =>
    rw [diagnostics_ofFiles]
    exact Diagnostic.pairwise_map_sortKey_sort _
  case exchanged =>
    intro c d hcd hdc
    rw [diagnostics_ofFiles] at hcd hdc
    exact Diagnostic.sortKey_eq_of_exchanged hcd hdc

end Summary
end Report
end TreeLint
