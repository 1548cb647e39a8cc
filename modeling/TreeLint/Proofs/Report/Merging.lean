import TreeLint.Proofs.Report.Order
import TreeLint.Proofs.Report.Tallies

/-!
# Merging summaries

Up to the durations they contain, summaries form a monoid under merging, and sorting the parts of
a merge first does not change the sorted whole. So the summary of several files can be put together
from the summaries of any two parts of the sequence.

**Results.**
* `Summary.ofFiles_append`: the summary of two sequences of files, one behind the other.
* `Summary.ofFiles_flatten`: the summary of several sequences of files.
* `Summary.diagnostics_ofFiles`: the diagnostics of several files are sorted as a whole.
* `Summary.gainsError_ofFiles`: a file with a single error adds that error and nothing else.
-/

namespace TreeLint
namespace Report
namespace Summary

/-- Two summaries that say the same in every field, the durations apart. -/
structure Agrees (a b : Summary) : Prop where
  diagnostics : a.diagnostics = b.diagnostics
  filesProcessed : a.filesProcessed = b.filesProcessed
  filesWithErrors : a.filesWithErrors = b.filesWithErrors
  filesWithWarnings : a.filesWithWarnings = b.filesWithWarnings
  errorCount : a.errorCount = b.errorCount
  warningCount : a.warningCount = b.warningCount
  infoCount : a.infoCount = b.infoCount
  cancelled : a.cancelled = b.cancelled
  tallies : ∀ ruleId, a.tallies.counts ruleId = b.tallies.counts ruleId

namespace Agrees

variable {a b c d : Summary}

theorem refl (a : Summary) : a.Agrees a :=
  ⟨rfl, rfl, rfl, rfl, rfl, rfl, rfl, rfl, fun _ => rfl⟩

theorem symm (h : a.Agrees b) : b.Agrees a where
  diagnostics := h.diagnostics.symm
  filesProcessed := h.filesProcessed.symm
  filesWithErrors := h.filesWithErrors.symm
  filesWithWarnings := h.filesWithWarnings.symm
  errorCount := h.errorCount.symm
  warningCount := h.warningCount.symm
  infoCount := h.infoCount.symm
  cancelled := h.cancelled.symm
  tallies := fun ruleId => (h.tallies ruleId).symm

theorem trans (h : a.Agrees b) (k : b.Agrees c) : a.Agrees c where
  diagnostics := h.diagnostics.trans k.diagnostics
  filesProcessed := h.filesProcessed.trans k.filesProcessed
  filesWithErrors := h.filesWithErrors.trans k.filesWithErrors
  filesWithWarnings := h.filesWithWarnings.trans k.filesWithWarnings
  errorCount := h.errorCount.trans k.errorCount
  warningCount := h.warningCount.trans k.warningCount
  infoCount := h.infoCount.trans k.infoCount
  cancelled := h.cancelled.trans k.cancelled
  tallies := fun ruleId => (h.tallies ruleId).trans (k.tallies ruleId)

theorem merge (h : a.Agrees b) (k : c.Agrees d) : (a.merge c).Agrees (b.merge d) where
  diagnostics := by simp [Summary.merge, h.diagnostics, k.diagnostics]
  filesProcessed := by simp [Summary.merge, h.filesProcessed, k.filesProcessed]
  filesWithErrors := by simp [Summary.merge, h.filesWithErrors, k.filesWithErrors]
  filesWithWarnings := by simp [Summary.merge, h.filesWithWarnings, k.filesWithWarnings]
  errorCount := by simp [Summary.merge, h.errorCount, k.errorCount]
  warningCount := by simp [Summary.merge, h.warningCount, k.warningCount]
  infoCount := by simp [Summary.merge, h.infoCount, k.infoCount]
  cancelled := by simp [Summary.merge, h.cancelled, k.cancelled]
  tallies := by
    intro ruleId
    simp [Summary.merge, Tallies.counts_merge, h.tallies, k.tallies]

theorem sort (h : a.Agrees b) : a.sort.Agrees b.sort :=
  { h with diagnostics := by simp [Summary.sort, h.diagnostics] }

end Agrees

/-! ## Merging as a monoid -/

theorem merge_assoc (a b c : Summary) : ((a.merge b).merge c).Agrees (a.merge (b.merge c)) where
  diagnostics := List.append_assoc _ _ _
  filesProcessed := Nat.add_assoc _ _ _
  filesWithErrors := Nat.add_assoc _ _ _
  filesWithWarnings := Nat.add_assoc _ _ _
  errorCount := Nat.add_assoc _ _ _
  warningCount := Nat.add_assoc _ _ _
  infoCount := Nat.add_assoc _ _ _
  cancelled := Bool.or_assoc _ _ _
  tallies := by
    intro ruleId
    simp only [merge, Tallies.counts_merge]
    exact Std.Associative.assoc _ _ _

theorem empty_merge (a : Summary) : (empty.merge a).Agrees a where
  diagnostics := rfl
  filesProcessed := Nat.zero_add _
  filesWithErrors := Nat.zero_add _
  filesWithWarnings := Nat.zero_add _
  errorCount := Nat.zero_add _
  warningCount := Nat.zero_add _
  infoCount := Nat.zero_add _
  cancelled := rfl
  tallies := by
    intro ruleId
    simp [merge, empty, Tallies.counts_merge]

theorem merge_empty (a : Summary) : (a.merge empty).Agrees a where
  diagnostics := List.append_nil _
  filesProcessed := rfl
  filesWithErrors := rfl
  filesWithWarnings := rfl
  errorCount := rfl
  warningCount := rfl
  infoCount := rfl
  cancelled := Bool.or_false _
  tallies := by
    intro ruleId
    simp [merge, empty, Tallies.counts_merge]

/-- Merging a sequence into a summary is merging the merged sequence into it. -/
theorem foldl_merge (ss : List Summary) :
    ∀ a : Summary, (ss.foldl merge a).Agrees (a.merge (ss.foldl merge empty)) := by
  induction ss with
  | nil =>
      intro a
      exact (merge_empty a).symm
  | cons s ss ih =>
      intro a
      have hleft : (ss.foldl merge (a.merge s)).Agrees ((a.merge s).merge (ss.foldl merge empty)) :=
        ih (a.merge s)
      have hright :
          (ss.foldl merge (empty.merge s)).Agrees (s.merge (ss.foldl merge empty)) :=
        (ih (empty.merge s)).trans ((empty_merge s).merge (Agrees.refl _))
      exact hleft.trans ((merge_assoc a s _).trans ((Agrees.refl a).merge hright.symm))

/-! ## Sorting parts first -/

theorem sort_merge_sort (a b : Summary) : (a.sort.merge b.sort).sort.Agrees (a.merge b).sort :=
  { Agrees.refl (a.merge b).sort with
    diagnostics := Diagnostic.sort_append_sort a.diagnostics b.diagnostics }

/-- The summary of two sequences of files is that of the first merged with that of the second,
and sorted. -/
theorem ofFiles_append (ss ts : List Summary) :
    (ofFiles (ss ++ ts)).Agrees ((ofFiles ss).merge (ofFiles ts)).sort := by
  have hfold :
      ((ss ++ ts).foldl merge empty).Agrees
        ((ss.foldl merge empty).merge (ts.foldl merge empty)) := by
    simpa using foldl_merge ts (ss.foldl merge empty)
  exact hfold.sort.trans (sort_merge_sort _ _).symm

/-- The summary of one file is its sorted summary. -/
theorem ofFiles_singleton (s : Summary) : (ofFiles [s]).Agrees s.sort :=
  (empty_merge s).sort

/-- The summary of several sequences of files is put together from theirs. -/
theorem ofFiles_flatten (sss : List (List Summary)) :
    (ofFiles sss.flatten).Agrees (ofFiles (sss.map ofFiles)) := by
  induction sss with
  | nil =>
      exact Agrees.refl _
  | cons ss sss ih =>
      have hleft :
          (ofFiles (ss ++ sss.flatten)).Agrees
            ((ofFiles ss).merge (ofFiles (sss.map ofFiles))).sort :=
        (ofFiles_append ss sss.flatten).trans ((Agrees.refl _).merge ih).sort
      have hright :
          (ofFiles ([ofFiles ss] ++ sss.map ofFiles)).Agrees
            ((ofFiles ss).merge (ofFiles (sss.map ofFiles))).sort := by
        have hsingle : (ofFiles [ofFiles ss]).Agrees (ofFiles ss).sort :=
          ofFiles_singleton (ofFiles ss)
        have hsort : (ofFiles ss).sort.Agrees (ofFiles ss) :=
          { Agrees.refl (ofFiles ss) with diagnostics := Diagnostic.sort_sort _ }
        exact (ofFiles_append [ofFiles ss] _).trans
          ((hsingle.trans hsort).merge (Agrees.refl _)).sort
      exact hleft.trans hright.symm

@[simp] theorem diagnostics_foldl_merge (ss : List Summary) :
    ∀ a : Summary,
      (ss.foldl merge a).diagnostics = a.diagnostics ++ ss.flatMap Summary.diagnostics := by
  induction ss with
  | nil =>
      intro a
      simp
  | cons s ss ih =>
      intro a
      rw [List.foldl_cons, ih, List.flatMap_cons, ← List.append_assoc]
      rfl

/-- The diagnostics of several files are those of each file, sorted as a whole. -/
theorem diagnostics_ofFiles (ss : List Summary) :
    (ofFiles ss).diagnostics = Diagnostic.sort (ss.flatMap Summary.diagnostics) := by
  simp [ofFiles, sort, diagnostics_foldl_merge, empty]

/-- Diagnostics that already stand in order stay as they are. -/
theorem diagnostics_ofFiles_of_pairwise {ss : List Summary}
    (h : (ss.flatMap diagnostics).Pairwise fun c d => c.le d = true) :
    (ofFiles ss).diagnostics = ss.flatMap diagnostics := by
  rw [diagnostics_ofFiles]
  exact List.mergeSort_of_pairwise h

/-! ## One more file -/

/-- A summary differs from another one by a single error, in one more file, and by nothing else. -/
structure GainsError (before after : Summary) (d : Diagnostic) : Prop where
  diagnostics : ∃ front back,
    after.diagnostics = front ++ d :: back ∧ before.diagnostics = front ++ back
  filesProcessed : after.filesProcessed = before.filesProcessed + 1
  filesWithErrors : after.filesWithErrors = before.filesWithErrors + 1
  filesWithWarnings : after.filesWithWarnings = before.filesWithWarnings
  errorCount : after.errorCount = before.errorCount + 1
  warningCount : after.warningCount = before.warningCount
  infoCount : after.infoCount = before.infoCount
  cancelled : after.cancelled = before.cancelled
  tallies : ∀ ruleId, after.tallies.counts ruleId = before.tallies.counts ruleId

/-- A file with one error and without evaluations adds just that error, wherever it stands. -/
theorem gainsError_ofFiles (ss ts : List Summary) {d : Diagnostic} (h : d.severity = .error) :
    GainsError (ofFiles (ss ++ ts)) (ofFiles (ss ++ ofFile [d] :: ts)) d := by
  have hbefore :
      (ofFiles (ss ++ ts)).Agrees ((ofFiles ss).merge (ofFiles ts)).sort :=
    ofFiles_append ss ts
  have hafter :
      (ofFiles (ss ++ ofFile [d] :: ts)).Agrees
        ((ofFiles ss).merge ((ofFile [d]).sort.merge (ofFiles ts)).sort).sort := by
    have hrest :
        (ofFiles (ofFile [d] :: ts)).Agrees ((ofFile [d]).sort.merge (ofFiles ts)).sort :=
      (ofFiles_append [ofFile [d]] ts).trans
        ((ofFiles_singleton _).merge (Agrees.refl _)).sort
    exact (ofFiles_append ss _).trans ((Agrees.refl _).merge hrest).sort
  constructor
  case diagnostics =>
    rw [diagnostics_ofFiles, diagnostics_ofFiles, List.flatMap_append, List.flatMap_append]
    exact Diagnostic.sort_insert _ d _
  case tallies =>
    intro ruleId
    rw [hafter.tallies, hbefore.tallies]
    simp [sort, merge, ofFile, empty, Tallies.counts_merge]
  case filesProcessed =>
    rw [hafter.filesProcessed, hbefore.filesProcessed]
    simp only [sort, merge, ofFile]
    omega
  case filesWithErrors =>
    rw [hafter.filesWithErrors, hbefore.filesWithErrors]
    simp [sort, merge, ofFile, Diagnostic.countOf, h]
    omega
  case filesWithWarnings =>
    rw [hafter.filesWithWarnings, hbefore.filesWithWarnings]
    simp [sort, merge, ofFile, Diagnostic.countOf, h]
  case errorCount =>
    rw [hafter.errorCount, hbefore.errorCount]
    simp [sort, merge, ofFile, Diagnostic.countOf, h]
    omega
  case warningCount =>
    rw [hafter.warningCount, hbefore.warningCount]
    simp [sort, merge, ofFile, Diagnostic.countOf, h]
  case infoCount =>
    rw [hafter.infoCount, hbefore.infoCount]
    simp [sort, merge, ofFile, Diagnostic.countOf, h]
  case cancelled =>
    rw [hafter.cancelled, hbefore.cancelled]
    rfl

end Summary

/-- Whole sequences of diagnostics that are sorted first do not change the sorted whole. -/
theorem Diagnostic.sort_flatMap_sort {β : Type} (f : β → List Diagnostic) :
    ∀ bs : List β, sort (bs.flatMap fun b => sort (f b)) = sort (bs.flatMap f)
  | [] => rfl
  | b :: bs => by
      rw [List.flatMap_cons, List.flatMap_cons]
      calc
        sort (sort (f b) ++ bs.flatMap fun b => sort (f b))
            = sort (sort (sort (f b)) ++ sort (bs.flatMap fun b => sort (f b))) :=
              (sort_append_sort _ _).symm
        _ = sort (sort (f b) ++ sort (bs.flatMap f)) := by
              simp [sort_flatMap_sort f bs]
        _ = sort (f b ++ bs.flatMap f) := sort_append_sort _ _

end Report
end TreeLint
