import TreeLint.Proofs.Engine.Watching

/-!
# The counts of a summary

Counts are taken when the diagnostics of one input are put together, and are added up when the
summaries of inputs are merged. They agree with the diagnostics that are listed in the end, for
every configuration and however the flag for cancellation changes in between.

**Results.**
* `Summary.Counted.merge`, `Summary.counted_ofFiles`: merging keeps counts and diagnostics together.
* `Engine.counted_watchUnit`, `Engine.counted_watchFile`: they are together in the summary of one
  input.
* `Engine.counted_analyses`: and so they are in every analysis.
-/

namespace TreeLint

open Report Rule Source Syntax

namespace Report
namespace Summary

/-- Whether a diagnostic of some severity is listed. -/
def shows (severity : Severity) (s : Summary) : Bool :=
  s.diagnostics.any fun d => d.severity == severity

/-- The counts of a summary agree with the diagnostics in it, which are those of the summaries of
single inputs. Only diagnostics of inputs without a unit are not counted for a rule. -/
structure Counted (inputs : List Summary) (s : Summary) : Prop where
  diagnostics : s.diagnostics.Perm (inputs.flatMap Summary.diagnostics)
  errorCount : s.errorCount = Diagnostic.countOf .error s.diagnostics
  warningCount : s.warningCount = Diagnostic.countOf .warning s.diagnostics
  infoCount : s.infoCount = Diagnostic.countOf .info s.diagnostics
  filesWithErrors : s.filesWithErrors = inputs.countP (shows .error)
  filesWithWarnings : s.filesWithWarnings = inputs.countP (shows .warning)
  filesWithErrors_le : s.filesWithErrors ≤ s.filesProcessed
  filesWithWarnings_le : s.filesWithWarnings ≤ s.filesProcessed
  filesWithErrors_pos : 0 < s.filesWithErrors ↔ 0 < s.errorCount
  filesWithWarnings_pos : 0 < s.filesWithWarnings ↔ 0 < s.warningCount
  findings : ∀ ruleId, ruleId ≠ Engine.unreadableRule →
    (s.diagnostics.countP fun d => d.ruleId == ruleId) = s.tallies.findingsOf ruleId

theorem counted_empty : Counted [] empty where
  diagnostics := List.Perm.nil
  errorCount := rfl
  warningCount := rfl
  infoCount := rfl
  filesWithErrors := rfl
  filesWithWarnings := rfl
  filesWithErrors_le := Nat.le_refl 0
  filesWithWarnings_le := Nat.le_refl 0
  filesWithErrors_pos := Iff.rfl
  filesWithWarnings_pos := Iff.rfl
  findings := by
    intro ruleId _
    simp [empty, Tallies.findingsOf]

namespace Counted

variable {inputs others : List Summary} {s t : Summary}

/-- Merging keeps counts and diagnostics together. -/
theorem merge (hs : Counted inputs s) (ht : Counted others t) :
    Counted (inputs ++ others) (s.merge t) where
  diagnostics := by
    rw [List.flatMap_append]
    exact hs.diagnostics.append ht.diagnostics
  errorCount := by
    simp [Summary.merge, Diagnostic.countOf, hs.errorCount, ht.errorCount]
  warningCount := by
    simp [Summary.merge, Diagnostic.countOf, hs.warningCount, ht.warningCount]
  infoCount := by
    simp [Summary.merge, Diagnostic.countOf, hs.infoCount, ht.infoCount]
  filesWithErrors := by
    simp [Summary.merge, hs.filesWithErrors, ht.filesWithErrors]
  filesWithWarnings := by
    simp [Summary.merge, hs.filesWithWarnings, ht.filesWithWarnings]
  filesWithErrors_le := Nat.add_le_add hs.filesWithErrors_le ht.filesWithErrors_le
  filesWithWarnings_le := Nat.add_le_add hs.filesWithWarnings_le ht.filesWithWarnings_le
  filesWithErrors_pos := by
    have hleft := hs.filesWithErrors_pos
    have hright := ht.filesWithErrors_pos
    simp only [Summary.merge]
    omega
  filesWithWarnings_pos := by
    have hleft := hs.filesWithWarnings_pos
    have hright := ht.filesWithWarnings_pos
    simp only [Summary.merge]
    omega
  findings := by
    intro ruleId hid
    simp only [Summary.merge, List.countP_append, Tallies.findingsOf_merge]
    rw [hs.findings ruleId hid, ht.findings ruleId hid]

/-- Sorting changes neither the counts nor what is counted. -/
theorem sort (h : Counted inputs s) : Counted inputs s.sort :=
  { h with
    diagnostics := (Diagnostic.sort_perm _).trans h.diagnostics
    errorCount := h.errorCount.trans (Diagnostic.countP_sort _ _).symm
    warningCount := h.warningCount.trans (Diagnostic.countP_sort _ _).symm
    infoCount := h.infoCount.trans (Diagnostic.countP_sort _ _).symm
    findings := fun ruleId hid =>
      (Diagnostic.countP_sort _ _).trans (h.findings ruleId hid) }

end Counted

@[simp] theorem shows_sort (severity : Severity) (s : Summary) :
    shows severity s.sort = shows severity s := by
  rw [Bool.eq_iff_iff, shows, shows, List.any_eq_true, List.any_eq_true]
  simp only [sort, (Diagnostic.sort_perm s.diagnostics).mem_iff]

/-- The summary of one input that is sorted is one of an input itself. -/
theorem Counted.sort_alone {s : Summary} (h : Counted [s] s) : Counted [s.sort] s.sort :=
  { h.sort with
    diagnostics := by
      rw [List.flatMap_singleton]
    filesWithErrors := by
      rw [List.countP_singleton, shows_sort, ← List.countP_singleton]
      exact h.filesWithErrors
    filesWithWarnings := by
      rw [List.countP_singleton, shows_sort, ← List.countP_singleton]
      exact h.filesWithWarnings }

/-- The summaries of inputs may be merged into a summary with all counts right. -/
theorem counted_foldl_merge (ss : List Summary) (h : ∀ s ∈ ss, Counted [s] s) :
    ∀ (inputs : List Summary) (a : Summary), Counted inputs a →
      Counted (inputs ++ ss) (ss.foldl merge a) := by
  induction ss with
  | nil =>
      intro inputs a ha
      simpa using ha
  | cons s ss ih =>
      intro inputs a ha
      have hstep : Counted (inputs ++ [s]) (a.merge s) :=
        ha.merge (h s List.mem_cons_self)
      have hrest :=
        ih (fun other hother => h other (List.mem_cons_of_mem s hother)) _ _ hstep
      simpa using hrest

/-- The summary of several files has all counts right if those of the files do. -/
theorem counted_ofFiles {ss : List Summary} (h : ∀ s ∈ ss, Counted [s] s) :
    Counted ss (ofFiles ss) :=
  (counted_foldl_merge ss h [] empty counted_empty).sort

theorem counted_ofFiles_map {α : Type} {f : α → Summary} (h : ∀ a, Counted [f a] (f a))
    (l : List α) : Counted (l.map f) (ofFiles (l.map f)) := by
  apply counted_ofFiles
  intro s hs
  obtain ⟨a, -, rfl⟩ := List.mem_map.mp hs
  exact h a

theorem shows_iff_countOf_pos (severity : Severity) (s : Summary) :
    shows severity s = true ↔ 0 < Diagnostic.countOf severity s.diagnostics := by
  rw [Diagnostic.countOf, List.countP_pos_iff, shows, List.any_eq_true]

/-- The counts of one file are right if its diagnostics are tallied by rule. -/
theorem counted_ofFile {ds : List Diagnostic} {ts : Tallies} (cancelled : Bool)
    (h : ∀ ruleId, ruleId ≠ Engine.unreadableRule →
      (ds.countP fun d => d.ruleId == ruleId) = ts.findingsOf ruleId) :
    Counted [{ ofFile ds with tallies := ts, cancelled := cancelled }]
      { ofFile ds with tallies := ts, cancelled := cancelled } where
  diagnostics := by
    rw [List.flatMap_singleton]
  errorCount := rfl
  warningCount := rfl
  infoCount := rfl
  filesWithErrors := by
    rw [List.countP_singleton]
    refine if_congr ?_ rfl rfl
    rw [shows_iff_countOf_pos]
    exact Iff.rfl
  filesWithWarnings := by
    rw [List.countP_singleton]
    refine if_congr ?_ rfl rfl
    rw [shows_iff_countOf_pos]
    exact Iff.rfl
  filesWithErrors_le := by
    simp only [ofFile]
    split <;> omega
  filesWithWarnings_le := by
    simp only [ofFile]
    split <;> omega
  filesWithErrors_pos := by
    simp only [ofFile]
    split <;> omega
  filesWithWarnings_pos := by
    simp only [ofFile]
    split <;> omega
  findings := h

/-- The counts of an input without diagnostics are all zero. -/
theorem counted_unexamined (files : Nat) (cancelled : Bool) :
    Counted [{ empty with filesProcessed := files, cancelled := cancelled }]
      { empty with filesProcessed := files, cancelled := cancelled } :=
  { counted_empty with
    diagnostics := List.Perm.refl _
    filesWithErrors_le := Nat.zero_le _
    filesWithWarnings_le := Nat.zero_le _ }

end Summary
end Report

namespace Engine

variable (e : Engine)

/-- The tallies of the runs over some nodes count what they report, whatever severity it gets. -/
theorem countP_map_withSeverity (u : SourceUnit) (nodes : List Node) (ruleId : String) :
    (((e.runsOver u nodes).flatMap Run.diagnostics).map e.withSeverity).countP
        (fun d => d.ruleId == ruleId) =
      (tallyRuns (e.runsOver u nodes)).findingsOf ruleId := by
  have hruns : ∀ run ∈ e.runsOver u nodes, ∀ d ∈ run.diagnostics, d.ruleId = run.ruleId := by
    intro run hrun d hd
    exact (Registry.reportsFor_of_mem_runsOver (owned_registryOf _ _) hrun d hd).1
  rw [List.countP_map, findingsOf_tallyRuns ruleId hruns]
  rfl

theorem counted_examine (w : Watch) (u : SourceUnit) :
    Summary.Counted [e.examine w u] (e.examine w u) :=
  (Summary.counted_ofFile _ fun ruleId _ => e.countP_map_withSeverity u _ ruleId).sort_alone

/-- The counts of a unit are right, however far it is examined. -/
theorem counted_watchUnit (w : Watch) (u : SourceUnit) :
    Summary.Counted [e.watchUnit w u] (e.watchUnit w u) := by
  unfold watchUnit
  split
  · exact Summary.counted_unexamined 0 true
  · split
    · exact Summary.counted_unexamined 1 false
    · exact e.counted_examine w.next u

/-- The counts of a file are right, whether it has a unit or not. -/
theorem counted_watchFile (files : Path.FileTree) (w : Watch) (path : String) :
    Summary.Counted [e.watchFile files w path] (e.watchFile files w path) := by
  unfold watchFile
  split
  · exact Summary.counted_unexamined 0 true
  · split
    · exact e.counted_watchUnit w.next _
    · apply Summary.counted_ofFile false
      intro ruleId hid
      simp [Summary.empty, Tallies.findingsOf, unreadableFile, hid.symm]

/-- In every analysis the counts agree with the listed diagnostics, whatever the configuration is
and whatever the watches show. -/
theorem counted_analyses :
    (∀ w u, Summary.Counted [e.watchUnit w u] (e.watchUnit w u)) ∧
    (∀ us : List (Watch × SourceUnit),
      Summary.Counted (us.map fun u => e.watchUnit u.1 u.2) (e.watchUnits us)) ∧
    (∀ (files : Path.FileTree) (paths : List (Watch × String)),
      Summary.Counted (paths.map fun p => e.watchFile files p.1 p.2) (e.watchFiles files paths)) ∧
    (∀ u, Summary.Counted [e.analyzeUnit u] (e.analyzeUnit u)) ∧
    (∀ us, Summary.Counted (us.map e.analyzeUnit) (e.analyze us)) ∧
    ∀ (files : Path.FileTree) (paths : List String),
      Summary.Counted (paths.map (e.analyzeFile files)) (e.analyzeFiles files paths) := by
  refine ⟨e.counted_watchUnit, ?_, ?_, fun u => e.counted_watchUnit _ u, ?_, ?_⟩
  · intro us
    exact Summary.counted_ofFiles_map (fun u => e.counted_watchUnit u.1 u.2) us
  · intro files paths
    exact Summary.counted_ofFiles_map (fun p => e.counted_watchFile files p.1 p.2) paths
  · intro us
    rw [analyze_eq_ofFiles]
    exact Summary.counted_ofFiles_map (fun u => e.counted_watchUnit _ u) us
  · intro files paths
    rw [analyzeFiles_eq_ofFiles]
    exact Summary.counted_ofFiles_map (fun path => e.counted_watchFile files _ path) paths

end Engine
end TreeLint
