import TreeLint.Engine
import TreeLint.Proofs.Report.Merging
import TreeLint.Proofs.Rule.Dispatch

/-!
# What an engine looks at

An analysis takes up a unit as far as the flag is not seen set. Under a flag that stays clear the
whole unit is walked; under one that stays set nothing is. Either way the rules that are active on
a unit are those that the configuration turns on for its path.

**Results.**
* `Watch.admitted_isPrefix`: what is taken up is a front part of what there is.
* `Engine.diagnostics_watchUnit_eq`: what is found in one unit.
* `Engine.analyze_eq_ofFiles`, `Engine.analyzeFiles_eq_ofFiles`: several inputs are analyzed one by
  one.
* `Engine.contains_activeRules`: the active rules are the ones that the configuration turns on.
-/

namespace TreeLint

open Report Rule Source Syntax

namespace Watch

variable {α : Type}

/-- The items taken up are the first ones. -/
theorem admitted_isPrefix (l : List α) : ∀ w : Watch, w.admitted l <+: l := by
  induction l with
  | nil =>
      intro w
      exact List.nil_prefix
  | cons a rest ih =>
      intro w
      rw [admitted]
      split
      · exact List.nil_prefix
      · exact (List.prefix_cons_inj a).mpr (ih w.next)

/-- What is taken up depends on how many items there are, not on what they are. -/
@[simp] theorem admitted_map {β : Type} (f : α → β) (l : List α) :
    ∀ w : Watch, w.admitted (l.map f) = (w.admitted l).map f := by
  induction l with
  | nil =>
      intro w
      rfl
  | cons a rest ih =>
      intro w
      rw [List.map_cons, admitted, admitted]
      split
      · rfl
      · simp [ih]

/-- All items are taken up while the flag stays clear. -/
@[simp] theorem admitted_steady_false (l : List α) : (steady false).admitted l = l := by
  induction l with
  | nil =>
      rfl
  | cons a rest ih =>
      exact congrArg (a :: ·) ih

@[simp] theorem steady_zero (flag : Bool) : steady flag 0 = flag :=
  rfl

@[simp] theorem next_steady (flag : Bool) : (steady flag).next = steady flag :=
  rfl

end Watch

namespace Engine

/-- What is found in one unit under a watch. -/
theorem diagnostics_watchUnit_eq (e : Engine) (w : Watch) (u : SourceUnit) :
    (e.watchUnit w u).diagnostics =
      if w 0 || e.skips u then []
      else
        let runs := e.runsOver u (w.next.admitted u.nodes)
        Diagnostic.sort ((runs.flatMap Run.diagnostics).map e.withSeverity) := by
  rw [watchUnit]
  cases w 0 with
  | true => rfl
  | false =>
      cases e.skips u with
      | true => rfl
      | false => rfl

/-- Several units are analyzed one by one. -/
theorem analyze_eq_ofFiles (e : Engine) (us : List SourceUnit) :
    e.analyze us = Summary.ofFiles (us.map e.analyzeUnit) := by
  rw [analyze, watchUnits, List.map_map]
  rfl

/-- Several files are analyzed one by one. -/
theorem analyzeFiles_eq_ofFiles (e : Engine) (files : Path.FileTree) (paths : List String) :
    e.analyzeFiles files paths = Summary.ofFiles (paths.map (e.analyzeFile files)) := by
  rw [analyzeFiles, watchFiles, List.map_map]
  rfl

/-- A rule of a registry is active on a file if the configuration lets it run there. -/
theorem contains_activeRules {e : Engine} {r : Registry} {id : String} (h : id ∈ r.ids)
    (path : String) :
    (e.activeRules r path).contains id = e.config.runsOnWhere e.matching id path := by
  have hmem : id ∈ e.activeRules r path ↔ e.config.runsOnWhere e.matching id path = true := by
    rw [activeRules, List.mem_filter]
    exact and_iff_right h
  rw [Bool.eq_iff_iff, List.contains_iff_mem]
  exact hmem

end Engine
end TreeLint
