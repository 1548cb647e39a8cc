import Mathlib.Data.List.Induction
import TreeLint.Output.Text
import TreeLint.Proofs.Report.Order

/-!
# Groups of diagnostics

Text output puts diagnostics into groups by file, whatever order they come in. Diagnostics that are
sorted stand file by file already, so the groups cut them into blocks: read one after another they
give all diagnostics in their order, and there is one group for each path, in the spelling that
comes first.

**Results.**
* `addToGroups_eq`: a diagnostic that is not before any group goes to the end.
* `Groups.add`: what one diagnostic changes.
* `groups_groupByFile`: the groups of sorted diagnostics.
-/

namespace TreeLint

instance : Std.TransCmp Path.cmp where
  eq_swap := by
    intro a b
    exact @Std.OrientedCmp.eq_swap _ Path.cmpComponents _ _ _
  isLE_trans := by
    intro a b c
    exact @Std.TransCmp.isLE_trans _ Path.cmpComponents _ _ _ _

namespace Output

open Report

/-- Diagnostics are cut into groups: one for each path, under its first spelling. -/
structure Groups (ds : List Diagnostic) (gs : List FileGroup) : Prop where
  diagnostics : gs.flatMap FileGroup.diagnostics = ds
  header : ∀ g ∈ gs, g.diagnostics.head?.map Diagnostic.path = some g.path
  same : ∀ g ∈ gs, ∀ d ∈ g.diagnostics, Path.same d.path g.path = true
  rising : gs.Pairwise fun g h => Path.cmp g.path h.path = .lt

theorem groups_nil : Groups [] [] where
  diagnostics := rfl
  header := by simp
  same := by simp
  rising := List.Pairwise.nil

@[simp] theorem same_self (path : String) : Path.same path path = true := by
  rw [Path.same, @Std.ReflCmp.compare_self _ Path.cmp _ path]
  rfl

/-- A diagnostic that is not before any group goes to the last group, or into a new one behind. -/
theorem addToGroups_eq {d : Diagnostic} {gs : List FileGroup}
    (hle : ∀ g ∈ gs, (Path.cmp g.path d.path).isLE = true)
    (hrising : gs.Pairwise fun g h => Path.cmp g.path h.path = .lt) :
    (∀ g ∈ gs, Path.cmp g.path d.path = .lt) ∧ addToGroups d gs = gs ++ [⟨d.path, [d]⟩] ∨
      ∃ before last, gs = before ++ [last] ∧ Path.cmp d.path last.path = .eq ∧
        addToGroups d gs = before ++ [{ last with diagnostics := last.diagnostics ++ [d] }] := by
  induction gs with
  | nil => exact .inl ⟨by simp, rfl⟩
  | cons g gs ih =>
      obtain ⟨hfirst, hrest⟩ := List.pairwise_cons.mp hrising
      rw [addToGroups]
      cases hcmp : Path.cmp d.path g.path with
      | lt => exact absurd (hle g List.mem_cons_self) (Std.OrientedCmp.not_isLE_of_lt hcmp)
      | eq =>
          cases gs with
          | nil => exact .inr ⟨[], g, rfl, hcmp, rfl⟩
          | cons h gs =>
              -- the next group would stand strictly behind the path that it is not behind
              have hlt : Path.cmp d.path h.path = .lt :=
                Std.TransCmp.lt_of_eq_of_lt hcmp (hfirst h List.mem_cons_self)
              have hnext := hle h (List.mem_cons_of_mem g List.mem_cons_self)
              exact absurd hnext (Std.OrientedCmp.not_isLE_of_lt hlt)
      | gt =>
          have hlt : Path.cmp g.path d.path = .lt := Std.OrientedCmp.gt_iff_lt.mp hcmp
          rcases ih (fun h hh => hle h (List.mem_cons_of_mem g hh)) hrest with
            ⟨hall, heq⟩ | ⟨before, last, rfl, hlast, heq⟩
          · refine .inl ⟨?_, congrArg (g :: ·) heq⟩
            intro h hh
            rcases List.mem_cons.mp hh with rfl | hh
            · exact hlt
            · exact hall h hh
          · exact .inr ⟨g :: before, last, rfl, hlast, congrArg (g :: ·) heq⟩

section Steps

variable {ds : List Diagnostic} {gs before : List FileGroup} {last : FileGroup} {d : Diagnostic}

/-- A new group behind the others. -/
theorem Groups.start (h : Groups ds gs) (hlt : ∀ g ∈ gs, Path.cmp g.path d.path = .lt) :
    Groups (ds ++ [d]) (gs ++ [⟨d.path, [d]⟩]) where
  diagnostics := by
    simp [h.diagnostics]
  header := by
    rw [List.forall_mem_append, List.forall_mem_singleton]
    exact ⟨h.header, rfl⟩
  same := by
    rw [List.forall_mem_append, List.forall_mem_singleton, List.forall_mem_singleton]
    exact ⟨h.same, same_self d.path⟩
  rising := by
    refine List.pairwise_append.mpr ⟨h.rising, List.pairwise_singleton _ _, ?_⟩
    intro g hg k hk
    rw [List.mem_singleton.mp hk]
    exact hlt g hg

/-- One more diagnostic in the last group. -/
theorem Groups.grow (h : Groups ds (before ++ [last])) (heq : Path.cmp d.path last.path = .eq) :
    Groups (ds ++ [d]) (before ++ [{ last with diagnostics := last.diagnostics ++ [d] }]) := by
  obtain ⟨hheaders, hheader⟩ := List.forall_mem_append.mp h.header
  obtain ⟨hsames, hsame⟩ := List.forall_mem_append.mp h.same
  have hfirst := hheader last List.mem_cons_self
  have hlast := hsame last List.mem_cons_self
  constructor
  · rw [← h.diagnostics]
    simp
  · rw [List.forall_mem_append, List.forall_mem_singleton]
    refine ⟨hheaders, ?_⟩
    cases hds : last.diagnostics with
    | nil =>
        rw [hds] at hfirst
        cases hfirst
    | cons e es =>
        rw [hds] at hfirst
        exact hfirst
  · rw [List.forall_mem_append, List.forall_mem_singleton, List.forall_mem_append,
      List.forall_mem_singleton]
    refine ⟨hsames, hlast, ?_⟩
    rw [Path.same, heq]
    rfl
  · obtain ⟨hfirsts, -, hbefore⟩ := List.pairwise_append.mp h.rising
    refine List.pairwise_append.mpr ⟨hfirsts, List.pairwise_singleton _ _, ?_⟩
    intro g hg k hk
    rw [List.mem_singleton.mp hk]
    exact hbefore g hg last List.mem_cons_self

/-- A diagnostic that is not before the others is put behind them. -/
theorem Groups.add (h : Groups ds gs) (hle : ∀ e ∈ ds, (Path.cmp e.path d.path).isLE = true) :
    Groups (ds ++ [d]) (addToGroups d gs) := by
  have hheaders : ∀ g ∈ gs, (Path.cmp g.path d.path).isLE = true := by
    intro g hg
    obtain ⟨e, he, hpath⟩ := Option.map_eq_some_iff.mp (h.header g hg)
    rw [← hpath]
    apply hle
    rw [← h.diagnostics]
    exact List.mem_flatMap.mpr ⟨g, hg, List.mem_of_head? he⟩
  rcases addToGroups_eq hheaders h.rising with ⟨hlt, heq⟩ | ⟨before, last, rfl, hlast, heq⟩
  · rw [heq]
    exact h.start hlt
  · rw [heq]
    exact h.grow hlast

end Steps

/-- The groups of diagnostics that stand in the order of their paths. -/
theorem groups_groupByFile (ds : List Diagnostic)
    (h : ds.Pairwise fun d e => (Path.cmp d.path e.path).isLE = true) :
    Groups ds (groupByFile ds) := by
  induction ds using List.reverseRecOn with
  | nil => exact groups_nil
  | append_singleton ds d ih =>
      obtain ⟨hfirst, -, hlast⟩ := List.pairwise_append.mp h
      simpa [groupByFile] using (ih hfirst).add fun e he => hlast e he d List.mem_cons_self

end Output
end TreeLint
