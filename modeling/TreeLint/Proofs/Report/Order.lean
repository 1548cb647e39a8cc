import TreeLint.Proofs.Report.StableSort
import TreeLint.Report.Diagnostic

/-!
# The order of diagnostics

Components, paths, sort keys and diagnostics are ranked consistently, so the lemmas on stable
sorting hold for diagnostics. The severity of a diagnostic has no part in its rank.
-/

namespace TreeLint

namespace Path

/-- The text by which components of one form are compared. -/
def Component.text : Component → String
  | .name s => s
  | _ => ""

/-- Components are compared by their forms and then by their texts. -/
theorem Component.cmp_eq_compareLex :
    Component.cmp = compareLex (compareOn Component.rank) (compareOn Component.text) := by
  funext a b
  cases a <;> cases b <;> simp [Component.cmp, compareLex, compareOn, rank, text] <;> rfl

instance : Std.TransCmp Component.cmp := by
  rw [Component.cmp_eq_compareLex]
  infer_instance

theorem cmpComponents_eq_compareLex (a b : List Component) :
    cmpComponents a b = List.compareLex Component.cmp a b := by
  induction a generalizing b with
  | nil =>
      cases b with
      | nil => rfl
      | cons d b => rfl
  | cons c a ih =>
      cases b with
      | nil => rfl
      | cons d b =>
          simp only [cmpComponents, List.compareLex_cons_cons]
          cases c.cmp d <;> simp [ih]

instance : Std.TransCmp cmpComponents := by
  have h : cmpComponents = List.compareLex Component.cmp :=
    funext fun a => funext fun b => cmpComponents_eq_compareLex a b
  rw [h]
  infer_instance

end Path

namespace Report

instance : Std.TransCmp fun a b : SortKey => Path.cmpComponents a.path b.path where
  eq_swap := Std.OrientedCmp.eq_swap
  isLE_trans := Std.TransCmp.isLE_trans

/-- Sort keys are compared field by field. -/
theorem SortKey.cmp_eq_compareLex :
    SortKey.cmp =
      compareLex (fun a b => Path.cmpComponents a.path b.path)
        (compareLex (compareOn fun k => k.start.line)
          (compareLex (compareOn fun k => k.start.column)
            (compareLex (compareOn SortKey.ruleId) (compareOn SortKey.message)))) :=
  rfl

instance : Std.TransCmp SortKey.cmp := by
  rw [SortKey.cmp_eq_compareLex]
  infer_instance

namespace Diagnostic

theorem ranks_le : Ranks Diagnostic.le where
  trans := fun _ _ _ => Std.TransCmp.isLE_trans
  total := by
    intro a b
    rw [Bool.or_eq_true, le, le, @Std.OrientedCmp.eq_swap _ SortKey.cmp _ b.sortKey]
    cases a.sortKey.cmp b.sortKey <;> simp

theorem sort_perm (ds : List Diagnostic) : (sort ds).Perm ds :=
  List.mergeSort_perm ds le

/-- Sorting commutes with taking a part of the diagnostics. -/
theorem filter_sort (p : Diagnostic → Bool) (ds : List Diagnostic) :
    (sort ds).filter p = sort (ds.filter p) :=
  ranks_le.filter_mergeSort p ds

/-- Sorting commutes with a change of the diagnostics that leaves their sort keys. -/
theorem map_sort
    {f : Diagnostic → Diagnostic}
    (hf : ∀ d, (f d).sortKey = d.sortKey)
    (ds : List Diagnostic) :
    (sort ds).map f = sort (ds.map f) := by
  apply List.map_mergeSort
  intro a _ b _
  simp [le, hf]

@[simp] theorem sort_append_sort (as bs : List Diagnostic) :
    sort (sort as ++ sort bs) = sort (as ++ bs) :=
  ranks_le.mergeSort_append_mergeSort as bs

@[simp] theorem sort_sort (ds : List Diagnostic) : sort (sort ds) = sort ds := by
  simpa [sort] using sort_append_sort ds []

/-- One more diagnostic leaves the other ones as they are in the sorted list. -/
theorem sort_insert (as : List Diagnostic) (d : Diagnostic) (bs : List Diagnostic) :
    ∃ front back,
      sort (as ++ d :: bs) = front ++ d :: back ∧
      sort (as ++ bs) = front ++ back :=
  ranks_le.mergeSort_insert as d bs

/-- Sorting changes no count. -/
@[simp] theorem countP_sort (p : Diagnostic → Bool) (ds : List Diagnostic) :
    (sort ds).countP p = ds.countP p :=
  (sort_perm ds).countP_eq p

end Diagnostic
end Report
end TreeLint
