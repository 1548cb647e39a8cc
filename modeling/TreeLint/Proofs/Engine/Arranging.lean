import TreeLint.Proofs.Engine.Spelling
import TreeLint.Proofs.Report.Rearranging

/-!
# Units in another order

The units of an analysis may be taken up in any order: what is counted is the same, and so are the
diagnostics and the sequence of their sort keys. Only diagnostics that the sort key does not tell
apart stand in the order of their units.
-/

namespace TreeLint

open Report Rule Source

namespace Engine

/-- The order of units only decides on the order of diagnostics with one sort key. -/
theorem analyze_perm (e : Engine) {us vs : List SourceUnit} (h : us.Perm vs) :
    (e.analyze us).Rearranges (e.analyze vs) := by
  rw [analyze_eq_ofFiles, analyze_eq_ofFiles]
  exact Summary.rearranges_ofFiles (h.map e.analyzeUnit)

/-- Findings with one sort key stand in the order of their units. -/
theorem diagnostics_analyze_pair (e : Engine) {u v : SourceUnit} {c d : Diagnostic}
    (hu : (e.analyzeUnit u).diagnostics = [c]) (hv : (e.analyzeUnit v).diagnostics = [d])
    (hkeys : c.sortKey = d.sortKey) : (e.analyze [u, v]).diagnostics = [c, d] := by
  have hle : c.le d = true := by
    rw [Diagnostic.le, hkeys]
    exact Std.ReflCmp.isLE_rfl
  have hall : ([u, v].map e.analyzeUnit).flatMap Summary.diagnostics = [c, d] := by
    simp [hu, hv]
  rw [analyze_eq_ofFiles, Summary.diagnostics_ofFiles_of_pairwise, hall]
  rw [hall]
  simpa using hle

/-- Of two units whose paths are two spellings of one path, so that their diagnostics have one sort
key and change places with the units. -/
theorem analyze_perm_spellings :
    let e : Engine := ⟨Config.standard, Settings.standard, Glob.isMatch, false⟩
    let u : SourceUnit := { emptyMethod with path := "src/Empty.cs" }
    let v : SourceUnit := { emptyMethod with path := "src//Empty.cs" }
    [u, v].Perm [v, u] ∧ (e.analyze [u, v]).Rearranges (e.analyze [v, u]) ∧
      (e.analyze [u, v]).diagnostics.map Diagnostic.path = ["src/Empty.cs", "src//Empty.cs"] ∧
      (e.analyze [v, u]).diagnostics.map Diagnostic.path = ["src//Empty.cs", "src/Empty.cs"] := by
  intro e u v
  have h : [u, v].Perm [v, u] := List.Perm.swap v u []
  let finding (path : String) : Diagnostic :=
    ⟨"S1186", .warning, EmptyMethod.descriptor.message, path, ⟨⟨1, 1⟩, ⟨1, 2⟩⟩,
      some EmptyMethod.descriptor.title⟩
  have hu : (e.analyzeUnit u).diagnostics = [finding u.path] := by decide +kernel
  have hv : (e.analyzeUnit v).diagnostics = [finding v.path] := by decide +kernel
  have hkeys : (finding u.path).sortKey = (finding v.path).sortKey := by
    have hpath : Path.components u.path = Path.components v.path := by decide +kernel
    simp [Diagnostic.sortKey, finding, hpath]
  refine ⟨h, e.analyze_perm h, ?_, ?_⟩
  · rw [e.diagnostics_analyze_pair hu hv hkeys]
    rfl
  · rw [e.diagnostics_analyze_pair hv hu hkeys.symm]
    rfl

end Engine
end TreeLint
