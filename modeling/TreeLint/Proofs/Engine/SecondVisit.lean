import TreeLint.Proofs.Engine.Filtering
import TreeLint.Proofs.Rule.GenericParameters

/-!
# Second visits in an analysis

An analysis visits positional records twice. What it finds is what it would find if it visited every
node as a declaration only, whatever the configuration and wherever it is cancelled. In particular
the rule on generic parameters reports each declaration above its limit once, and a higher limit
takes reports away and adds none.

**Results.**
* `Engine.diagnostics_watchUnit_eq_declarationDiagnostics`: second visits add nothing.
* `Engine.filter_diagnostics_watchUnit`: what is reported on generic parameters.
* `Engine.watchUnit_sees_declarations`: both of them, and what higher limits do.
-/

namespace TreeLint

open Report Rule Source Syntax

namespace Engine

variable (e : Engine) (w : Watch) (u : SourceUnit)

/-! ## Declarations only -/

/-- The runs of the active rules over nodes of a unit that are visited as declarations only. -/
def declarationRunsOver (nodes : List Node) : List Run :=
  let registry := registryOf e.settings u.language
  nodes.flatMap (registry.declarationRunsAt (e.activeRules registry u.path).contains u)

/-- What the diagnostics of a unit under a watch would be without second visits. -/
def declarationDiagnostics : List Diagnostic :=
  if w 0 || e.skips u then []
  else
    let runs := e.declarationRunsOver u (w.next.admitted u.nodes)
    Diagnostic.sort ((runs.flatMap Run.diagnostics).map e.withSeverity)

theorem flatMap_diagnostics_declarationRunsOver (nodes : List Node) :
    (e.runsOver u nodes).flatMap Run.diagnostics =
      (e.declarationRunsOver u nodes).flatMap Run.diagnostics := by
  rw [runsOver, Registry.runsOver, declarationRunsOver, List.flatMap_assoc, List.flatMap_assoc]
  exact List.flatMap_congr fun n _ => flatMap_diagnostics_runsAt e.settings u.language _ u n

/-- Second visits add nothing to the diagnostics of a unit. -/
theorem diagnostics_watchUnit_eq_declarationDiagnostics :
    (e.watchUnit w u).diagnostics = e.declarationDiagnostics w u := by
  rw [diagnostics_watchUnit_eq, declarationDiagnostics]
  dsimp only
  rw [flatMap_diagnostics_declarationRunsOver]

/-! ## Generic parameters -/

/-- Whether the rule on generic parameters looks at a unit under a watch. -/
def looksAtParameters : Bool :=
  !(w 0 || e.skips u) && e.config.runsOnWhere e.matching "S2436" u.path

/-- The rule is one of the rules for C#. -/
theorem mem_ids_registryOf (s : Settings) : "S2436" ∈ (registryOf s .csharp).ids := by
  rw [registryOf, mem_ids_foldl_addRule]
  exact .inr ⟨(GenericParameters.descriptor, _), .tail _ (.tail _ (.head _)), rfl⟩

/-- What the rule reports at nodes of a unit, without regard to the configuration. -/
theorem flatMap_diagnostics_runsOver_parameters (s : Settings) (nodes : List Node) :
    ((registryOf s .csharp).runsOver (fun id => id == "S2436") u nodes).flatMap
        Run.diagnostics =
      nodes.filterMap (GenericParameters.report? s u) := by
  rw [Registry.runsOver, List.flatMap_assoc, List.filterMap_eq_flatMap_toList]
  apply List.flatMap_congr
  intro n _
  rw [flatMap_diagnostics_runsAt, GenericParameters.diagnostics_declarationRunsAt]

/-- What an engine reports on generic parameters at nodes of a unit. -/
theorem filter_diagnostics_runsOver (hu : u.language = .csharp) (nodes : List Node) :
    ((e.runsOver u nodes).flatMap Run.diagnostics).filter (fun d => d.ruleId == "S2436") =
      if e.config.runsOnWhere e.matching "S2436" u.path then
        nodes.filterMap (GenericParameters.report? e.settings u)
      else [] := by
  let registry := registryOf e.settings .csharp
  let active : String → Bool := (e.activeRules registry u.path).contains
  have hactive : active "S2436" = e.config.runsOnWhere e.matching "S2436" u.path :=
    contains_activeRules (mem_ids_registryOf e.settings) u.path
  have hpart := Registry.flatMap_diagnostics_runsOver (owned_registryOf e.settings .csharp)
  have hall : e.runsOver u nodes = registry.runsOver active u nodes := by
    rw [runsOver, hu]
  rw [← flatMap_diagnostics_runsOver_parameters, hall, hpart active, List.filter_comm,
    hpart fun id => id == "S2436", ← hactive]
  have hrule : ∀ d ∈ ((registry.runsOver (fun _ => true) u nodes).flatMap Run.diagnostics).filter
      (fun d => d.ruleId == "S2436"), active d.ruleId = active "S2436" := by
    intro d hd
    rw [beq_iff_eq.mp (List.mem_filter.mp hd).2]
  rw [List.filter_congr hrule]
  cases active "S2436" with
  | true => exact List.filter_eq_self.mpr fun _ _ => rfl
  | false => exact List.filter_eq_nil_iff.mpr fun _ _ => Bool.false_ne_true

/-- What an engine reports on generic parameters in a unit. -/
theorem filter_diagnostics_watchUnit (hu : u.language = .csharp) :
    (e.watchUnit w u).diagnostics.filter (fun d => d.ruleId == "S2436") =
      if e.looksAtParameters w u then
        Diagnostic.sort ((w.next.admitted u.nodes).filterMap fun n =>
          (GenericParameters.report? e.settings u n).map e.withSeverity)
      else [] := by
  have hsame : ((fun d : Diagnostic => d.ruleId == "S2436") ∘ e.withSeverity) =
      fun d => d.ruleId == "S2436" :=
    rfl
  rw [diagnostics_watchUnit_eq, looksAtParameters]
  cases w 0 || e.skips u with
  | true => rfl
  | false =>
      rw [if_neg Bool.false_ne_true, Bool.not_false, Bool.true_and]
      dsimp only
      rw [Diagnostic.filter_sort, List.filter_map, hsame, e.filter_diagnostics_runsOver u hu]
      split
      · rw [List.map_filterMap]
      · simp [Diagnostic.sort]

/-! ## Higher limits -/

/-- Where a diagnostic stands. -/
def placeOf (d : Diagnostic) : String × Span :=
  (d.path, d.span)

/-- The places of the reports on generic parameters in a unit. -/
def parameterPlaces : List (String × Span) :=
  ((e.watchUnit w u).diagnostics.filter fun d => d.ruleId == "S2436").map placeOf

/-- The place of a report on a node: that of the identifier that names the node. -/
def namePlace? (n : Node) : Option (String × Span) :=
  (Grammar.csharp.identifier? n).map fun token => (u.path, token.span)

theorem map_placeOf_report? (s : Settings) (n : Node) :
    ((GenericParameters.report? s u n).map e.withSeverity).map placeOf =
      if GenericParameters.isReported s n then namePlace? u n else none := by
  rw [GenericParameters.isReported, namePlace?, GenericParameters.report?]
  cases GenericParameters.limit? s n with
  | none => rfl
  | some limit =>
      rw [Option.bind_some, GenericParameters.reportOver?, Option.any_some]
      by_cases hover : limit < GenericParameters.parameterCount n
      · rw [if_pos hover, decide_eq_true hover, Bool.true_and]
        cases Grammar.csharp.identifier? n with
        | none => rfl
        | some token => rfl
      · rw [if_neg hover, decide_eq_false hover]
        rfl

/-- The reports on generic parameters stand at the names of the declarations that are reported, once
each. -/
theorem parameterPlaces_perm (hu : u.language = .csharp) :
    (e.parameterPlaces w u).Perm
      (if e.looksAtParameters w u then
        ((w.next.admitted u.nodes).filter (GenericParameters.isReported e.settings)).filterMap
          (namePlace? u)
      else []) := by
  rw [parameterPlaces, e.filter_diagnostics_watchUnit w u hu]
  split
  · refine ((Diagnostic.sort_perm _).map placeOf).trans (List.Perm.of_eq ?_)
    rw [List.map_filterMap, List.filterMap_filter]
    exact List.filterMap_congr fun n _ => e.map_placeOf_report? u e.settings n
  · exact List.Perm.nil

/-- The engine with other parameters of its configuration, and the settings that come of them. -/
def withParameters (parameters : Std.TreeMap String Config.Setting) (settings : Settings) :
    Engine :=
  { e with config := { e.config with parameters := parameters }, settings := settings }

/-- Higher limits take reports away. -/
theorem parameterPlaces_subperm (hu : u.language = .csharp)
    (parameters : Std.TreeMap String Config.Setting) {s : Settings}
    (hclass : e.settings.maxInClass ≤ s.maxInClass)
    (hmethod : e.settings.maxInMethod ≤ s.maxInMethod) :
    ((e.withParameters parameters s).parameterPlaces w u).Subperm (e.parameterPlaces w u) := by
  have hhigher := (e.withParameters parameters s).parameterPlaces_perm w u hu
  have hlower := e.parameterPlaces_perm w u hu
  have hlooks : (e.withParameters parameters s).looksAtParameters w u = e.looksAtParameters w u :=
    rfl
  rw [hlooks] at hhigher
  refine hhigher.subperm.trans (List.Subperm.trans ?_ hlower.symm.subperm)
  split
  · refine (List.Sublist.filterMap (namePlace? u) ?_).subperm
    exact List.monotone_filter_right _ fun n hn =>
      GenericParameters.isReported_of_le hclass hmethod hn
  · exact List.Subperm.refl []

/-- An analysis finds what it would find if it visited every node as a declaration only. Where the
rule on generic parameters looks at a unit, it reports the types, methods and local functions that
have a name and more generic parameters than their limit, once each, and nothing else; under higher
limits its reports stand at some of the same places. All of this is so whenever the analysis is
cancelled; the analysis of a unit alone is that under a steady watch. -/
theorem watchUnit_sees_declarations (e : Engine) (w : Watch) {u : SourceUnit}
    (hu : u.language = .csharp) :
    (e.watchUnit w u).diagnostics = e.declarationDiagnostics w u ∧
    (e.looksAtParameters w u = true →
      (e.watchUnit w u).diagnostics.filter (fun d => d.ruleId == "S2436") =
        Diagnostic.sort ((w.next.admitted u.nodes).filterMap fun n =>
          (GenericParameters.report? e.settings u n).map e.withSeverity)) ∧
    ∀ parameters (s : Settings), e.settings.maxInClass ≤ s.maxInClass →
      e.settings.maxInMethod ≤ s.maxInMethod →
        ((e.withParameters parameters s).parameterPlaces w u).Subperm (e.parameterPlaces w u) := by
  refine ⟨e.diagnostics_watchUnit_eq_declarationDiagnostics w u, fun hlooks => ?_, ?_⟩
  · rw [e.filter_diagnostics_watchUnit w u hu, if_pos hlooks]
  · intro parameters s hclass hmethod
    exact e.parameterPlaces_subperm w u hu parameters hclass hmethod

/-- Of a positional record with three parameters, which is reported once, and under a higher limit
at most there. -/
theorem watchUnit_sees_declarations_record :
    let e : Engine := ⟨Config.everything, Settings.standard, Glob.isMatch, false⟩
    let w : Watch := .steady false
    let node (id : NodeId) (kind : String) (text : Option String) : List Tree → Tree :=
      .node ⟨id, kind, none, text, ⟨⟨1, id⟩, ⟨1, id⟩⟩, [], [], none, none, none, none⟩
    let record : Tree := node 0 "RecordStructDeclaration" none
      [node 1 "IdentifierToken" (some "Point") [],
        node 2 "TypeParameterList" none
          [node 3 "TypeParameter" none [], node 4 "TypeParameter" none [],
            node 5 "TypeParameter" none []],
        node 6 "ParameterList" none []]
    let u : SourceUnit := ⟨"Point.cs", .csharp, false, false, record, Symbols.SymbolTable.empty⟩
    let higher : Settings := { Settings.standard with maxInClass := 3 }
    u.nodes.map (passes Grammar.csharp · |>.length) = [2, 1, 1, 1, 1, 1, 1] ∧
    (e.watchUnit w u).diagnostics.map (fun d => (d.message, d.span.start.column)) =
      [("Reduce the number of generic parameters in the 'Point' record struct to no more than " ++
        "the 2 authorized.", 1)] ∧
    ((e.watchUnit w u).diagnostics.filter fun d => d.ruleId == "S2436").length = 1 ∧
    ((e.withParameters ∅ higher).parameterPlaces w u).Subperm [("Point.cs", ⟨⟨1, 1⟩, ⟨1, 1⟩⟩)] := by
  intro e w node record u higher
  obtain ⟨hall, hreports, hlimits⟩ := watchUnit_sees_declarations e w (u := u) rfl
  have hlower : e.parameterPlaces w u = [("Point.cs", ⟨⟨1, 1⟩, ⟨1, 1⟩⟩)] := by
    decide +kernel
  refine ⟨by decide +kernel, ?_, ?_, ?_⟩
  · rw [hall]
    decide +kernel
  · rw [hreports (by decide +kernel)]
    decide +kernel
  · rw [← hlower]
    exact hlimits ∅ higher (by decide) (by decide)

end Engine
end TreeLint
