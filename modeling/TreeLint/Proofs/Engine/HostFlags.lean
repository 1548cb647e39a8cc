import TreeLint.Proofs.Engine.Filtering
import TreeLint.Proofs.Rule.Retelling

/-!
# What the host says about a unit

A host marks units of test projects and units that were generated. The rules ask a unit for its
symbols, and only the rule on empty methods asks whether it belongs to a test project; none asks
whether it was generated. So the first mark takes away what that rule says about methods that
override another one, and the second one matters to the engine only.

**Results.**
* `SourceUnit.retellsNodes_mark`: a unit tells the same under other marks.
* `Engine.reportsAt_test`: what the mark of test projects takes away at a node.
* `Engine.watchUnit_marked`: an analysis under both marks.
-/

namespace TreeLint

open Report Rule Source Syntax

namespace Source.SourceUnit

/-- The unit as its host would have marked it. -/
def mark (u : SourceUnit) (generated testProject : Bool) : SourceUnit :=
  { u with generated := generated, testProject := testProject }

/-- A unit tells the same under other marks. -/
theorem retellsNodes_mark (u : SourceUnit) (generated testProject : Bool) :
    RetellsNodes (fun i => i) (fun s => s) u (u.mark generated testProject) where
  keepsShape :=
    ⟨fun _ => rfl, fun _ => rfl, fun _ => rfl, fun _ => rfl, fun _ => rfl, fun _ => rfl⟩
  keepsMeaning := ⟨fun _ => rfl, fun _ => rfl, fun _ => rfl, fun _ => rfl, fun _ => rfl,
    fun _ _ => Iff.rfl⟩
  text := fun _ => rfl
  path := rfl
  language := rfl
  tree := u.tree.mapInfo_self.symm
  reference? := by
    intro n
    rw [Node.mapInfo_self, Option.map_id']
    rfl
  declared? := by
    intro n
    rw [Node.mapInfo_self, Option.map_id']
    rfl
  overridden? := by
    intro s
    rw [Option.map_id']
    rfl

end Source.SourceUnit

namespace Rule

/-! ## Empty methods -/

namespace EmptyMethod

/-- Whether a node is a method that may be empty in a test project. -/
def isOverride (n : Node) : Bool :=
  n.kind == "MethodDeclaration" && Grammar.hasModifier n "OverrideKeyword"

theorem kind_of_mem_actionsFor {s : Settings} {l : Language} {kind : String}
    (h : ⟨descriptor, run⟩ ∈ (registryOf s l).actionsFor kind) :
    kind = "MethodDeclaration" ∨ kind = localFunction := by
  obtain ⟨rule, hrule, q, hq, hkind, ha⟩ := exists_rule_of_mem_actionsFor h
  have hid : rule.1.id = descriptor.id := by
    rw [← (isOwn_of_mem_rulesOf hrule hq).2, ← ha]
  have hcredentials : HardcodedCredentials.descriptor.id ≠ descriptor.id := by decide
  have hcounter : LoopCounter.descriptor.id ≠ descriptor.id := by decide
  have hparameters : GenericParameters.descriptor.id ≠ descriptor.id := by decide
  have hclock : SystemClock.descriptor.id ≠ descriptor.id := by decide
  cases l with
  | csharp =>
      simp only [rulesOf, List.mem_cons, List.not_mem_nil, or_false] at hrule
      rcases hrule with rfl | rfl | rfl | rfl | rfl
      · exact absurd hid hcredentials
      · exact absurd hid hcounter
      · exact absurd hid hparameters
      · rw [List.mem_singleton.mp hq] at hkind
        simpa using hkind
      · exact absurd hid hclock
  | visualBasic =>
      simp only [rulesOf, List.mem_cons, List.not_mem_nil, or_false] at hrule
      rcases hrule with rfl | rfl
      · exact absurd hid hcredentials
      · exact absurd hid hclock

/-- The mark of test projects lets overrides be empty, and nothing else. -/
theorem mayBeEmpty_mark (u : SourceUnit) (generated : Bool) (n : Node) :
    mayBeEmpty (u.mark generated true) n =
      (mayBeEmpty (u.mark generated false) n || Grammar.hasModifier n "OverrideKeyword") := by
  have hsame : overridesAbstract (u.mark generated false) n =
      overridesAbstract (u.mark generated true) n :=
    rfl
  rw [mayBeEmpty, mayBeEmpty, hsame, SourceUnit.mark, SourceUnit.mark, Bool.and_true,
    Bool.and_false, Bool.or_false]

/-- Local functions are never let off. -/
theorem isAsked_mark (u : SourceUnit) (generated : Bool) {n : Node}
    (hkind : n.kind = "MethodDeclaration" ∨ n.kind = localFunction) :
    (n.kind == localFunction || !mayBeEmpty (u.mark generated true) n) =
      ((n.kind == localFunction || !mayBeEmpty (u.mark generated false) n) && !isOverride n) := by
  rw [mayBeEmpty_mark, isOverride]
  rcases hkind with hkind | hkind
  · have hmethod : (n.kind == localFunction) = false := by rw [hkind]; rfl
    rw [hmethod, hkind, Bool.false_or, Bool.false_or, Bool.not_or]
    rfl
  · have hmethod : (n.kind == "MethodDeclaration") = false := by rw [hkind]; rfl
    have hlocal : (n.kind == localFunction) = true := beq_iff_eq.mpr hkind
    rw [hmethod, hlocal]
    rfl

theorem run_mark (g : Grammar) (u : SourceUnit) (generated : Bool) {n : Node} (pass : Pass)
    (hkind : n.kind = "MethodDeclaration" ∨ n.kind = localFunction) :
    run ⟨g, u.mark generated true, n, pass⟩ =
      if isOverride n then [] else run ⟨g, u.mark generated false, n, pass⟩ := by
  rw [run, run]
  dsimp only
  cases n.childOfKind? "Block" with
  | none => cases isOverride n <;> rfl
  | some body =>
      rw [isAsked_mark u generated hkind]
      cases isOverride n with
      | true =>
          dsimp only
          simp
      | false =>
          dsimp only
          simp

end EmptyMethod

/-! ## Runs -/

/-- The mark of test projects takes away what is found at overrides without a statement. -/
theorem diagnostics_runAt_mark {s : Settings} {l : Language} {a : Action} {n : Node}
    (ha : a ∈ (registryOf s l).actionsFor n.kind) (g : Grammar) (u : SourceUnit) (generated : Bool)
    (pass : Pass) :
    (a.runAt ⟨g, u.mark generated true, n, pass⟩).diagnostics =
      (a.runAt ⟨g, u.mark generated false, n, pass⟩).diagnostics.filter fun d =>
        !(d.ruleId == "S1186" && EmptyMethod.isOverride n) := by
  have hids : ∀ d ∈ (a.runAt ⟨g, u.mark generated false, n, pass⟩).diagnostics,
      d.ruleId = a.descriptor.id :=
    fun d hd => ((owned_registryOf s l n.kind a ha).1.reportsFor_runAt _ d hd).1
  have hr := (u.mark generated false).retellsNodes_mark generated true
  rcases follows_of_mem_actionsFor hr ha with rfl | ⟨hid, hfollows⟩
  · let a : Action := ⟨EmptyMethod.descriptor, EmptyMethod.run⟩
    have hfound : a.run ⟨g, u.mark generated true, n, pass⟩ =
        if EmptyMethod.isOverride n then [] else a.run ⟨g, u.mark generated false, n, pass⟩ :=
      EmptyMethod.run_mark g u generated pass (EmptyMethod.kind_of_mem_actionsFor ha)
    rw [List.filter_congr fun d hd => by rw [hids d hd]]
    show (a.run ⟨g, u.mark generated true, n, pass⟩).map _ = _
    rw [hfound]
    cases EmptyMethod.isOverride n with
    | true => exact (List.filter_eq_nil_iff.mpr fun _ _ => Bool.false_ne_true).symm
    | false => exact (List.filter_eq_self.mpr fun _ _ => rfl).symm
  · have hsame := (hfollows g).runAt_eq hr.toRetellsShape n pass
    rw [Node.mapInfo_self] at hsame
    rw [List.filter_eq_self.mpr]
    · exact congrArg Run.diagnostics hsame
    · intro d hd
      have hother : (a.descriptor.id == "S1186") = false := beq_false_of_ne hid
      rw [hids d hd, hother]
      rfl

end Rule

namespace Engine

variable (e : Engine) (w : Watch) (u : SourceUnit)

/-! ## Reports -/

/-- What the active rules report at a node of a unit. -/
def reportsAt (n : Node) : List (Node × Diagnostic) :=
  let registry := registryOf e.settings u.language
  ((registry.runsAt (e.activeRules registry u.path).contains u n).flatMap Run.diagnostics).map
    fun d => (n, e.withSeverity d)

/-- What is reported of a unit under a watch: the diagnostics of its summary in their order, each
with the node at which it was found. -/
def reports : List (Node × Diagnostic) :=
  if w 0 || e.skips u then []
  else ((w.next.admitted u.nodes).flatMap (e.reportsAt u)).mergeSort fun p q => p.2.le q.2

theorem diagnostics_watchUnit : (e.watchUnit w u).diagnostics = (e.reports w u).map Prod.snd := by
  have hsort : ∀ l : List (Node × Diagnostic),
      (l.mergeSort fun p q => p.2.le q.2).map Prod.snd = Diagnostic.sort (l.map Prod.snd) :=
    fun l => List.map_mergeSort fun _ _ _ _ => rfl
  rw [diagnostics_watchUnit_eq, reports]
  split
  · rfl
  · dsimp only
    rw [hsort]
    refine congrArg Diagnostic.sort ?_
    rw [runsOver, Registry.runsOver, List.flatMap_assoc, List.map_flatMap, List.map_flatMap]
    refine List.flatMap_congr fun n _ => ?_
    simp [reportsAt]

/-- The mark of test projects takes away what is reported of empty overrides at a node. -/
theorem reportsAt_mark (generated : Bool) (n : Node) :
    e.reportsAt (u.mark generated true) n =
      (e.reportsAt (u.mark generated false) n).filter fun p =>
        !(p.2.ruleId == "S1186" && EmptyMethod.isOverride p.1) := by
  let registry := registryOf e.settings u.language
  have hruns : ∀ enabled : String → Bool,
      (registry.runsAt enabled (u.mark generated true) n).flatMap Run.diagnostics =
        ((registry.runsAt enabled (u.mark generated false) n).flatMap Run.diagnostics).filter
          fun d => !(d.ruleId == "S1186" && EmptyMethod.isOverride n) := by
    intro enabled
    rw [Registry.runsAt, Registry.runsAt, List.flatMap_assoc, List.flatMap_assoc,
      List.filter_flatMap]
    refine List.flatMap_congr fun pass _ => ?_
    rw [List.flatMap_map, List.flatMap_map, List.filter_flatMap]
    refine List.flatMap_congr fun a ha => ?_
    exact diagnostics_runAt_mark (List.mem_filter.mp ha).1 _ u generated pass
  rw [reportsAt, reportsAt, List.filter_map]
  exact congrArg (List.map _) (hruns _)

theorem reports_mark (generated : Bool) :
    e.reports w (u.mark generated true) =
      (e.reports w (u.mark generated false)).filter fun p =>
        !(p.2.ruleId == "S1186" && EmptyMethod.isOverride p.1) := by
  have hskips : e.skips (u.mark generated true) = e.skips (u.mark generated false) := rfl
  have hnodes : (u.mark generated true).nodes = (u.mark generated false).nodes := rfl
  rw [reports, reports, hskips, hnodes]
  split
  · rfl
  · rw [(Diagnostic.ranks_le.onKey Prod.snd).filter_mergeSort, List.filter_flatMap,
      funext (e.reportsAt_mark u generated)]

/-! ## Generated units -/

/-- No rule asks whether a unit was generated. -/
theorem runsOver_mark (generated test : Bool) (nodes : List Node) :
    e.runsOver (u.mark generated test) nodes = e.runsOver (u.mark false test) nodes := by
  have hr := (u.mark false test).retellsNodes_mark generated test
  have hnodes : nodes.map (Node.mapInfo fun i => i) = nodes :=
    (List.map_congr_left fun n _ => n.mapInfo_self).trans (List.map_id' nodes)
  have hruns (enabled : String → Bool) :
      (registryOf e.settings u.language).runsOver enabled (u.mark generated test)
          (nodes.map (Node.mapInfo fun i => i)) =
        (registryOf e.settings u.language).runsOver enabled (u.mark false test) nodes := by
    apply Registry.runsOver_of_follows hr.toRetellsShape
    intro kind a ha _
    rcases follows_of_mem_actionsFor hr ha with rfl | ⟨-, hfollows⟩
    · exact EmptyMethod.follows_run hr rfl (fun _ => rfl) _
    · exact hfollows _
  rw [hnodes] at hruns
  exact hruns _

/-- An engine that analyzes generated units does not tell them from others. -/
theorem watchUnit_generated (h : e.config.engine.analyzeGenerated = true) (test : Bool) :
    e.watchUnit w (u.mark true test) = e.watchUnit w (u.mark false test) := by
  have hskips : ∀ generated, e.skips (u.mark generated test) = false := by
    intro generated
    rw [skips, h, Bool.not_true, Bool.and_false]
  have hexamine :
      e.examine w.next (u.mark true test) = e.examine w.next (u.mark false test) := by
    rw [examine, examine, runsOver_mark]
    rfl
  rw [watchUnit, watchUnit, hskips, hskips, hexamine]

/-- Otherwise it counts them and does not look at them. -/
theorem watchUnit_skipped (h : e.config.engine.analyzeGenerated = false) (hclear : w 0 = false)
    (test : Bool) : e.watchUnit w (u.mark true test) = Summary.skipped := by
  have hskips : e.skips (u.mark true test) = true := by
    rw [skips, h]
    rfl
  rw [watchUnit, hclear, hskips]
  rfl

/-- A unit in a test project has the same diagnostics, in the same order, as it would have
elsewhere, except those on empty methods that override another one. Whether a unit was generated
makes no difference, unless the engine leaves out such units; then nothing is found or evaluated in
them, and they count as files. All of this is so whenever the analysis is cancelled; the analysis of
a unit alone is that under a steady watch. -/
theorem watchUnit_marked (e : Engine) (w : Watch) (u : SourceUnit) :
    (∀ v, (e.watchUnit w v).diagnostics = (e.reports w v).map Prod.snd) ∧
    (∀ generated, e.reports w (u.mark generated true) =
      (e.reports w (u.mark generated false)).filter fun p =>
        !(p.2.ruleId == "S1186" && EmptyMethod.isOverride p.1)) ∧
    ∀ test,
      (e.config.engine.analyzeGenerated = true →
        e.watchUnit w (u.mark true test) = e.watchUnit w (u.mark false test)) ∧
      (e.config.engine.analyzeGenerated = false → w 0 = false →
        (e.watchUnit w (u.mark true test)).filesProcessed = 1 ∧
        (e.watchUnit w (u.mark true test)).diagnostics = [] ∧
        (e.watchUnit w (u.mark true test)).tallies = ∅) := by
  refine ⟨e.diagnostics_watchUnit w, e.reports_mark w u, fun test => ⟨fun hon => ?_, ?_⟩⟩
  · exact e.watchUnit_generated w u hon test
  · intro hoff hclear
    rw [e.watchUnit_skipped w u hoff hclear test]
    exact ⟨rfl, rfl, rfl⟩

/-- Of the standard engine and an empty method that overrides another one. -/
theorem watchUnit_marked_override :
    let e : Engine := ⟨Config.standard, Settings.standard, Glob.isMatch, false⟩
    let w : Watch := .steady false
    let node (id : NodeId) (kind : String) (text : Option String) : List Tree → Tree :=
      .node ⟨id, kind, none, text, ⟨⟨1, 1⟩, ⟨1, 2⟩⟩, [], [], none, none, none, none⟩
    let block : Tree := node 3 "Block" none
      [node 4 "OpenBraceToken" (some "\x7b") [], node 5 "CloseBraceToken" (some "\x7d") []]
    let method : Tree := node 0 "MethodDeclaration" none
      [node 1 "OverrideKeyword" (some "override") [], node 2 "IdentifierToken" (some "F") [], block]
    let u : SourceUnit := ⟨"A.cs", .csharp, false, false, method, Symbols.SymbolTable.empty⟩
    (e.reports w (u.mark false false)).map (fun p => (p.1.kind, p.2.ruleId)) =
      [("MethodDeclaration", "S1186")] ∧
    e.reports w (u.mark false true) = [] ∧
    (e.watchUnit w (u.mark true false)).filesProcessed = 1 := by
  intro e w node block method u
  obtain ⟨-, htest, hgenerated⟩ := watchUnit_marked e w u
  have hfound : (e.reports w (u.mark false false)).map (fun p => (p.1.kind, p.2.ruleId)) =
      [("MethodDeclaration", "S1186")] := by
    decide +kernel
  have hnone : ((e.reports w (u.mark false false)).filter fun p =>
      !(p.2.ruleId == "S1186" && EmptyMethod.isOverride p.1)).length = 0 := by
    decide +kernel
  refine ⟨hfound, ?_, ((hgenerated false).2 rfl rfl).1⟩
  rw [htest]
  exact List.length_eq_zero_iff.mp hnone

end Engine
end TreeLint
