import Mathlib.Data.List.Forall2
import TreeLint.Proofs.Engine.Filtering
import TreeLint.Proofs.Rule.Retelling

/-!
# What stands around the tokens

The rules are blind to white space, directives and documentation, and to what comments say. Only
one of them asks whether there is a comment at all, and this only for the delimiters of the body of
a method: there a comment silences it. So the findings in a unit are those in the unit without all
trivia, apart from the ones that are silenced.

**Results.**
* `Engine.analyzeUnit_eq_of_runs`: what an analysis of a unit depends on.
* `EmptyMethod.map_run_withoutTrivia`: the rule on empty methods, without and with trivia.
* `runs_eq_flatMap_mute`: the runs over a unit, from those over the unit without trivia.
* `Engine.analyze_ignores_trivia`: analyses of units that differ in their trivia.
-/

namespace TreeLint

open Report Rule Source Syntax

/-- Lists whose members agree one by one. -/
theorem map_eq_of_forall₂ {α β : Type} {f : α → β} {l k : List α}
    (h : List.Forall₂ (fun a b => f a = f b) l k) : l.map f = k.map f := by
  rwa [← List.forall₂_eq_eq_eq, List.forall₂_map_left_iff, List.forall₂_map_right_iff]

/-- Lists that agree in two respects agree in both at once. -/
theorem map_pair_eq {α β γ : Type} {f : α → β} {g : α → γ} {l k : List α}
    (hf : l.map f = k.map f) (hg : l.map g = k.map g) :
    (l.map fun a => (f a, g a)) = k.map fun a => (f a, g a) := by
  rw [← List.zip_map', ← List.zip_map', hf, hg]

/-! ## Units without trivia -/

namespace Syntax

/-- What a node carries, without the trivia around it. -/
def NodeInfo.withoutTrivia (i : NodeInfo) : NodeInfo :=
  { i with leading := [], trailing := [] }

/-- A node with bare comments around it. -/
def NodeInfo.commentedAs (i : NodeInfo) (comments : Bool × Bool) : NodeInfo :=
  let standing (commented : Bool) : List Trivia :=
    if commented then [⟨.singleLineComment, ""⟩] else []
  { i with leading := standing comments.1, trailing := standing comments.2 }

/-- What a node carries, with bare comments where there were comments. -/
def NodeInfo.withCommentsOnly (i : NodeInfo) : NodeInfo :=
  i.withoutTrivia.commentedAs i.comments

theorem NodeInfo.keepsShape_withoutTrivia : NodeInfo.KeepsShape NodeInfo.withoutTrivia :=
  ⟨fun _ => rfl, fun _ => rfl, fun _ => rfl, fun _ => rfl, fun _ => rfl, fun _ => rfl⟩

theorem NodeInfo.keepsShape_withCommentsOnly : NodeInfo.KeepsShape NodeInfo.withCommentsOnly :=
  ⟨fun _ => rfl, fun _ => rfl, fun _ => rfl, fun _ => rfl, fun _ => rfl, fun _ => rfl⟩

@[simp] theorem NodeInfo.comments_withCommentsOnly (i : NodeInfo) :
    i.withCommentsOnly.comments = i.comments := by
  simp only [withCommentsOnly]
  rcases i.comments with ⟨leading, trailing⟩
  cases leading <;> cases trailing <;> rfl

end Syntax

namespace Source.SourceUnit

/-- The unit without all trivia. -/
def withoutTrivia (u : SourceUnit) : SourceUnit :=
  { u with tree := u.tree.mapInfo NodeInfo.withoutTrivia }

theorem retells_withoutTrivia (u : SourceUnit) :
    SourceUnit.Retells NodeInfo.withoutTrivia id u u.withoutTrivia where
  keepsShape := NodeInfo.keepsShape_withoutTrivia
  text := fun _ => rfl
  keepsMeaning := ⟨fun _ => rfl, fun _ => rfl, fun _ => rfl, fun _ => rfl, fun _ => rfl,
    fun _ _ => Iff.rfl⟩
  path := rfl
  language := rfl
  generated := rfl
  testProject := rfl
  tree := rfl
  reference? := by
    intro n
    rw [reference?, Node.info_mapInfo, Option.map_id]
    rfl
  declared? := by
    intro n
    rw [declared?, Node.info_mapInfo, Option.map_id]
    rfl
  overridden? := by
    intro s
    rw [Option.map_id]
    rfl

@[simp] theorem nodes_withoutTrivia (u : SourceUnit) :
    u.withoutTrivia.nodes = u.nodes.map (Node.mapInfo NodeInfo.withoutTrivia) :=
  nodes_of_retells u.retells_withoutTrivia.toRetellsShape

/-- Two units that differ at most in the trivia of their nodes. -/
def SameButTrivia (u v : SourceUnit) : Prop :=
  u.withoutTrivia = v.withoutTrivia

/-- Two units with comments around the same nodes. -/
def SameComments (u v : SourceUnit) : Prop :=
  (u.nodes.map fun n => n.info.comments) = v.nodes.map fun n => n.info.comments

end Source.SourceUnit

/-! ## Findings that comments silence -/

namespace Rule

/-- Whether the body of a node has a comment at one of its delimiters. -/
def EmptyMethod.isExplained (n : Node) : Bool :=
  (n.childOfKind? "Block").any Grammar.hasDelimiterComment

/-- Two units with comments at the delimiters of the same bodies. -/
def SameExplained (u v : SourceUnit) : Prop :=
  u.nodes.map EmptyMethod.isExplained = v.nodes.map EmptyMethod.isExplained

theorem EmptyMethod.isExplained_mapInfo {f : NodeInfo → NodeInfo} (hf : NodeInfo.KeepsShape f)
    (hcomments : ∀ i, (f i).comments = i.comments) (n : Node) :
    isExplained (n.mapInfo f) = isExplained n := by
  rw [isExplained, isExplained, Node.childOfKind?_mapInfo hf, Option.any_map]
  congr 1
  exact funext (Grammar.hasDelimiterComment_mapInfo_of_comments hf hcomments)

/-- Units with comments around the same nodes have them at the delimiters of the same bodies. -/
theorem sameExplained_of_sameComments {u v : SourceUnit} (hsame : u.SameButTrivia v)
    (h : u.SameComments v) : SameExplained u v := by
  let f := NodeInfo.withCommentsOnly
  have hexplained : ∀ w : SourceUnit, ((w.tree.mapInfo f).walk []).map EmptyMethod.isExplained =
      w.nodes.map EmptyMethod.isExplained := by
    intro w
    have hwalk := Tree.walk_mapInfo f [] w.tree
    rw [List.map_nil] at hwalk
    rw [hwalk, List.map_map]
    congr 1
    exact funext (EmptyMethod.isExplained_mapInfo NodeInfo.keepsShape_withCommentsOnly
      NodeInfo.comments_withCommentsOnly)
  have hbare : (u.nodes.map fun n => n.info.withoutTrivia) =
      v.nodes.map fun n => n.info.withoutTrivia := by
    have hnodes := congrArg (fun w => w.nodes.map Node.info) hsame
    simpa only [SourceUnit.nodes_withoutTrivia, List.map_map, Function.comp_def,
      Node.info_mapInfo] using hnodes
  -- what a node carries with comments only is put together from two parts that agree
  have hparts : (u.nodes.map fun n => f n.info) = v.nodes.map fun n => f n.info := by
    have hboth := congrArg (List.map fun p => p.1.commentedAs p.2) (map_pair_eq hbare h)
    rwa [List.map_map, List.map_map] at hboth
  have htree : u.tree.mapInfo f = v.tree.mapInfo f :=
    Tree.mapInfo_eq_of_map_info_eq (congrArg SourceUnit.tree hsame) hparts
  rw [SameExplained, ← hexplained u, ← hexplained v, htree]

/-- A run of the rule on empty methods without its findings, if there is a comment. -/
def Run.mute (explained : Bool) (run : Run) : Run :=
  if explained && run.ruleId == EmptyMethod.descriptor.id then ⟨run.ruleId, []⟩ else run

theorem Run.mute_of_ne {run : Run} (h : run.ruleId ≠ EmptyMethod.descriptor.id)
    (explained : Bool) : run.mute explained = run := by
  simp [mute, beq_false_of_ne h]

/-- A comment takes the place of what is found without trivia. -/
theorem EmptyMethod.map_run_withoutTrivia (g : Grammar) (u : SourceUnit) (n : Node) (pass : Pass) :
    (run ⟨g, u, n, pass⟩).map (Finding.mapInfo NodeInfo.withoutTrivia) =
      if isExplained n then []
      else run ⟨g, u.withoutTrivia, n.mapInfo NodeInfo.withoutTrivia, pass⟩ := by
  have hkeeps := NodeInfo.keepsShape_withoutTrivia
  have hempty : ∀ body : Node,
      isEmptyBody (body.mapInfo NodeInfo.withoutTrivia) = body.childNodes.isEmpty := by
    intro body
    rw [isEmptyBody, Node.childNodes_mapInfo hkeeps, List.isEmpty_map,
      Grammar.hasDelimiterComment_mapInfo hkeeps]
    simp [NodeInfo.withoutTrivia, hasComment]
  simp only [run, isExplained, Node.childOfKind?_mapInfo hkeeps]
  cases n.childOfKind? "Block" with
  | none => rfl
  | some body =>
      simp only [Option.map_some, Option.any_some, hempty, Node.kind_mapInfo hkeeps,
        mayBeEmpty_of_retells u.retells_withoutTrivia.toRetellsNodes rfl,
        Grammar.identifier?_mapInfo hkeeps]
      cases hcomment : Grammar.hasDelimiterComment body with
      | true => simp [isEmptyBody, hcomment]
      | false =>
          simp only [isEmptyBody, hcomment, Bool.not_false, Bool.and_true, Bool.false_eq_true,
            if_false]
          split
          · cases g.identifier? n <;> rfl
          · rfl

/-- The run of an action, from its run without trivia. -/
theorem runAt_eq_mute {s : Settings} {l : Language} {kind : String} {a : Action}
    (ha : a ∈ (registryOf s l).actionsFor kind) (g : Grammar) (u : SourceUnit) (n : Node)
    (pass : Pass) :
    a.runAt ⟨g, u, n, pass⟩ =
      (a.runAt ⟨g, u.withoutTrivia, n.mapInfo NodeInfo.withoutTrivia, pass⟩).mute
        (EmptyMethod.isExplained n) := by
  have hr := u.retells_withoutTrivia.toRetellsNodes
  rcases follows_of_mem_actionsFor hr ha with rfl | ⟨hid, hfollows⟩
  · let a : Action := ⟨EmptyMethod.descriptor, EmptyMethod.run⟩
    have hdiagnostic :
        a.diagnostic u.withoutTrivia ∘ Finding.mapInfo NodeInfo.withoutTrivia = a.diagnostic u :=
      funext fun x => a.diagnostic_of_retells hr.toRetellsShape x
    have hfound := EmptyMethod.map_run_withoutTrivia g u n pass
    show Run.mk a.descriptor.id ((a.run ⟨g, u, n, pass⟩).map (a.diagnostic u)) = _
    rw [← hdiagnostic, ← List.map_map, hfound, Run.mute]
    cases EmptyMethod.isExplained n <;> rfl
  · rw [Run.mute_of_ne (by exact hid), (hfollows g).runAt_eq hr.toRetellsShape]

/-- The runs over a unit are those over the unit without trivia, where the explained ones are
muted. -/
theorem runs_eq_flatMap_mute (s : Settings) (l : Language) (enabled : String → Bool)
    (u : SourceUnit) :
    (registryOf s l).runs enabled u =
      (u.nodes.map fun n =>
        (n.mapInfo NodeInfo.withoutTrivia, EmptyMethod.isExplained n)).flatMap fun p =>
          ((registryOf s l).runsAt enabled u.withoutTrivia p.1).map (Run.mute p.2) := by
  rw [Registry.runs, Registry.runsOver, List.flatMap_map]
  apply List.flatMap_congr
  intro n _
  have hmuted := (registryOf s l).map_runsAt_of_retells enabled
    u.retells_withoutTrivia.toRetellsShape id (Run.mute (EmptyMethod.isExplained n))
    fun a ha _ pass => (runAt_eq_mute ha _ u n pass).symm
  rw [hmuted, List.map_id]

end Rule

/-! ## Analyses -/

namespace Engine

variable {e : Engine}

/-- What an analysis of a unit finds depends on the runs over the unit. -/
theorem analyzeUnit_eq_of_runs (e : Engine) {u v : SourceUnit} (hpath : u.path = v.path)
    (hlanguage : u.language = v.language) (hgenerated : u.generated = v.generated)
    (hlength : u.nodes.length = v.nodes.length)
    (hruns : ∀ enabled, (registryOf e.settings v.language).runs enabled u =
      (registryOf e.settings v.language).runs enabled v) :
    e.analyzeUnit u = e.analyzeUnit v := by
  have hskips : e.skips u = e.skips v := by
    rw [skips, skips, hgenerated]
  have hexamine : e.examine (.steady false) u = e.examine (.steady false) v := by
    have hrunsOver : e.runsOver u u.nodes = e.runsOver v v.nodes := by
      simp only [runsOver, hpath, hlanguage]
      exact hruns _
    simp only [examine, Watch.admitted_steady_false, hrunsOver, hlength]
  rw [analyzeUnit, analyzeUnit, watchUnit, watchUnit, hskips]
  cases e.cancelled with
  | true => rfl
  | false =>
      simp [hexamine]

theorem analyze_congr (e : Engine) {us vs : List SourceUnit}
    (h : List.Forall₂ (fun u v => e.analyzeUnit u = e.analyzeUnit v) us vs) :
    e.analyze us = e.analyze vs := by
  rw [analyze_eq_ofFiles, analyze_eq_ofFiles, map_eq_of_forall₂ h]

/-- What other rules find in a unit is what they find in it without trivia. -/
theorem filter_findings_withoutTrivia (e : Engine) (u : SourceUnit) :
    ((e.findings u).filter fun d => d.ruleId ≠ "S1186") =
      (e.findings u.withoutTrivia).filter fun d => d.ruleId ≠ "S1186" := by
  let others : String → Bool := fun id => id ≠ "S1186"
  have hr := u.retells_withoutTrivia.toRetellsNodes
  have howned := owned_registryOf e.settings u.language
  have hruns :
      (registryOf e.settings u.language).runsOver others u.withoutTrivia u.withoutTrivia.nodes =
        (registryOf e.settings u.language).runsOver others u u.nodes := by
    rw [u.nodes_withoutTrivia]
    apply Registry.runsOver_of_follows hr.toRetellsShape
    intro kind a ha hothers
    rcases follows_of_mem_actionsFor hr ha with rfl | ⟨-, hfollows⟩
    · cases hothers
    · exact hfollows _
  have hanalyze : ∀ w : SourceUnit,
      (((registryOf e.settings u.language).analyze w).filter fun d => others d.ruleId) =
        ((registryOf e.settings u.language).runsOver others w w.nodes).flatMap Run.diagnostics :=
    fun w => (Registry.flatMap_diagnostics_runsOver howned others w w.nodes).symm
  have hskips : e.skips u.withoutTrivia = e.skips u := rfl
  rw [findings, findings, hskips]
  split
  · rfl
  · exact (hanalyze u).trans ((congrArg _ hruns.symm).trans (hanalyze u.withoutTrivia).symm)

theorem filter_findings_of_sameButTrivia (e : Engine) {u v : SourceUnit}
    (h : u.SameButTrivia v) :
    ((e.findings u).filter fun d => d.ruleId ≠ "S1186") =
      (e.findings v).filter fun d => d.ruleId ≠ "S1186" := by
  have hbare : u.withoutTrivia = v.withoutTrivia := h
  rw [filter_findings_withoutTrivia, hbare, ← filter_findings_withoutTrivia]

theorem filter_diagnostics_analyze (hclear : e.cancelled = false) (us : List SourceUnit) :
    ((e.analyze us).diagnostics.filter fun d => d.ruleId ≠ "S1186") =
      ((Diagnostic.sort (us.flatMap fun u =>
        (e.findings u).filter fun d => d.ruleId ≠ "S1186")).filter e.keeps).map
          e.withSeverity := by
  rw [diagnostics_analyze hclear, filter_map_withSeverity e fun id => id ≠ "S1186",
    Diagnostic.filter_sort, List.filter_flatMap]

/-- Units that differ only in trivia, and explain the same empty bodies, are analyzed alike. -/
theorem analyzeUnit_of_sameExplained (e : Engine) {u v : SourceUnit} (hsame : u.SameButTrivia v)
    (h : SameExplained u v) : e.analyzeUnit u = e.analyzeUnit v := by
  have hbare : u.withoutTrivia = v.withoutTrivia := hsame
  have hnodes : u.nodes.map (Node.mapInfo NodeInfo.withoutTrivia) =
      v.nodes.map (Node.mapInfo NodeInfo.withoutTrivia) := by
    rw [← u.nodes_withoutTrivia, ← v.nodes_withoutTrivia, hbare]
  apply e.analyzeUnit_eq_of_runs
  · show u.withoutTrivia.path = v.withoutTrivia.path
    rw [hbare]
  · show u.withoutTrivia.language = v.withoutTrivia.language
    rw [hbare]
  · show u.withoutTrivia.generated = v.withoutTrivia.generated
    rw [hbare]
  · simpa using congrArg List.length hnodes
  · intro enabled
    rw [runs_eq_flatMap_mute, runs_eq_flatMap_mute, map_pair_eq hnodes h, hbare]

/-- An analysis depends on trivia through the comments at the delimiters of bodies only, and through
these only in what it reports on empty methods. So it depends on no more than at which nodes there
are comments. -/
theorem analyze_ignores_trivia (e : Engine) {us vs : List SourceUnit}
    (h : List.Forall₂ SourceUnit.SameButTrivia us vs) :
    ((e.analyze us).diagnostics.filter fun d => d.ruleId ≠ "S1186") =
      ((e.analyze vs).diagnostics.filter fun d => d.ruleId ≠ "S1186") ∧
    (List.Forall₂ SameExplained us vs → e.analyze us = e.analyze vs) ∧
    (List.Forall₂ SourceUnit.SameComments us vs → e.analyze us = e.analyze vs) := by
  have hexplained : List.Forall₂ SameExplained us vs → e.analyze us = e.analyze vs := by
    intro hsame
    exact e.analyze_congr (h.mp (fun u v k hsame => e.analyzeUnit_of_sameExplained k hsame) hsame)
  refine ⟨?_, hexplained, ?_⟩
  · cases hflag : e.cancelled with
    | true =>
        have hstopped : ∀ u v : SourceUnit, e.analyzeUnit u = e.analyzeUnit v := by
          intro u v
          rw [analyzeUnit, analyzeUnit, watchUnit, watchUnit, hflag]
          rfl
        rw [e.analyze_congr (h.imp fun u v _ => hstopped u v)]
    | false =>
        have hfindings := List.Forall₂.imp (fun u v => e.filter_findings_of_sameButTrivia) h
        rw [filter_diagnostics_analyze hflag, filter_diagnostics_analyze hflag, List.flatMap_def,
          map_eq_of_forall₂ hfindings, List.flatMap_def]
  · intro hsame
    exact hexplained (h.mp (fun u v k hsame => sameExplained_of_sameComments k hsame) hsame)

/-- Of the standard engine and one method without statements, with documentation or with a comment
behind its opening brace. -/
theorem analyze_ignores_trivia_emptyMethod :
    let e : Engine := ⟨Config.standard, Settings.standard, Glob.isMatch, false⟩
    let info (id : NodeId) (kind : String) (text : Option String) (trailing : List Trivia) :
        NodeInfo :=
      ⟨id, kind, none, text, ⟨⟨1, 1⟩, ⟨1, 2⟩⟩, [], trailing, none, none, none, none⟩
    let unit (trailing : List Trivia) : SourceUnit :=
      let name : Tree := .node (info 1 "IdentifierToken" (some "F") []) []
      let opening : Tree := .node (info 3 "OpenBraceToken" (some "\x7b") trailing) []
      let closing : Tree := .node (info 4 "CloseBraceToken" (some "\x7d") []) []
      let body : Tree := .node (info 2 "Block" none []) [opening, closing]
      let method : Tree := .node (info 0 "MethodDeclaration" none []) [name, body]
      ⟨"Empty.cs", .csharp, false, false, method, Symbols.SymbolTable.empty⟩
    let bare := unit []
    let documented := unit [⟨.documentationComment, "/// todo"⟩]
    let commented := unit [⟨.singleLineComment, "// todo"⟩]
    List.Forall₂ SourceUnit.SameButTrivia [bare] [documented] ∧
      List.Forall₂ SameExplained [bare] [documented] ∧
      List.Forall₂ SourceUnit.SameComments [bare] [documented] ∧
      e.analyze [bare] = e.analyze [documented] ∧
      List.Forall₂ SourceUnit.SameButTrivia [bare] [commented] ∧
      ((e.analyze [bare]).diagnostics.filter fun d => d.ruleId ≠ "S1186") =
        (e.analyze [commented]).diagnostics.filter fun d => d.ruleId ≠ "S1186" := by
  intro e info unit bare documented commented
  have hsame : List.Forall₂ SourceUnit.SameButTrivia [bare] [documented] :=
    .cons rfl .nil
  have hexplained : List.Forall₂ SameExplained [bare] [documented] :=
    .cons (by unfold SameExplained; decide +kernel) .nil
  have hcomments : List.Forall₂ SourceUnit.SameComments [bare] [documented] :=
    .cons rfl .nil
  have hother : List.Forall₂ SourceUnit.SameButTrivia [bare] [commented] :=
    .cons rfl .nil
  exact ⟨hsame, hexplained, hcomments, (analyze_ignores_trivia e hsame).2.1 hexplained, hother,
    (analyze_ignores_trivia e hother).1⟩

end Engine
end TreeLint
