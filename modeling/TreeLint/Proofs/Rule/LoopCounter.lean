import Mathlib.Data.List.Nodup
import Mathlib.Data.List.Perm.Basic
import TreeLint.Proofs.Grammar.Targets
import TreeLint.Proofs.Rule.Message
import TreeLint.Proofs.Rule.Scan
import TreeLint.Proofs.Syntax.Tables

/-!
# Reports on loop counters

The rule on loop counters goes from loop to loop and looks for updates in the body of each. Seen
from an update, this is a count: there is one report for every loop around it that has the updated
symbol among its counters. So an update in nested loops that share a counter is reported once for
each of them, and an update in the header of a loop only on behalf of the loops further out.

**Results.**
* `runsAt_eq`: the only runs of the rule are those at loops.
* `filter_analyze_eq_flatMap`: the reports, loop by loop.
* `flatMap_filter_perm`: what is listed row by row and what is listed column by column.
* `analyze_counts_loops`: the reports, update by update.
-/

namespace TreeLint
namespace Rule
namespace LoopCounter

open Report Source Symbols Syntax

/-! ## Updates -/

/-- A change of an expression that refers to a symbol: the node that makes the change, the
expression, and the symbol. -/
structure Update where
  node : Node
  target : Node
  symbol : Symbol

/-- The updates that a node makes. -/
def updatesAt (u : SourceUnit) (n : Node) : List Update :=
  (changedBy Grammar.csharp n).filterMap fun target =>
    (Grammar.csharp.symbol? u target).map fun s => ⟨n, target, s⟩

def updates (u : SourceUnit) : List Update :=
  u.nodes.flatMap (updatesAt u)

/-- Whether the node that makes an update is the body of a loop or stands below it. -/
def Update.isInBodyOf (loop : Node) (up : Update) : Bool :=
  (body? loop).any fun body =>
    up.node.same body || up.node.ancestors.any fun a => a.same body

/-- Whether an update changes a counter of a loop in its body. -/
def Update.isAgainst (u : SourceUnit) (loop : Node) (up : Update) : Bool :=
  up.isInBodyOf loop && (counters Grammar.csharp u loop).contains up.symbol.id

def loops (u : SourceUnit) : List Node :=
  u.nodes.filter fun n => n.kind == "ForStatement"

/-- The report on an update. -/
def Update.report (u : SourceUnit) (up : Update) : Diagnostic where
  ruleId := "S127"
  severity := .warning
  message := "Do not update the loop counter '" ++ up.symbol.name ++ "' within the loop body."
  path := u.path
  span := up.target.span
  help := some "\"for\" loop stop conditions should be invariant"

theorem node_of_mem_updatesAt {u : SourceUnit} {n : Node} {up : Update}
    (h : up ∈ updatesAt u n) : up.node = n := by
  obtain ⟨target, -, hup⟩ := List.mem_filterMap.mp h
  obtain ⟨s, -, rfl⟩ := Option.map_eq_some_iff.mp hup
  rfl

/-! ## The runs of the rule -/

/-- The rule names the symbol in its message. -/
@[simp] theorem fill_message (name : String) :
    fill descriptor.message [name] =
      "Do not update the loop counter '" ++ name ++ "' within the loop body." := by
  have htemplate : descriptor.message =
      "Do not update the loop counter '" ++ "\x7b0\x7d" ++ "' within the loop body." := by
    rfl
  rw [htemplate, fill_singleton (by decide) (by decide)]

/-- The rule runs at the loops, once at each. -/
theorem runsAt_eq (s : Settings) (u : SourceUnit) (n : Node) :
    (registryOf s .csharp).runsAt (fun id => id == "S127") u n =
      if n.kind == "ForStatement" then
        [Action.runAt ⟨descriptor, run⟩ ⟨Grammar.csharp, u, n, .declaration⟩]
      else [] := by
  have hrules : ((rulesOf s .csharp).filter fun rule => rule.1.id == "S127") =
      [(descriptor, requests)] := by
    rfl
  have hgrammar : (registryOf s .csharp).grammar = Grammar.csharp :=
    (Registry.answers_registryOf s .csharp).grammar
  rw [Registry.runsAt, filter_actionsFor_eq, hrules, hgrammar, List.flatMap_singleton, askedFor]
  by_cases hkind : n.kind = "ForStatement"
  · have honce : passes Grammar.csharp n = [.declaration] := by
      have hrecord : Grammar.csharp.isPositionalRecord n = false := by
        rw [Grammar.isPositionalRecord, Node.isAny, hkind]
        rfl
      rw [passes, hrecord]
      rfl
    rw [honce, hkind]
    rfl
  · have hnone : (if (grammarOf .csharp).knows n.kind then
        requests.flatMap fun q => List.replicate (q.kinds.count n.kind) q.action else []) = [] := by
      have hcount : List.count n.kind ["ForStatement"] = 0 :=
        List.count_eq_zero.mpr fun hmem => hkind (List.mem_singleton.mp hmem)
      split
      · simp [requests, hcount]
      · rfl
    rw [hnone, beq_false_of_ne hkind]
    simp

/-- The reports of the rule, loop by loop. -/
theorem filter_analyze_eq_flatMap (s : Settings) (u : SourceUnit) :
    (((registryOf s .csharp).analyze u).filter fun d => d.ruleId == "S127") =
      (loops u).flatMap fun loop =>
        (run ⟨Grammar.csharp, u, loop, .declaration⟩).map
          (Action.diagnostic ⟨descriptor, run⟩ u) := by
  have hruns := Registry.flatMap_diagnostics_runsOver (owned_registryOf s .csharp)
    (fun id => id == "S127") u u.nodes
  rw [Registry.analyze, Registry.runs, ← hruns, Registry.runsOver, List.flatMap_assoc, loops,
    flatMap_filter]
  apply List.flatMap_congr
  intro n _
  rw [runsAt_eq]
  split
  · rw [List.flatMap_singleton]
    rfl
  · rfl

/-! ## Reports at one loop -/

/-- The diagnostic of a finding of the rule is the report on the update. -/
theorem diagnostic_eq_report (u : SourceUnit) (up : Update) :
    Action.diagnostic ⟨descriptor, run⟩ u ⟨up.target, .own [up.symbol.name]⟩ = up.report u := by
  show Diagnostic.mk _ _ (fill descriptor.message [up.symbol.name]) _ _ _ = _
  rw [fill_message]
  rfl

/-- What is reported on the updates that one node makes. -/
theorem map_filterMap_finding? (u : SourceUnit) (cs : List SymbolId) (n : Node) :
    ((changedBy Grammar.csharp n).filterMap (finding? Grammar.csharp u cs)).map
        (Action.diagnostic ⟨descriptor, run⟩ u) =
      ((updatesAt u n).filter fun up => cs.contains up.symbol.id).map (Update.report u) := by
  rw [updatesAt, List.map_filterMap, List.filter_filterMap, List.map_filterMap]
  congr 1
  funext target
  rw [finding?]
  cases Grammar.csharp.symbol? u target with
  | none => rfl
  | some s =>
      simp only [Option.map_some, Option.filter_some]
      split
      · rw [Option.map_some, Option.map_some, ← diagnostic_eq_report]
      · rfl

theorem mem_children_of_body? {loop body : Node} (h : body? loop = some body) :
    body ∈ loop.children := by
  rcases Option.or_eq_some_iff.mp h with hrole | ⟨-, hlast⟩
  · exact List.mem_of_find?_eq_some hrole
  · exact Node.mem_children_of_getLast?_childNodes hlast

/-- At a loop the updates in its body are reported that are against its counters. -/
theorem map_run_eq {u : SourceUnit} (h : u.tree.Numbered) {loop : Node} (hloop : loop ∈ u.nodes) :
    (run ⟨Grammar.csharp, u, loop, .declaration⟩).map (Action.diagnostic ⟨descriptor, run⟩ u) =
      ((updates u).filter (Update.isAgainst u loop)).map (Update.report u) := by
  let cs := counters Grammar.csharp u loop
  cases hbody : body? loop with
  | none =>
      have hnone : (updates u).filter (Update.isAgainst u loop) = [] := by
        apply List.filter_eq_nil_iff.mpr
        intro up _
        simp [Update.isAgainst, Update.isInBodyOf, hbody]
      rw [run, hbody, hnone]
      rfl
  | some body =>
      let below (n : Node) : Bool := n.same body || n.ancestors.any fun a => a.same body
      have hbelow : body.descendants = u.nodes.filter below :=
        h.descendants_eq_filter (Tree.mem_walk_of_mem_children hloop (mem_children_of_body? hbody))
      have hat : ∀ n ∈ u.nodes,
          (if below n then
              ((updatesAt u n).filter fun up => cs.contains up.symbol.id).map (Update.report u)
            else []) =
            ((updatesAt u n).filter (Update.isAgainst u loop)).map (Update.report u) := by
        intro n _
        have hagainst : ∀ up ∈ updatesAt u n,
            up.isAgainst u loop = (below n && cs.contains up.symbol.id) := by
          intro up hup
          rw [Update.isAgainst, Update.isInBodyOf, hbody, node_of_mem_updatesAt hup]
          rfl
        rw [List.filter_congr hagainst]
        cases below n with
        | true => simp only [if_true, Bool.true_and]
        | false => simp
      calc
        (run ⟨Grammar.csharp, u, loop, .declaration⟩).map (Action.diagnostic ⟨descriptor, run⟩ u)
            = body.descendants.flatMap fun n =>
                ((updatesAt u n).filter fun up => cs.contains up.symbol.id).map
                  (Update.report u) := by
              simp only [run, hbody, changedIn, List.filterMap_flatMap, List.map_flatMap,
                map_filterMap_finding?, cs]
        _ = u.nodes.flatMap fun n =>
              ((updatesAt u n).filter (Update.isAgainst u loop)).map (Update.report u) := by
              rw [hbelow, flatMap_filter]
              exact List.flatMap_congr hat
        _ = ((updates u).filter (Update.isAgainst u loop)).map (Update.report u) := by
              rw [updates, List.filter_flatMap, List.map_flatMap]

/-! ## Reports on one update -/

/-- What is listed for each of some rows is, in another order, what is listed for each of some
columns. -/
theorem flatMap_filter_perm {α β γ : Type} (r : α → β → Bool) (f : β → γ) (rows : List α)
    (columns : List β) :
    (rows.flatMap fun a => (columns.filter (r a)).map f).Perm
      (columns.flatMap fun b => List.replicate (rows.filter fun a => r a b).length (f b)) := by
  induction rows with
  | nil => simp
  | cons a rows ih =>
      have hfirst : (columns.filter (r a)).map f =
          columns.flatMap fun b => if r a b then [f b] else [] := by
        rw [List.map_eq_flatMap, flatMap_filter]
      rw [List.flatMap_cons, hfirst]
      refine (ih.append_left _).trans ((List.flatMap_append_perm columns _ _).trans ?_)
      apply List.Perm.of_eq
      apply List.flatMap_congr
      intro b _
      rw [List.filter_cons]
      split
      · rfl
      · rfl

/-- The loops whose counters an update is against. -/
def Update.loopsAround (u : SourceUnit) (up : Update) : List Node :=
  (loops u).filter fun loop => up.isAgainst u loop

/-- What a node changes is found in the order of the walk at and below it. -/
theorem changedBy_sublist_descendants (g : Grammar) (n : Node) :
    (changedBy g n).Sublist n.descendants := by
  unfold changedBy
  split
  · cases hhead : n.childNodes.head? with
    | none => exact List.nil_sublist _
    | some c =>
        have hchild : c ∈ n.children := Node.mem_children_of_head?_childNodes hhead
        exact List.singleton_sublist.mpr (Node.mem_descendants_of_mem_children hchild)
  · split
    · exact g.targets_sublist_descendants n
    · exact List.nil_sublist _

theorem map_target_updatesAt (u : SourceUnit) (n : Node) :
    (updatesAt u n).map Update.target =
      (changedBy Grammar.csharp n).filter fun t => (Grammar.csharp.symbol? u t).isSome := by
  rw [updatesAt, List.map_filterMap, ← List.filterMap_eq_filter]
  congr 1
  funext target
  cases hs : Grammar.csharp.symbol? u target <;> simp [Option.guard, hs]

/-- The expressions that one node changes have different numbers. -/
theorem nodup_updatesAt {u : SourceUnit} (h : u.tree.Numbered) {n : Node} (hn : n ∈ u.nodes) :
    ((updatesAt u n).map fun up => up.target.id).Nodup := by
  have htargets : ((updatesAt u n).map Update.target).Sublist u.nodes := by
    rw [map_target_updatesAt]
    exact List.filter_sublist.trans ((changedBy_sublist_descendants _ n).trans
      (Tree.descendants_isInfix_walk hn).sublist)
  have hids := htargets.map Node.id
  rw [List.map_map] at hids
  exact h.nodup_ids.sublist hids

/-- No pair of a node and an expression that it changes is listed twice. -/
theorem nodup_updates {u : SourceUnit} (h : u.tree.Numbered) :
    ((updates u).map fun up => (up.node.id, up.target.id)).Nodup := by
  rw [updates, List.map_flatMap, List.nodup_flatMap]
  constructor
  · intro n hn
    apply List.Nodup.of_map Prod.snd
    rw [List.map_map]
    exact nodup_updatesAt h hn
  · -- updates of different nodes differ in the first number
    have hdifferent : u.nodes.Pairwise fun a b => a.id ≠ b.id :=
      List.pairwise_map.mp h.nodup_ids
    refine hdifferent.imp ?_
    intro a b hne pair ha hb
    obtain ⟨up, hup, rfl⟩ := List.mem_map.mp ha
    obtain ⟨other, hother, hpair⟩ := List.mem_map.mp hb
    have hnodes : other.node.id = up.node.id := congrArg Prod.fst hpair
    rw [node_of_mem_updatesAt hup, node_of_mem_updatesAt hother] at hnodes
    exact hne hnodes.symm

/-- The rule on loop counters reports an update once for every loop around it that has the updated
symbol among its counters, and reports nothing else. -/
theorem analyze_counts_loops (s : Settings) {u : SourceUnit} (h : u.tree.Numbered) :
    (((registryOf s .csharp).analyze u).filter fun d => d.ruleId == "S127").Perm
        ((updates u).flatMap fun up =>
          List.replicate (up.loopsAround u).length (up.report u)) ∧
      ((updates u).map fun up => (up.node.id, up.target.id)).Nodup := by
  refine ⟨?_, nodup_updates h⟩
  have hloops : ∀ loop ∈ loops u,
      (run ⟨Grammar.csharp, u, loop, .declaration⟩).map (Action.diagnostic ⟨descriptor, run⟩ u) =
        ((updates u).filter (Update.isAgainst u loop)).map (Update.report u) :=
    fun loop hloop => map_run_eq h (List.mem_filter.mp hloop).1
  rw [filter_analyze_eq_flatMap, List.flatMap_congr hloops]
  exact flatMap_filter_perm (Update.isAgainst u) (Update.report u) (loops u) (updates u)

/-- Of two nested loops with one counter, which the header of the inner loop assigns and its body
increments. -/
theorem analyze_counts_loops_nested :
    let info (id : NodeId) (kind : String) (reference declared : Option SymbolId) : NodeInfo :=
      ⟨id, kind, none, none, ⟨⟨1, id⟩, ⟨1, id⟩⟩, [], [], reference, declared, none, none⟩
    let name (id : NodeId) : Tree := .node (info id "IdentifierName" (some 7) none) []
    let increment : Tree := .node (info 8 "PostIncrementExpression" none none) [name 9]
    let inner : Tree := .node (info 4 "ForStatement" none none)
      [.node (info 5 "SimpleAssignmentExpression" none none) [name 6],
        .node (info 7 "Block" none none) [increment]]
    let outer : Tree := .node (info 0 "ForStatement" none none)
      [.node (info 1 "VariableDeclaration" none none)
          [.node (info 2 "VariableDeclarator" none (some 7)) []],
        .node (info 3 "Block" none none) [inner]]
    let symbol : Symbol := ⟨7, "i", .local, none, none, false, false, false, none⟩
    let u : SourceUnit :=
      ⟨"Nested.cs", .csharp, false, false, outer, SymbolTable.empty.insert symbol⟩
    u.tree.Numbered ∧
      ((updates u).map fun up => (up.node.id, (up.loopsAround u).length)) = [(5, 1), (8, 2)] ∧
      (((registryOf Settings.standard .csharp).analyze u).filter fun d => d.ruleId == "S127").Perm
        ((updates u).flatMap fun up =>
          List.replicate (up.loopsAround u).length (up.report u)) := by
  intro info name increment inner outer symbol u
  have h : u.tree.Numbered := by
    rfl
  exact ⟨h, by decide +kernel, (analyze_counts_loops Settings.standard h).1⟩

end LoopCounter
end Rule
end TreeLint
