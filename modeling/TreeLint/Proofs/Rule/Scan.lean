import Mathlib.Data.List.Basic
import Mathlib.Data.List.Induction
import TreeLint.Proofs.Rule.Dispatch
import TreeLint.Proofs.Syntax.Nesting

/-!
# Dispatch as a scan

A registry turns the requests round: it keeps the actions by kind, so that at a node only those for
its kind are looked up. The same runs come of a scan that asks every request in turn at every node.
A request that lists a kind several times has its action run as many times, and the second visit of
a positional record repeats all of the first.

**Results.**
* `Registry.answers_registryOf`: what the registry of a language keeps.
* `Registry.Answers.runs_eq_scan`: the runs of the rules that are enabled.
* `filter_actionsFor_eq`: the actions of one rule.
* `evaluations_tallyRuns`: how often the rules were evaluated.
* `dispatch_eq_scan`: the diagnostics and the evaluations are those of the scan.
-/

namespace TreeLint
namespace Rule

open Report Source Syntax

theorem flatMap_filter {α β : Type} (l : List α) (p : α → Bool) (f : α → List β) :
    (l.filter p).flatMap f = l.flatMap fun a => if p a then f a else [] := by
  induction l with
  | nil => rfl
  | cons a l ih =>
      rw [List.filter_cons, List.flatMap_cons, ← ih]
      split
      · rw [List.flatMap_cons]
      · rw [List.nil_append]

/-! ## The scan -/

/-- A visit of a node: every request has its action run as often as it lists the kind. -/
def scanVisit (qs : List Request) (v : Visit) : List Run :=
  qs.flatMap fun q => List.replicate (q.kinds.count v.node.kind) (q.action.runAt v)

/-- A node of a known kind is visited as a declaration, and a positional record once more as the
constructor that it declares. -/
def scanAt (g : Grammar) (qs : List Request) (u : SourceUnit) (n : Node) : List Run :=
  if g.knows n.kind then
    scanVisit qs ⟨g, u, n, .declaration⟩ ++
      if g.isPositionalRecord n then scanVisit qs ⟨g, u, n, .primaryConstructor⟩ else []
  else []

def scan (g : Grammar) (qs : List Request) (u : SourceUnit) : List Run :=
  u.nodes.flatMap (scanAt g qs u)

/-! ## What a registry keeps -/

/-- What requests ask for at nodes of a kind. -/
def askedFor (g : Grammar) (qs : List Request) (kind : String) : List Action :=
  if g.knows kind then qs.flatMap fun q => List.replicate (q.kinds.count kind) q.action else []

@[simp] theorem askedFor_append (g : Grammar) (ps qs : List Request) (kind : String) :
    askedFor g (ps ++ qs) kind = askedFor g ps kind ++ askedFor g qs kind := by
  unfold askedFor
  split
  · rw [List.flatMap_append]
  · rfl

namespace Registry

@[simp] theorem grammar_foldl_addAction (a : Action) (kinds : List String) (r : Registry) :
    (kinds.foldl (addAction a) r).grammar = r.grammar := by
  induction kinds generalizing r with
  | nil => rfl
  | cons kind kinds ih => exact ih (r.addAction a kind)

@[simp] theorem grammar_foldl_request (qs : List Request) (r : Registry) :
    (qs.foldl request r).grammar = r.grammar := by
  induction qs generalizing r with
  | nil => rfl
  | cons q qs ih => exact (ih (r.request q)).trans (grammar_foldl_addAction q.action _ r)

theorem actionsFor_foldl_addAction (a : Action) (kinds : List String) (r : Registry) (k : String) :
    (kinds.foldl (addAction a) r).actionsFor k =
      r.actionsFor k ++ List.replicate (kinds.count k) a := by
  induction kinds generalizing r with
  | nil => simp
  | cons kind kinds ih =>
      rw [List.foldl_cons, ih, actionsFor_addAction, List.count_cons]
      by_cases hk : kind = k
      · simp [hk, List.replicate_succ]
      · simp [hk]

/-- A request adds its action as often as it lists a kind that the grammar knows. -/
@[simp] theorem actionsFor_request (r : Registry) (q : Request) (k : String) :
    (r.request q).actionsFor k = r.actionsFor k ++ askedFor r.grammar [q] k := by
  rw [request, actionsFor_foldl_addAction, askedFor, List.flatMap_singleton]
  split
  · rename_i hk
    rw [List.count_filter hk]
  · rename_i hk
    have hnone : (q.kinds.filter r.grammar.knows).count k = 0 :=
      List.count_eq_zero.mpr fun hmem => hk (List.mem_filter.mp hmem).2
    simp [hnone]

/-- What is kept for a kind stands in the order of the requests. -/
@[simp] theorem actionsFor_foldl_request (qs : List Request) (r : Registry) (k : String) :
    (qs.foldl request r).actionsFor k = r.actionsFor k ++ askedFor r.grammar qs k := by
  induction qs generalizing r with
  | nil => simp [askedFor]
  | cons q qs ih =>
      have hgrammar : (r.request q).grammar = r.grammar := grammar_foldl_request [q] r
      rw [List.foldl_cons, ih, hgrammar, actionsFor_request, List.append_assoc, ← askedFor_append]
      rfl

/-- A registry of a language keeps what some requests ask for. -/
structure Answers (r : Registry) (g : Grammar) (qs : List Request) : Prop where
  grammar : r.grammar = g
  actions : ∀ kind, r.actionsFor kind = askedFor g qs kind

theorem answers_empty (g : Grammar) : (empty g).Answers g [] where
  grammar := rfl
  actions := by
    intro kind
    simp [empty, actionsFor, askedFor]

theorem Answers.foldl_request {r : Registry} {g : Grammar} {ps : List Request}
    (h : r.Answers g ps) (qs : List Request) : (qs.foldl request r).Answers g (ps ++ qs) where
  grammar := (grammar_foldl_request qs r).trans h.grammar
  actions := by
    intro kind
    simp [h.actions, h.grammar]

theorem Answers.addRule {r : Registry} {g : Grammar} {ps : List Request} (h : r.Answers g ps)
    (rule : Descriptor × List Request) : (r.addRule rule).Answers g (ps ++ rule.2) := by
  have hdescriptor : (r.addDescriptor rule.1).Answers g ps := by
    unfold addDescriptor
    split
    · exact h
    · exact ⟨h.grammar, h.actions⟩
  exact hdescriptor.foldl_request rule.2

theorem Answers.foldl_addRule {g : Grammar} (rules : List (Descriptor × List Request)) :
    ∀ {r : Registry} {ps : List Request}, r.Answers g ps →
      (rules.foldl Registry.addRule r).Answers g (ps ++ rules.flatMap Prod.snd) := by
  induction rules with
  | nil =>
      intro r ps h
      simpa using h
  | cons rule rules ih =>
      intro r ps h
      rw [List.flatMap_cons, ← List.append_assoc]
      exact ih (h.addRule rule)

/-- The registry of a language keeps what its rules ask for. -/
theorem answers_registryOf (s : Settings) (l : Language) :
    (registryOf s l).Answers (grammarOf l) ((rulesOf s l).flatMap Prod.snd) :=
  (answers_empty (grammarOf l)).foldl_addRule (rulesOf s l)

/-! ## Runs -/

namespace Answers

variable {r : Registry} {g : Grammar} {qs : List Request} (h : r.Answers g qs) (u : SourceUnit)
include h

/-- The runs at a node are those of the scan. -/
theorem runsAt_eq_scanAt (n : Node) : r.runsAt (fun _ => true) u n = scanAt g qs u n := by
  have hvisit : ∀ pass,
      (qs.flatMap fun q => List.replicate (q.kinds.count n.kind) q.action).map
          (fun a => a.runAt ⟨g, u, n, pass⟩) = scanVisit qs ⟨g, u, n, pass⟩ := by
    intro pass
    rw [scanVisit, List.map_flatMap]
    simp only [List.map_replicate]
  have hfilter : ∀ actions : List Action, (actions.filter fun _ => true) = actions :=
    fun actions => List.filter_eq_self.mpr fun _ _ => rfl
  rw [runsAt, h.actions, h.grammar, hfilter, askedFor, scanAt, passes]
  split
  · split
    · simp only [List.flatMap_cons, List.flatMap_nil, List.append_nil, hvisit]
    · simp only [List.flatMap_cons, List.flatMap_nil, List.append_nil, hvisit]
  · simp

/-- The runs of the enabled rules are those of the scan that belong to enabled rules. -/
theorem runs_eq_scan (enabled : String → Bool) :
    r.runs enabled u = (scan g qs u).filter fun run => enabled run.ruleId := by
  have hall : r.runsAt (fun _ => true) u = scanAt g qs u := funext (h.runsAt_eq_scanAt u)
  rw [runs, runsOver_eq_filter, runsOver, hall, scan]

end Answers
end Registry

/-! ## The actions of one rule -/

/-- The actions of one rule are those that the rule asks for. -/
theorem filter_actionsFor_eq (s : Settings) (l : Language) (ruleId kind : String) :
    (((registryOf s l).actionsFor kind).filter fun a => a.descriptor.id == ruleId) =
      askedFor (grammarOf l)
        (((rulesOf s l).filter fun rule => rule.1.id == ruleId).flatMap Prod.snd) kind := by
  rw [(Registry.answers_registryOf s l).actions, askedFor, askedFor]
  split
  · rw [List.flatMap_assoc, List.flatMap_assoc, List.filter_flatMap, flatMap_filter]
    apply List.flatMap_congr
    intro rule hrule
    have hid : ∀ a ∈ rule.2.flatMap fun q => List.replicate (q.kinds.count kind) q.action,
        a.descriptor.id = rule.1.id := by
      intro a ha
      obtain ⟨q, hq, ha⟩ := List.mem_flatMap.mp ha
      rw [(List.mem_replicate.mp ha).2, (isOwn_of_mem_rulesOf hrule hq).2]
    split
    · rename_i h
      exact List.filter_eq_self.mpr fun a ha => by rwa [hid a ha]
    · rename_i h
      exact List.filter_eq_nil_iff.mpr fun a ha => by rwa [hid a ha]
  · rfl

/-! ## Evaluations -/

/-- A table of tallies has an entry for the rules that were run, which counts their runs. -/
theorem evaluations_tallyRuns (ruleId : String) (runs : List Run) :
    (tallyRuns runs)[ruleId]?.map Tally.evaluations =
      if 0 < runs.countP fun run => run.ruleId == ruleId then
        some (runs.countP fun run => run.ruleId == ruleId)
      else none := by
  induction runs using List.reverseRecOn with
  | nil => simp [tallyRuns]
  | append_singleton runs run ih =>
      have hlast : tallyRuns (runs ++ [run]) =
          (tallyRuns runs).addTo run.ruleId ⟨0, 1, run.diagnostics.length⟩ := by
        simp [tallyRuns]
      rw [hlast, List.countP_append, List.countP_singleton]
      by_cases hid : run.ruleId = ruleId
      · subst hid
        rw [Tallies.getElem?_addTo_self]
        cases hentry : (tallyRuns runs)[run.ruleId]? with
        | none =>
            have hzero : ¬0 < runs.countP fun other => other.ruleId == run.ruleId := by
              intro hpos
              simp [hentry, hpos] at ih
            simp [Nat.eq_zero_of_not_pos hzero]
        | some t =>
            have hcount : t.evaluations = runs.countP fun other => other.ruleId == run.ruleId := by
              rw [hentry, Option.map_some] at ih
              split at ih
              · exact Option.some.inj ih
              · cases ih
            simp [Tally.add, hcount]
      · rw [Tallies.getElem?_addTo_of_ne _ hid, ih]
        simp [hid]

theorem countP_filter_ruleId (enabled : String → Bool) (ruleId : String) (runs : List Run) :
    ((runs.filter fun run => enabled run.ruleId).countP fun run => run.ruleId == ruleId) =
      if enabled ruleId then runs.countP fun run => run.ruleId == ruleId else 0 := by
  rw [List.countP_filter]
  by_cases henabled : enabled ruleId = true
  · rw [if_pos henabled]
    apply List.countP_congr
    intro run _
    simp only [Bool.and_eq_true, beq_iff_eq]
    constructor
    · exact And.left
    · rintro rfl
      exact ⟨rfl, henabled⟩
  · rw [if_neg henabled, List.countP_eq_zero]
    intro run _
    simp only [Bool.and_eq_true, beq_iff_eq]
    rintro ⟨rfl, h⟩
    exact henabled h

/-- Dispatch by kind gives what a scan gives: the same diagnostics, and as many evaluations of each
rule that is enabled. A node of an unknown kind has no runs, but the nodes below it have theirs. -/
theorem dispatch_eq_scan (g : Grammar) (qs : List Request) (u : SourceUnit) :
    let r := qs.foldl Registry.request (Registry.empty g)
    r.analyze u = (scan g qs u).flatMap Run.diagnostics ∧
    (∀ enabled (n : Node),
      r.runsOver enabled u n.descendants =
        (if g.knows n.kind then r.runsAt enabled u n else []) ++
          n.children.flatMap fun c => r.runsOver enabled u c.descendants) ∧
    ∀ enabled ruleId,
      let evaluations := (scan g qs u).countP fun run => run.ruleId == ruleId
      (tallyRuns (r.runs enabled u))[ruleId]?.map Tally.evaluations =
        if enabled ruleId ∧ 0 < evaluations then some evaluations else none := by
  intro r
  have hr : r.Answers g qs := (Registry.answers_empty g).foldl_request qs
  refine ⟨?_, ?_, ?_⟩
  · rw [Registry.analyze, hr.runs_eq_scan, List.filter_eq_self.mpr fun _ _ => rfl]
  · intro enabled n
    have hrunsAt : r.runsAt enabled u n = if g.knows n.kind then r.runsAt enabled u n else [] := by
      rw [Registry.runsAt_eq_filter, hr.runsAt_eq_scanAt, scanAt]
      split
      · rfl
      · rfl
    rw [← hrunsAt, Registry.runsOver, n.descendants_eq_cons_flatMap, List.flatMap_cons,
      List.flatMap_assoc]
    rfl
  · intro enabled ruleId evaluations
    rw [hr.runs_eq_scan, evaluations_tallyRuns, countP_filter_ruleId]
    by_cases henabled : enabled ruleId = true
    · simp only [henabled, if_true, true_and]
      rfl
    · simp [henabled]

end Rule
end TreeLint
