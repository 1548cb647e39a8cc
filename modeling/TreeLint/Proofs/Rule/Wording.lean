import Mathlib.Data.List.Nodup
import TreeLint.Proofs.Rule.Scan

/-!
# The messages of one rule

A rule is run where it asks for it, so its messages for a unit are what its requests say at the
nodes of the unit. If a rule asks for every kind once, and not for records, then a node is visited
once on behalf of every request that lists its kind.

**Results.**
* `messagesOf_eq_flatMap`: the messages of a rule, node by node and pass by pass.
* `messagesOf_eq_flatMap_requests`: the messages of a rule that asks for every kind once.
* `analyze_request`: what a single request reports.
-/

namespace TreeLint
namespace Rule

open Report Source Syntax

/-- What a finding says in the words of a rule. -/
def Finding.text (d : Descriptor) (x : Finding) : String :=
  fill (x.wording.rule d).message x.wording.args

/-- The messages of a rule for a unit, in the order of the walk. -/
def messagesOf (d : Descriptor) (s : Settings) (l : Language) (u : SourceUnit) : List String :=
  (((registryOf s l).analyze u).filter fun r => r.ruleId == d.id).map Diagnostic.message

/-- All that a rule asks for in a language. -/
def requestsOf (d : Descriptor) (s : Settings) (l : Language) : List Request :=
  ((rulesOf s l).filter fun rule => rule.1.id == d.id).flatMap Prod.snd

/-- What a request says at a node of one of its kinds. -/
def Request.texts (q : Request) (v : Visit) : List String :=
  if q.kinds.contains v.node.kind then
    (q.action.run v).map (Finding.text q.action.descriptor)
  else []

/-- Every kind is listed once and is one of the language's. -/
structure Request.ListsOnce (q : Request) (g : Grammar) : Prop where
  nodup : q.kinds.Nodup
  knows : ∀ k ∈ q.kinds, g.knows k = true

/-- Every kind is asked for once and is one of the language's, but not that of a record. -/
structure Request.AsksOnce (q : Request) (g : Grammar) : Prop extends q.ListsOnce g where
  record : ∀ k ∈ q.kinds, g.record.contains k = false

variable (d : Descriptor) (s : Settings) (l : Language) (u : SourceUnit)

theorem messagesOf_eq_flatMap :
    messagesOf d s l u = u.nodes.flatMap fun n =>
      (passes (grammarOf l) n).flatMap fun pass =>
        (askedFor (grammarOf l) (requestsOf d s l) n.kind).flatMap fun a =>
          (a.run ⟨grammarOf l, u, n, pass⟩).map (Finding.text a.descriptor) := by
  have hruns := Registry.flatMap_diagnostics_runsOver (owned_registryOf s l)
    (fun id => id == d.id) u u.nodes
  rw [messagesOf, Registry.analyze, Registry.runs, ← hruns, Registry.runsOver, List.flatMap_assoc,
    List.map_flatMap]
  apply List.flatMap_congr
  intro n _
  rw [Registry.runsAt, filter_actionsFor_eq, ← requestsOf,
    (Registry.answers_registryOf s l).grammar, List.flatMap_assoc, List.map_flatMap]
  apply List.flatMap_congr
  intro pass _
  rw [List.flatMap_map, List.map_flatMap]
  apply List.flatMap_congr
  intro a _
  rw [Action.runAt, List.map_map]
  rfl

variable {d s l}

theorem askedFor_of_listsOnce {g : Grammar} {qs : List Request} (h : ∀ q ∈ qs, q.ListsOnce g)
    (kind : String) :
    askedFor g qs kind = qs.flatMap fun q => if q.kinds.contains kind then [q.action] else [] := by
  rw [askedFor]
  split
  · apply List.flatMap_congr
    intro q hq
    cases hkind : q.kinds.contains kind with
    | true =>
        rw [List.count_eq_one_of_mem (h q hq).nodup (List.contains_iff_mem.mp hkind)]
        rfl
    | false =>
        have hnot : kind ∉ q.kinds := by
          intro hmem
          rw [List.contains_iff_mem.mpr hmem] at hkind
          cases hkind
        rw [List.count_eq_zero.mpr hnot]
        rfl
  · rename_i hknows
    symm
    rw [List.flatMap_eq_nil_iff]
    intro q hq
    rw [if_neg]
    intro hkind
    exact hknows ((h q hq).knows kind (List.contains_iff_mem.mp hkind))

/-- The messages of a rule that asks for every kind once, node by node. -/
theorem messagesOf_eq_flatMap_requests
    (h : ∀ q ∈ requestsOf d s l, q.AsksOnce (grammarOf l)) :
    messagesOf d s l u = u.nodes.flatMap fun n =>
      (requestsOf d s l).flatMap fun q => q.texts ⟨grammarOf l, u, n, .declaration⟩ := by
  rw [messagesOf_eq_flatMap]
  apply List.flatMap_congr
  intro n _
  have htexts : ∀ pass, (askedFor (grammarOf l) (requestsOf d s l) n.kind).flatMap (fun a =>
        (a.run ⟨grammarOf l, u, n, pass⟩).map (Finding.text a.descriptor)) =
      (requestsOf d s l).flatMap fun q => q.texts ⟨grammarOf l, u, n, pass⟩ := by
    intro pass
    rw [askedFor_of_listsOnce fun q hq => (h q hq).toListsOnce, List.flatMap_assoc]
    apply List.flatMap_congr
    intro q _
    rw [Request.texts]
    show List.flatMap _ (ite _ _ _) = ite (q.kinds.contains n.kind = true) _ _
    split
    · rw [List.flatMap_singleton]
    · rfl
  rw [passes]
  split
  · -- a record is asked for in no pass
    rename_i hrecord
    have hnone : ∀ pass, ((requestsOf d s l).flatMap fun q =>
        q.texts ⟨grammarOf l, u, n, pass⟩) = [] := by
      intro pass
      rw [List.flatMap_eq_nil_iff]
      intro q hq
      rw [Request.texts, if_neg]
      intro hkind
      have hnot := (h q hq).record n.kind (List.contains_iff_mem.mp hkind)
      rw [Grammar.isPositionalRecord, Node.isAny, hnot] at hrecord
      cases hrecord
    simp [htexts, hnone]
  · rw [List.flatMap_singleton, htexts]

/-- A request that asks for every kind once reports what its action finds at the nodes of its
kinds. -/
theorem analyze_request {g : Grammar} {q : Request} (h : q.AsksOnce g) (u : SourceUnit) :
    ((Registry.empty g).request q).analyze u =
      (u.nodes.filter fun n => n.isAny q.kinds).flatMap fun n =>
        (q.action.run ⟨g, u, n, .declaration⟩).map (q.action.diagnostic u) := by
  have hr : ((Registry.empty g).request q).Answers g [q] :=
    (Registry.answers_empty g).foldl_request [q]
  rw [Registry.analyze, hr.runs_eq_scan, List.filter_eq_self.mpr fun _ _ => rfl, scan,
    List.flatMap_assoc, flatMap_filter]
  apply List.flatMap_congr
  intro n _
  by_cases hkind : n.kind ∈ q.kinds
  · have hany : n.isAny q.kinds = true := List.contains_iff_mem.mpr hkind
    have hrecord : g.isPositionalRecord n = false := by
      rw [Grammar.isPositionalRecord, Node.isAny, h.record n.kind hkind, Bool.false_and]
    simp [scanAt, if_pos (h.knows n.kind hkind), hrecord, scanVisit,
      List.count_eq_one_of_mem h.nodup hkind, hany, List.append_nil, List.replicate_one,
      Action.runAt]
  · have hany : ¬n.isAny q.kinds = true := fun hmem => hkind (List.contains_iff_mem.mp hmem)
    rw [scanAt, if_neg hany]
    split
    · simp only [scanVisit, List.flatMap_singleton, List.count_eq_zero.mpr hkind,
        List.replicate_zero, List.nil_append, ite_self, List.flatMap_nil]
    · rfl

end Rule
end TreeLint
