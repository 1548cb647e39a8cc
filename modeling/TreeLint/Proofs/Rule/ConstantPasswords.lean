import TreeLint.Proofs.Rule.Access
import TreeLint.Proofs.Rule.CredentialRequests

/-!
# Constant passwords

The rule on credentials tracks the names of the password of a network credential that are assigned a
constant. Its test looks at the node above such a name, whatever kind of assignment that is, so a
compound assignment is reported like a simple one.

**Results.**
* `holds_constantPassword_iff`: the conditions of the tracker, taken together.
* `constant_iff_and_analyze`: which names are assigned a constant, and which are reported.
-/

namespace TreeLint
namespace Rule
namespace HardcodedCredentials

open Report Source Symbols Syntax

/-- What is said about a name that is set to a constant password. -/
def review (u : SourceUnit) (n : Node) : Diagnostic where
  ruleId := "S2068"
  severity := .warning
  message := passwordMessage
  path := u.path
  span := n.span
  help := some "Credentials should not be hard-coded"

theorem asksOnce_trackAccesses (l : Language) :
    (trackAccesses (grammarOf l) descriptor [passwordMessage] constantPassword).AsksOnce
      (grammarOf l) := by
  apply asksOnce_requests Credential.WordSet.standard l
  rw [requests_eq, trackers]
  exact List.mem_append_left _ (List.mem_of_getElem? (i := 2) rfl)

theorem diagnostic_trackAccesses (g : Grammar) (u : SourceUnit) (n : Node) :
    (trackAccesses g descriptor [passwordMessage] constantPassword).action.diagnostic u
      ⟨n, .own [passwordMessage]⟩ = review u n := by
  rw [review, ← fill_message passwordMessage]
  rfl

/-- The conditions on a password name that an assignment sets to a constant. -/
theorem holds_constantPassword_iff {g : Grammar} {u : SourceUnit} {n : Node}
    (hu : u.tree.Numbered) (hn : n ∈ u.nodes) (pass : Pass) :
    (constantPassword.all (Condition.holds (AccessTest.holds ⟨g, u, n, pass⟩))) = true ↔
      AccessTest.holds ⟨g, u, n, pass⟩ (.property networkCredential "Password") = true ∧
        ∃ a ∈ u.nodes, SetsToConstant g a n := by
  have hconstant := constant_iff_setsToConstant (g := g) hu hn pass
  have hsetter : (∃ a ∈ u.nodes, SetsToConstant g a n) →
      AccessTest.setter.holds ⟨g, u, n, pass⟩ = true := by
    rintro ⟨a, ha, hset⟩
    exact (Grammar.isLeftSide_iff hu hn).mpr ⟨a, ha, hset.left⟩
  rw [constantPassword]
  simp only [List.all_cons, List.all_nil, Bool.and_true, Bool.and_eq_true_iff, Condition.holds]
  constructor
  · rintro ⟨-, hvalue, hproperty⟩
    exact ⟨hproperty, hconstant.mp hvalue⟩
  · rintro ⟨hproperty, hset⟩
    exact ⟨hsetter hset, hconstant.mpr hset, hproperty⟩

open Classical in
/-- A name is assigned a constant if an assignment of any kind does so. This is what a simple
assignment does unless a compound one does it. Names of passwords are reported accordingly. -/
theorem constant_iff_and_analyze {l : Language} {u : SourceUnit} (hu : u.tree.Numbered) :
    let g := grammarOf l
    (∀ n ∈ u.nodes, ∀ pass,
      (AccessTest.constant.holds ⟨g, u, n, pass⟩ = true ↔ ∃ a ∈ u.nodes, SetsToConstant g a n) ∧
      ((AccessTest.constant.holds ⟨g, u, n, pass⟩ = true ↔
          ∃ a ∈ u.nodes, a.isAny g.simpleAssignment = true ∧ SetsToConstant g a n) ↔
        ∀ a ∈ u.nodes, SetsToConstant g a n → a.isAny g.simpleAssignment = true)) ∧
    ((Registry.empty g).request
        (trackAccesses g descriptor [passwordMessage] constantPassword)).analyze u =
      (u.nodes.filter fun n =>
        n.isAny g.identifierName = true ∧
        AccessTest.holds ⟨g, u, n, .declaration⟩ (.property networkCredential "Password") = true ∧
        ∃ a ∈ u.nodes, SetsToConstant g a n).map (review u) := by
  intro g
  refine ⟨fun n hn pass => ⟨constant_iff_setsToConstant hu hn pass, ?_⟩, ?_⟩
  · rw [constant_iff_setsToConstant hu hn pass]
    constructor
    · intro h a ha hset
      obtain ⟨b, -, hsimple, hb⟩ := h.mp ⟨a, ha, hset⟩
      rwa [hset.unique hb]
    · intro h
      exact ⟨fun ⟨a, ha, hset⟩ => ⟨a, ha, h a ha hset, hset⟩, fun ⟨a, ha, _, hset⟩ => ⟨a, ha, hset⟩⟩
  · rw [analyze_request (asksOnce_trackAccesses l), flatMap_filter, List.map_eq_flatMap,
      flatMap_filter]
    apply List.flatMap_congr
    intro n hn
    have hholds := holds_constantPassword_iff (g := g) hu hn .declaration
    simp only [decide_eq_true_eq, ← hholds, ite_and]
    show ite (n.isAny g.identifierName = true) (List.map _ (ite _ _ _)) _ = _
    split
    · split
      · exact congrArg (fun d => [d]) (diagnostic_trackAccesses g u n)
      · rfl
    · rfl

/-- The password of a network credential is set to a constant by an assignment of some kind. -/
def passwordSet (kind : String) : SourceUnit :=
  let info (id : NodeId) (kind : String) : NodeInfo := .ofKind id kind ⟨⟨1, id⟩, ⟨1, id⟩⟩
  let token (id : NodeId) (kind text : String) : Tree :=
    .node { info id kind with text := some text } []
  let access : Tree := .node (info 1 "SimpleMemberAccessExpression")
    [.node (info 2 "IdentifierName") [token 3 "IdentifierToken" "credential"],
      token 4 "DotToken" ".",
      .node { info 5 "IdentifierName" with reference := some 1 }
        [token 6 "IdentifierToken" "Password"]]
  let value : Tree :=
    .node (info 7 "StringLiteralExpression") [token 8 "StringLiteralToken" "\"hunter2\""]
  let symbol : Symbol :=
    ⟨1, "Password", .property, some networkCredential, none, false, false, false, none⟩
  ⟨"Password.cs", .csharp, false, false, .node (info 0 kind) [access, value],
    SymbolTable.empty.insert symbol⟩

theorem constant_iff_and_analyze_simple :
    let g := grammarOf .csharp
    let u := passwordSet "SimpleAssignmentExpression"
    u.tree.Numbered ∧ ∃ n ∈ u.nodes,
      AccessTest.constant.holds ⟨g, u, n, .declaration⟩ = true ∧
        ∃ a ∈ u.nodes, SetsToConstant g a n := by
  intro g u
  have hu : u.tree.Numbered := by
    rfl
  obtain ⟨n, hn, hconstant⟩ :
      ∃ n ∈ u.nodes, AccessTest.constant.holds ⟨g, u, n, .declaration⟩ = true := by
    decide +kernel
  have htest := (constant_iff_and_analyze (l := .csharp) hu).1 n hn .declaration
  exact ⟨hu, n, hn, hconstant, htest.1.mp hconstant⟩

/-- A compound assignment counts as one that sets a name to a constant, and is reported. -/
theorem passwordSet_compound :
    let g := grammarOf .csharp
    let u := passwordSet "AddAssignmentExpression"
    (∃ n ∈ u.nodes, n.isAny g.identifierName = true ∧
      AccessTest.constant.holds ⟨g, u, n, .declaration⟩ = true ∧
        ¬∃ a ∈ u.nodes, a.isAny g.simpleAssignment = true ∧ SetsToConstant g a n) ∧
    (((Registry.empty g).request
        (trackAccesses g descriptor [passwordMessage] constantPassword)).analyze u).map
        Diagnostic.message = [passwordMessage] := by
  intro g u
  have hcompound : ∀ a ∈ u.nodes, a.isAny g.simpleAssignment = false := by
    decide +kernel
  obtain ⟨n, hn, hname, hconstant⟩ : ∃ n ∈ u.nodes, n.isAny g.identifierName = true ∧
      AccessTest.constant.holds ⟨g, u, n, .declaration⟩ = true := by
    decide +kernel
  refine ⟨⟨n, hn, hname, hconstant, ?_⟩, ?_⟩
  · rintro ⟨a, ha, hsimple, -⟩
    cases hsimple.symm.trans (hcompound a ha)
  · rw [analyze_request (asksOnce_trackAccesses .csharp)]
    decide +kernel

end HardcodedCredentials

end Rule
end TreeLint
