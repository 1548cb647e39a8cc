import TreeLint.Rule.Descriptor
import TreeLint.Report.Summary
import TreeLint.Grammar.Expression

/-!
# Registries of rules

A rule asks to be run at nodes of certain kinds. A registry keeps these requests by kind and runs
them over the nodes of a unit in pre-order. A positional record is visited twice, as a declaration
and as the constructor that it declares.
-/

namespace TreeLint
namespace Rule

open Report Syntax Source

/-- In which of its roles a node is visited. -/
inductive Pass where
  | declaration
  | primaryConstructor
deriving DecidableEq, Repr

/-- The visit of a node. -/
structure Visit where
  grammar : Grammar
  unit : SourceUnit
  node : Node
  pass : Pass

/-- What a finding says: the message of the rule that finds it, or that of another rule, with
arguments put in. -/
inductive Wording where
  | own (args : List String)
  | of (d : Descriptor) (args : List String)

instance : Coe (List String) Wording :=
  ⟨.own⟩

namespace Wording

/-- The rule whose message is used, if a given rule finds it. -/
def rule (d : Descriptor) : Wording → Descriptor
  | own _ => d
  | of other _ => other

def args : Wording → List String
  | own args => args
  | of _ args => args

end Wording

/-- What a rule finds: a place, and what there is to say. -/
structure Finding where
  place : Node
  wording : Wording

/-- What a rule does at a node. -/
structure Action where
  descriptor : Descriptor
  run : Visit → List Finding

/-- The diagnostic of a finding. It goes under the rule whose message it has. -/
def Action.diagnostic (a : Action) (u : SourceUnit) (f : Finding) : Diagnostic :=
  let d := f.wording.rule a.descriptor
  { ruleId := d.id
    severity := d.severity
    message := fill d.message f.wording.args
    path := u.path
    span := f.place.span
    help := some d.title }

/-- A request to run an action at nodes of certain kinds. -/
structure Request where
  kinds : Grammar.KindSet
  action : Action

/-- The actions of a language by kind, and the rules they belong to. -/
structure Registry where
  grammar : Grammar
  actions : Std.TreeMap String (List Action)
  descriptors : List Descriptor

namespace Registry

/-- A registry without rules. -/
def empty (g : Grammar) : Registry :=
  ⟨g, ∅, []⟩

/-- The actions for nodes of a kind, in the order of their requests. -/
def actionsFor (r : Registry) (kind : String) : List Action :=
  r.actions[kind]?.getD []

/-- Adds an action for one kind. -/
def addAction (a : Action) (r : Registry) (kind : String) : Registry :=
  { r with actions := r.actions.insert kind (r.actionsFor kind ++ [a]) }

/-- Adds an action for every kind of a request that the grammar knows. -/
def request (r : Registry) (q : Request) : Registry :=
  (q.kinds.filter r.grammar.knows).foldl (addAction q.action) r

/-- Adds the descriptor of a rule, once. -/
def addDescriptor (r : Registry) (d : Descriptor) : Registry :=
  if r.descriptors.any fun e => e.id == d.id then r
  else { r with descriptors := r.descriptors ++ [d] }

/-- Whether some action is run at nodes of a kind. -/
def handles (r : Registry) (kind : String) : Bool :=
  r.actions.contains kind

/-- How many actions there are, each counted for every kind. -/
def actionCount (r : Registry) : Nat :=
  (r.actions.toList.flatMap Prod.snd).length

end Registry

/-- A run of an action with its diagnostics. -/
structure Run where
  ruleId : String
  diagnostics : List Diagnostic

/-- The run of an action at a visit. -/
def Action.runAt (a : Action) (v : Visit) : Run :=
  ⟨a.descriptor.id, (a.run v).map (a.diagnostic v.unit)⟩

/-- The passes in which a node is visited. -/
def passes (g : Grammar) (n : Node) : List Pass :=
  if g.isPositionalRecord n then [.declaration, .primaryConstructor] else [.declaration]

namespace Registry

/-- The runs at a node, of the rules that are enabled. -/
def runsAt (r : Registry) (enabled : String → Bool) (u : SourceUnit) (n : Node) : List Run :=
  let actions := (r.actionsFor n.kind).filter fun a => enabled a.descriptor.id
  (passes r.grammar n).flatMap fun pass =>
    actions.map fun a => a.runAt ⟨r.grammar, u, n, pass⟩

/-- The runs over nodes of a unit, of the rules that are enabled. -/
def runsOver (r : Registry) (enabled : String → Bool) (u : SourceUnit) (nodes : List Node) :
    List Run :=
  nodes.flatMap (r.runsAt enabled u)

/-- The runs over a whole unit, of the rules that are enabled. -/
def runs (r : Registry) (enabled : String → Bool) (u : SourceUnit) : List Run :=
  r.runsOver enabled u u.nodes

/-- The diagnostics of all rules for a unit, in the order of the walk. -/
def analyze (r : Registry) (u : SourceUnit) : List Diagnostic :=
  (r.runs (fun _ => true) u).flatMap Run.diagnostics

end Registry

/-- The tallies of a sequence of runs. -/
def tallyRuns (runs : List Run) : Tallies :=
  runs.foldl (fun ts run => Tallies.addTo ts run.ruleId ⟨0, 1, run.diagnostics.length⟩) ∅

end Rule
end TreeLint
