import TreeLint.Rule.Registry
import TreeLint.Grammar.Csharp

/-!
# Loop counters

Rule S127 reports where the body of a `for` loop changes a counter of that loop. The counters are
the symbols that the loop header declares or assigns.
-/

namespace TreeLint
namespace Rule
namespace LoopCounter

open Syntax Source Symbols

/-- The descriptor of the rule. -/
def descriptor : Descriptor where
  id := "S127"
  title := "\"for\" loop stop conditions should be invariant"
  message := "Do not update the loop counter '\x7b0\x7d' within the loop body."
  severity := .warning
  category := .suspicious
  enabledByDefault := true
  description := "A loop counter that is also updated inside the body makes the number " ++
    "of iterations hard to predict. Use a while loop or move the update " ++
    "into the loop header."
  parameters := []

/-- Expressions that change their operand. -/
def stepKinds : Grammar.KindSet :=
  ["PreIncrementExpression", "PreDecrementExpression", "PostIncrementExpression",
    "PostDecrementExpression"]

/-- Assignments that always change their targets. -/
def changingAssignments : Grammar.KindSet :=
  Grammar.Csharp.assignments.filter fun k => k != "CoalesceAssignmentExpression"

/-- The expressions that a node itself changes. -/
def changedBy (g : Grammar) (n : Node) : List Node :=
  if n.isAny stepKinds then n.childNodes.head?.toList
  else if n.isAny changingAssignments then g.targets n
  else []

/-- The expressions that are changed at or below a node. -/
def changedIn (g : Grammar) (body : Node) : List Node :=
  body.descendants.flatMap (changedBy g)

/-- The declaration in the header of a loop. -/
def headerDeclaration? (loop : Node) : Option Node :=
  (loop.childInRole? "declaration").or (loop.childOfKind? "VariableDeclaration")

/-- The assignments in the header of a loop: the children in that role, or else those in front of
the first semicolon. -/
def headerAssignments (g : Grammar) (loop : Node) : List Node :=
  let initializers : List Node :=
    match loop.childrenInRole "initializer" with
    | [] => loop.children.takeWhile fun c => c.kind != "SemicolonToken"
    | found => found
  initializers.filter fun c => c.isAny g.simpleAssignment

/-- The symbols that the header of a loop declares. -/
def declaredCounters (u : SourceUnit) (loop : Node) : List SymbolId :=
  match headerDeclaration? loop with
  | none => []
  | some d =>
    (d.childNodes.filter fun c => c.kind == "VariableDeclarator").filterMap fun c =>
      (u.declared? c).map Symbol.id

/-- The symbols that the header of a loop assigns. -/
def assignedCounters (g : Grammar) (u : SourceUnit) (loop : Node) : List SymbolId :=
  (headerAssignments g loop).filterMap fun a =>
    ((g.left? a).bind (g.symbol? u)).map Symbol.id

/-- The counters of a loop. -/
def counters (g : Grammar) (u : SourceUnit) (loop : Node) : List SymbolId :=
  declaredCounters u loop ++ assignedCounters g u loop

/-- The body of a loop. -/
def body? (loop : Node) : Option Node :=
  (loop.childInRole? "statement").or loop.childNodes.getLast?

/-- The finding about a changed expression, if it changes one of some counters. -/
def finding? (g : Grammar) (u : SourceUnit) (counters : List SymbolId) (target : Node) :
    Option Finding :=
  match g.symbol? u target with
  | some s => if counters.contains s.id then some ⟨target, .own [s.name]⟩ else none
  | none => none

/-- The rule at a loop. -/
def run (v : Visit) : List Finding :=
  match body? v.node with
  | none => []
  | some body =>
    (changedIn v.grammar body).filterMap
      (finding? v.grammar v.unit (counters v.grammar v.unit v.node))

/-- All that the rule asks for. -/
def requests : List Request :=
  [⟨["ForStatement"], ⟨descriptor, run⟩⟩]

end LoopCounter
end Rule
end TreeLint
