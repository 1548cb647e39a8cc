import TreeLint.Grammar.Name

/-!
# Assignments

The two sides of an assignment, the expressions that it changes, and the assignment that a name
belongs to. A tuple on the left is taken apart; a declaration on the left stands for the variables
that it introduces.
-/

namespace TreeLint
namespace Grammar

open Syntax

/-- The role that marks the expression of an argument. -/
def expressionRole : String := "expression"

/-- The expression of an argument: the child in that role, or else the last child that is not a
token. -/
def argumentExpression? (argument : Node) : Option Node :=
  (argument.childInRole? expressionRole).or argument.childNodes.getLast?

/-- The left side of an assignment. -/
def left? (g : Grammar) (n : Node) : Option Node :=
  if n.isAny g.assignment then (n.childInRole? "left").or n.childNodes.head? else none

/-- The right side of an assignment; without a role it is the last of at least two children. -/
def right? (g : Grammar) (n : Node) : Option Node :=
  if n.isAny g.assignment then
    (n.childInRole? "right").or n.childNodes.tail.getLast?
  else
    none

mutual

/-- The expressions that an assignment to a tree changes. -/
def targetsIn (g : Grammar) (above : List Tree) : Tree → List Node
  | .node info children =>
    let inner := .node info children :: above
    if g.parenthesized.contains info.kind then
      (targetsOfFirst? g inner children).getD [⟨.node info children, above⟩]
    else if g.tuple.contains info.kind then
      targetsOfArguments g inner children
    else if g.declarationPattern.contains info.kind then
      (Tree.walk above (.node info children)).filter fun d => d.isAny g.variableDesignation
    else
      [⟨.node info children, above⟩]

/-- The targets of the first tree that is not a token, if there is such a tree. -/
def targetsOfFirst? (g : Grammar) (above : List Tree) : List Tree → Option (List Node)
  | [] => none
  | t :: ts => if t.isToken then targetsOfFirst? g above ts else some (targetsIn g above t)

/-- The targets of the arguments among some trees. -/
def targetsOfArguments (g : Grammar) (above : List Tree) : List Tree → List Node
  | [] => []
  | t :: ts =>
    (if !t.isToken && g.argument.contains t.info.kind then targetsOfArgument g above t else []) ++
      targetsOfArguments g above ts

/-- The targets of the expression of an argument. -/
def targetsOfArgument (g : Grammar) (above : List Tree) : Tree → List Node
  | .node info children =>
    let inner := .node info children :: above
    match targetsInRole? g inner children with
    | some found => found
    | none => (targetsOfLast? g inner children).getD []

/-- The targets of the first tree that is marked as an expression, if there is such a tree. -/
def targetsInRole? (g : Grammar) (above : List Tree) : List Tree → Option (List Node)
  | [] => none
  | t :: ts =>
    if t.info.role == some expressionRole then some (targetsIn g above t)
    else targetsInRole? g above ts

/-- The targets of the last tree that is not a token, if there is such a tree. -/
def targetsOfLast? (g : Grammar) (above : List Tree) : List Tree → Option (List Node)
  | [] => none
  | t :: ts =>
    match targetsOfLast? g above ts with
    | some found => some found
    | none => if t.isToken then none else some (targetsIn g above t)

end

/-- The expressions that an assignment changes, in order. -/
def targets (g : Grammar) (n : Node) : List Node :=
  match g.left? n with
  | none => []
  | some left => targetsIn g left.above left.tree

/-- Whether a name is the left side of an assignment. -/
def isLeftSide (g : Grammar) (n : Node) : Bool :=
  let top := g.climb n
  (top.parent?.bind g.left?).any fun left => left.same top

/-- The nearest simple assignment around a node. -/
def enclosingAssignment? (g : Grammar) (n : Node) : Option Node :=
  n.ancestors.find? fun a => a.isAny g.simpleAssignment

end Grammar
end TreeLint
