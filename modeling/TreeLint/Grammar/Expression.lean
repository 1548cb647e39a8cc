import TreeLint.Grammar.Assignment

/-!
# Values of expressions

Types, constants and string values of expressions, the arguments of object creations, and a few
questions about declarations.
-/

namespace TreeLint
namespace Grammar

open Syntax Symbols Source

/-- The type of a literal, inside parentheses. -/
def literalType? (g : Grammar) (n : Node) : Option String :=
  g.literalTypes.lookup (g.unparenthesized n).kind

/-- The type of an expression: the one known of it, or else that of a literal. -/
def type? (g : Grammar) (n : Node) : Option String :=
  n.info.type.or (g.literalType? n)

/-- The constant known of an expression, or of what stands inside its parentheses. -/
def constant? (g : Grammar) (n : Node) : Option Constant :=
  n.info.constant.or (g.unparenthesized n).info.constant

/-- Whether an expression has a constant value. -/
def isConstant (g : Grammar) (n : Node) : Bool :=
  (g.constant? n).isSome || (g.unparenthesized n).isAny g.constantLiteral

/-- Whether an expression is a string literal. -/
def isStringLiteral (g : Grammar) (n : Node) : Bool :=
  (g.unparenthesized n).isAny g.stringLiteral

/-- The value of a string literal, read off the spelling of its first token. -/
def literalText? (g : Grammar) (n : Node) : Option String :=
  if n.isAny g.stringLiteral then
    (n.firstToken?.bind fun token => g.unquote token.text.toList).map String.ofList
  else
    none

/-- The value of a string constant or literal. -/
def stringValue? (g : Grammar) (n : Node) : Option String :=
  match (g.constant? n).bind Constant.string? with
  | some s => some s
  | none => g.literalText? (g.unparenthesized n)

/-- An argument of an object creation. -/
structure Argument where
  expression : Node
  isConstant : Bool

/-- The arguments of an object creation, in order; `none` without a list of arguments. -/
def arguments? (g : Grammar) (n : Node) : Option (List Argument) :=
  if n.isAny g.objectCreation then
    (n.children.find? fun c => c.isAny g.argumentList).map fun list =>
      ((list.childNodes.filter fun c => c.isAny g.argument).filterMap argumentExpression?).map
        fun e => ⟨e, g.isConstant e⟩
  else
    none

/-- Whether a node is a record that declares a constructor by its parameters. -/
def isPositionalRecord (g : Grammar) (n : Node) : Bool :=
  n.isAny g.record && (n.childOfKind? "ParameterList").isSome

/-- Whether a declaration has a keyword of a kind among its children. -/
def hasModifier (n : Node) (kind : String) : Bool :=
  n.children.any fun c => c.isToken && c.kind == kind

/-- Whether a comment stands right after the opening delimiter of a body or right before the
closing one. -/
def hasDelimiterComment (body : Node) : Bool :=
  let opening := body.children.head?.bind Node.lastToken?
  let closing := body.children.getLast?.bind Node.firstToken?
  opening.any (fun t => hasComment t.info.trailing) ||
    closing.any (fun t => hasComment t.info.leading)

end Grammar
end TreeLint
