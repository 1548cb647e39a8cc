import TreeLint.Grammar.Basic

/-!
# Names and parentheses

Questions that look through parentheses and member accesses: the expression inside parentheses, the
identifier that names a node, the expression that a name is the name of, and the symbol that an
expression refers to.
-/

namespace TreeLint

open Syntax Symbols Source

/-- Whether a node is of one of several kinds. -/
def Syntax.Node.isAny (n : Node) (kinds : Grammar.KindSet) : Bool :=
  kinds.contains n.kind

namespace Grammar

mutual

/-- The expression inside the parentheses that a tree starts with, if any: repeatedly the first
child that is not a token. -/
def strip (g : Grammar) (above : List Tree) : Tree → Node
  | .node info children =>
    if g.parenthesized.contains info.kind then
      (stripFirst g (.node info children :: above) children).getD ⟨.node info children, above⟩
    else
      ⟨.node info children, above⟩

def stripFirst (g : Grammar) (above : List Tree) : List Tree → Option Node
  | [] => none
  | t :: ts => if t.isToken then stripFirst g above ts else some (strip g above t)

end

/-- The expression inside the parentheses around it. -/
def unparenthesized (g : Grammar) (n : Node) : Node :=
  strip g n.above n.tree

mutual

/-- The identifier token that names a tree: the tree itself, the name at the end of a member
access, a token among the children, or what names the first header among them. -/
def identifierIn? (g : Grammar) (above : List Tree) : Tree → Option Node
  | .node info children =>
    if g.identifierToken.contains info.kind then some ⟨.node info children, above⟩
    else if g.memberAccess.contains info.kind then
      (identifierOfLast? g (.node info children :: above) children).join
    else
      match (Node.mk (.node info children) above).children.find? fun c =>
        c.isAny g.identifierToken with
      | some token => some token
      | none => (identifierOfHeader? g (.node info children :: above) children).join

/-- The identifier of the last tree that is not a token, if there is such a tree. -/
def identifierOfLast? (g : Grammar) (above : List Tree) : List Tree → Option (Option Node)
  | [] => none
  | t :: ts =>
    match identifierOfLast? g above ts with
    | some found => some found
    | none => if t.isToken then none else some (identifierIn? g above t)

/-- The identifier of the first header, if there is one. -/
def identifierOfHeader? (g : Grammar) (above : List Tree) : List Tree → Option (Option Node)
  | [] => none
  | t :: ts =>
    if !t.isToken && g.namedHeader.contains t.info.kind then some (identifierIn? g above t)
    else identifierOfHeader? g above ts

end

/-- The identifier token that names a node. -/
def identifier? (g : Grammar) (n : Node) : Option Node :=
  identifierIn? g n.above n.tree

/-- The name of a node, without the marks that escape it. -/
def name? (g : Grammar) (n : Node) : Option String :=
  (g.identifier? n).map fun token => String.ofList (g.bareIdentifier token.text.toList)

/-- Whether a node is the name at the end of another one. -/
def isAccessedName (g : Grammar) (access n : Node) : Bool :=
  access.isAny g.memberAccess && access.childNodes.getLast?.any fun last => last.same n

/-- Climbs from a tree through the trees around it as long as it is an accessed name or stands in
parentheses. -/
def climbFrom (g : Grammar) (t : Tree) : List Tree → Node
  | [] => ⟨t, []⟩
  | p :: rest =>
    if g.isAccessedName ⟨p, rest⟩ ⟨t, p :: rest⟩ || g.parenthesized.contains p.info.kind then
      climbFrom g p rest
    else
      ⟨t, p :: rest⟩

/-- The outermost expression that a name is the name of. -/
def climb (g : Grammar) (n : Node) : Node :=
  climbFrom g n.tree n.above

/-- The symbol of a simple name, through its identifier token. -/
def nameSymbol? (g : Grammar) (u : SourceUnit) (n : Node) : Option Symbol :=
  if n.isAny g.identifierName then (g.identifier? n).bind u.reference? else none

mutual

/-- The symbol that an expression refers to: its own, inside parentheses; else that of the name at
the end of a member access, or that of the token of a simple name. -/
def symbolIn? (g : Grammar) (u : SourceUnit) (above : List Tree) : Tree → Option Symbol
  | .node info children =>
    let n : Node := ⟨.node info children, above⟩
    let inside :=
      if g.parenthesized.contains info.kind then
        symbolOfFirst? g u (.node info children :: above) children
      else
        none
    match inside with
    | some found => found
    | none =>
      match u.reference? n with
      | some s => some s
      | none =>
        if g.memberAccess.contains info.kind then
          (symbolOfLast? g u (.node info children :: above) children).join
        else
          g.nameSymbol? u n

/-- The symbol of the first tree that is not a token, if there is such a tree. -/
def symbolOfFirst? (g : Grammar) (u : SourceUnit) (above : List Tree) :
    List Tree → Option (Option Symbol)
  | [] => none
  | t :: ts => if t.isToken then symbolOfFirst? g u above ts else some (symbolIn? g u above t)

/-- The symbol of the last tree that is not a token, if there is such a tree. -/
def symbolOfLast? (g : Grammar) (u : SourceUnit) (above : List Tree) :
    List Tree → Option (Option Symbol)
  | [] => none
  | t :: ts =>
    match symbolOfLast? g u above ts with
    | some found => some found
    | none => if t.isToken then none else some (symbolIn? g u above t)

end

/-- The symbol that an expression refers to. -/
def symbol? (g : Grammar) (u : SourceUnit) (n : Node) : Option Symbol :=
  symbolIn? g u n.above n.tree

end Grammar
end TreeLint
