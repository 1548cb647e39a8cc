import TreeLint.Syntax.Tree

/-!
# Nodes in their tree

A `Node` is a subtree together with the trees it is nested in, so that a query can go up as well as
down. Nodes of one tree are told apart by their numbers.
-/

namespace TreeLint
namespace Syntax

open Symbols

/-- A subtree and the trees around it, innermost first. -/
structure Node where
  tree : Tree
  above : List Tree

mutual

/-- The nodes of a tree with given trees around it, in pre-order. -/
def Tree.walk (above : List Tree) : Tree → List Node
  | .node info children =>
    ⟨.node info children, above⟩ :: Tree.walkAll (.node info children :: above) children

def Tree.walkAll (above : List Tree) : List Tree → List Node
  | [] => []
  | t :: ts => t.walk above ++ Tree.walkAll above ts

end

mutual

/-- The last token of a tree with given trees around it: a token itself, or else the last token of
the last child that has one. -/
def Tree.lastToken? (above : List Tree) : Tree → Option Node
  | .node info children =>
    if isTokenKind info.kind then some ⟨.node info children, above⟩
    else Tree.lastTokenOf? (.node info children :: above) children

def Tree.lastTokenOf? (above : List Tree) : List Tree → Option Node
  | [] => none
  | t :: ts =>
    match Tree.lastTokenOf? above ts with
    | some token => some token
    | none => t.lastToken? above

end

/-- The nodes of nested trees, innermost first. -/
def enclosing : List Tree → List Node
  | [] => []
  | t :: rest => ⟨t, rest⟩ :: enclosing rest

namespace Node

/-- The root of a tree. -/
def root (t : Tree) : Node :=
  ⟨t, []⟩

def info (n : Node) : NodeInfo :=
  n.tree.info

def id (n : Node) : NodeId :=
  n.info.id

def kind (n : Node) : String :=
  n.info.kind

def role (n : Node) : Option String :=
  n.info.role

def span (n : Node) : Span :=
  n.info.span

/-- The text of a token; other nodes have an empty one. -/
def text (n : Node) : String :=
  n.info.text.getD ""

def isToken (n : Node) : Bool :=
  n.tree.isToken

/-- Whether two nodes of one tree are the same. -/
def same (a b : Node) : Bool :=
  a.id == b.id

def parent? (n : Node) : Option Node :=
  match n.above with
  | [] => none
  | t :: rest => some ⟨t, rest⟩

/-- The nodes around a node, nearest first. -/
def ancestors (n : Node) : List Node :=
  enclosing n.above

def children (n : Node) : List Node :=
  n.tree.children.map fun t => ⟨t, n.tree :: n.above⟩

/-- The children that are not tokens. -/
def childNodes (n : Node) : List Node :=
  n.children.filter fun c => !c.isToken

/-- The children that play a role. -/
def childrenInRole (n : Node) (role : String) : List Node :=
  n.children.filter fun c => c.role == some role

/-- The first child that plays a role. -/
def childInRole? (n : Node) (role : String) : Option Node :=
  n.children.find? fun c => c.role == some role

/-- The first child of a kind. -/
def childOfKind? (n : Node) (kind : String) : Option Node :=
  n.children.find? fun c => c.kind == kind

/-- The node and all nodes below it, in pre-order. -/
def descendants (n : Node) : List Node :=
  n.tree.walk n.above

/-- The first token at or below a node. -/
def firstToken? (n : Node) : Option Node :=
  n.descendants.find? isToken

/-- The last token at or below a node. -/
def lastToken? (n : Node) : Option Node :=
  n.tree.lastToken? n.above

/-- The texts of the tokens at and below a node, with one blank between them. -/
def sourceText (n : Node) : String :=
  String.intercalate " " (n.descendants.filterMap fun d => d.info.text)

end Node
end Syntax
end TreeLint
