import TreeLint.Syntax.Span
import TreeLint.Syntax.Trivia
import TreeLint.Symbols.Constant
import TreeLint.Symbols.Symbol

/-!
# Syntax trees

A tree of nodes. A node carries the tag of its kind as its grammar spells it, its place in the
source, and what is known about its meaning: the symbol it refers to, the symbol it declares, its
type and its constant value. Tokens are nodes whose tag ends in `Token` or `Keyword`.
-/

namespace TreeLint
namespace Syntax

open Symbols

/-- The number of a node within one tree. -/
abbrev NodeId := Nat

/-- What a node carries besides its children. Only a token has a text. -/
structure NodeInfo where
  id : NodeId
  kind : String
  role : Option String
  text : Option String
  span : Span
  leading : List Trivia
  trailing : List Trivia
  reference : Option SymbolId
  declared : Option SymbolId
  type : Option String
  constant : Option Constant
deriving DecidableEq, Repr

/-- A node with its children in order. -/
inductive Tree where
  | node (info : NodeInfo) (children : List Tree)

/-- Whether a tag is that of a token. -/
def isTokenKind (kind : String) : Bool :=
  "Token".toList.isSuffixOf kind.toList || "Keyword".toList.isSuffixOf kind.toList

namespace Tree

def info : Tree → NodeInfo
  | .node info _ => info

def children : Tree → List Tree
  | .node _ children => children

def isToken (t : Tree) : Bool :=
  isTokenKind t.info.kind

mutual

/-- How many nodes a tree has. -/
def size : Tree → Nat
  | .node _ children => 1 + sizes children

def sizes : List Tree → Nat
  | [] => 0
  | t :: ts => t.size + sizes ts

end

end Tree
end Syntax
end TreeLint
