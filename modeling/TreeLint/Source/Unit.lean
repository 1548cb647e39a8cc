import TreeLint.Source.Language
import TreeLint.Syntax.Node

/-!
# Source units

One analyzable source: its tree, its symbols, and what its host says about it.
-/

namespace TreeLint
namespace Source

open Symbols Syntax

/-- A source with its tree and symbols. -/
structure SourceUnit where
  path : String
  language : Language
  generated : Bool
  testProject : Bool
  tree : Tree
  symbols : SymbolTable

namespace SourceUnit

/-- The root node. -/
def root (u : SourceUnit) : Node :=
  Node.root u.tree

/-- All nodes in pre-order. -/
def nodes (u : SourceUnit) : List Node :=
  u.root.descendants

/-- The symbol a node itself is bound to. -/
def reference? (u : SourceUnit) (n : Node) : Option Symbol :=
  n.info.reference.bind u.symbols.get?

/-- The symbol a node declares. -/
def declared? (u : SourceUnit) (n : Node) : Option Symbol :=
  n.info.declared.bind u.symbols.get?

end SourceUnit
end Source
end TreeLint
