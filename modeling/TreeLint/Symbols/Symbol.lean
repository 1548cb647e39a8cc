import Std.Data.TreeMap

/-!
# Symbols

A symbol is what a name in a program stands for. The nodes of a tree refer to symbols by number,
and a table gives the symbol of a number; a number may have none.
-/

namespace TreeLint
namespace Symbols

/-- The number of a symbol within one source. -/
abbrev SymbolId := Nat

/-- What a symbol stands for. -/
inductive SymbolKind where
  | namespace
  | type
  | method
  | constructor
  | property
  | field
  | local
  | parameter
deriving DecidableEq, Repr

namespace SymbolKind

/-- The name of a kind of symbol in documents. -/
def name : SymbolKind → String
  | .namespace => "namespace"
  | .type => "type"
  | .method => "method"
  | .constructor => "constructor"
  | .property => "property"
  | .field => "field"
  | .local => "local"
  | .parameter => "parameter"

def all : List SymbolKind :=
  [.namespace, .type, .method, .constructor, .property, .field, .local, .parameter]

/-- The kind with a given name. -/
def ofName? (s : String) : Option SymbolKind :=
  all.find? fun k => k.name == s

end SymbolKind

/-- A symbol. Types are given by their full names; `overridden` is the member that this one
replaces. -/
structure Symbol where
  id : SymbolId
  name : String
  kind : SymbolKind
  containingType : Option String
  type : Option String
  isVirtual : Bool
  isAbstract : Bool
  isOverride : Bool
  overridden : Option SymbolId
deriving DecidableEq, Repr

/-- Whether a symbol is declared in a type. -/
def Symbol.isMemberOf (s : Symbol) (type : String) : Bool :=
  s.containingType == some type

/-- The symbols of a source by number. -/
structure SymbolTable where
  byId : Std.TreeMap SymbolId Symbol

namespace SymbolTable

def empty : SymbolTable :=
  ⟨∅⟩

/-- Adds a symbol under its own number; an earlier symbol of that number is replaced. -/
def insert (t : SymbolTable) (s : Symbol) : SymbolTable :=
  ⟨t.byId.insert s.id s⟩

/-- The table of a sequence of symbols; of two with one number the last counts. -/
def ofList (symbols : List Symbol) : SymbolTable :=
  symbols.foldl insert empty

/-- The symbol of a number. -/
def get? (t : SymbolTable) (id : SymbolId) : Option Symbol :=
  t.byId[id]?

/-- How many symbols there are. -/
def size (t : SymbolTable) : Nat :=
  t.byId.size

/-- A number above all numbers in use. -/
def nextId (t : SymbolTable) : SymbolId :=
  match t.byId.maxKey? with
  | none => 0
  | some id => id + 1

end SymbolTable
end Symbols
end TreeLint
