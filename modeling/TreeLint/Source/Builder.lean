import TreeLint.Source.Unit

/-!
# Building source units

A tree is built by opening and closing nodes and adding tokens. Nodes are numbered in the order in
which they are created. Unless a span is given, it is made up from a cursor: a token spans its text
and is followed by one column, and a node covers its children. Trivia moves the cursor too; it
belongs to the next token or, if it trails, to the last one.

`Builder.finish` gives the unit, or the first mistake in how the tree was put together.
-/

namespace TreeLint
namespace Source

open Symbols Syntax

/-- What makes a sequence of building steps yield no tree. -/
inductive ShapeError where
  | closedWithoutOpen
  | secondRoot (kind : String)
  | leftOpen (count : Nat)
  | noRoot
deriving DecidableEq, Repr

/-- The text of a mistake. -/
def ShapeError.message : ShapeError → String
  | .closedWithoutOpen => "finish_node called without an open node"
  | .secondRoot kind => "second root node '" ++ kind ++ "' outside the document root"
  | .leftOpen count => toString count ++ " node(s) left open"
  | .noRoot => "document has no root node"

/-- What is recorded of a node under its number. -/
structure Entry where
  kind : String
  role : Option String
  text : Option String
  span : Span
  spanGiven : Bool
  leading : List Trivia
  trailing : List Trivia
deriving DecidableEq, Repr

/-- The nesting of nodes, by number. -/
inductive Outline where
  | node (id : NodeId) (children : List Outline)

def Outline.id : Outline → NodeId
  | .node id _ => id

/-- A node that is not closed yet, with its complete children, the last one first. -/
structure OpenNode where
  id : NodeId
  children : List Outline

/-- A unit under construction. -/
structure Builder where
  path : String
  language : Language
  generated : Bool
  testProject : Bool
  entries : Array Entry
  /-- The open nodes, innermost first. -/
  opened : List OpenNode
  /-- The complete nodes outside all others, the last one first. -/
  roots : List Outline
  lastToken : Option NodeId
  /-- Trivia that waits for the next token. -/
  pending : List Trivia
  cursor : Position
  symbols : SymbolTable
  references : Std.TreeMap NodeId SymbolId
  declarations : Std.TreeMap NodeId SymbolId
  types : Std.TreeMap NodeId String
  constants : Std.TreeMap NodeId Constant
  /-- The first mistake made so far. -/
  fault : Option ShapeError

namespace Builder

/-- A builder that holds nothing yet. -/
def new (path : String) (language : Language) (generated testProject : Bool) : Builder where
  path := path
  language := language
  generated := generated
  testProject := testProject
  entries := #[]
  opened := []
  roots := []
  lastToken := none
  pending := []
  cursor := Position.start
  symbols := SymbolTable.empty
  references := ∅
  declarations := ∅
  types := ∅
  constants := ∅
  fault := none

/-- The number of the next node. -/
def nextNode (b : Builder) : NodeId :=
  b.entries.size

/-- Notes a mistake, unless there was one before. -/
def mistake (b : Builder) (e : ShapeError) : Builder :=
  { b with fault := b.fault.or (some e) }

/-- Notes that a node of a kind is created: outside all open nodes there may be only one. -/
def admit? (b : Builder) (kind : String) : Builder :=
  if b.opened.isEmpty && !b.roots.isEmpty then b.mistake (.secondRoot kind) else b

/-- Hands a complete node to the innermost open node. -/
def attach (b : Builder) (o : Outline) : Builder :=
  match b.opened with
  | [] => { b with roots := o :: b.roots }
  | p :: rest => { b with opened := { p with children := o :: p.children } :: rest }

/-- Opens a node. -/
def start (b : Builder) (kind : String) (role : Option String) : Builder :=
  let c := b.admit? kind
  { c with
    entries := c.entries.push ⟨kind, role, none, Span.point ⟨0, 0⟩, false, [], []⟩
    opened := ⟨b.nextNode, []⟩ :: c.opened }

/-- The position after a token: one column behind its text. -/
def afterToken (p : Position) : Position :=
  ⟨p.line, p.column + 1⟩

/-- Adds a token. It takes the trivia that waits, and its text moves the cursor. -/
def token (b : Builder) (kind text : String) (role : Option String) : Builder :=
  let c := b.admit? kind
  let stop := c.cursor.after text.toList
  attach
    { c with
      entries := c.entries.push ⟨kind, role, some text, ⟨c.cursor, stop⟩, false, c.pending, []⟩
      pending := []
      cursor := afterToken stop
      lastToken := some b.nextNode }
    (.node b.nextNode [])

/-- The spans of nodes by their numbers. -/
def spansOf (b : Builder) (nodes : List Outline) : List Span :=
  nodes.filterMap fun o => b.entries[o.id]?.map Entry.span

/-- The span of a node that is closed now: it covers the children. -/
def closingSpan (b : Builder) (children : List Outline) : Span :=
  (Span.coverAll? (b.spansOf children)).getD (Span.point b.cursor)

/-- Closes the innermost open node. -/
def close (b : Builder) : Builder :=
  match b.opened with
  | [] => b.mistake .closedWithoutOpen
  | n :: rest =>
    let children := n.children.reverse
    let span := b.closingSpan children
    attach
      { b with
        entries := b.entries.modify n.id fun e => if e.spanGiven then e else { e with span := span }
        opened := rest }
      (.node n.id children)

/-- Moves the cursor over a text. -/
def advance (b : Builder) (text : String) : Builder :=
  { b with cursor := b.cursor.after text.toList }

/-- Adds trivia to a node. -/
def addLeading (b : Builder) (node : NodeId) (t : Trivia) : Builder :=
  { b with entries := b.entries.modify node fun e => { e with leading := e.leading ++ [t] } }

def addTrailing (b : Builder) (node : NodeId) (t : Trivia) : Builder :=
  { b with entries := b.entries.modify node fun e => { e with trailing := e.trailing ++ [t] } }

/-- Lets trivia wait for the next token. -/
def postpone (b : Builder) (t : Trivia) : Builder :=
  { b with pending := b.pending ++ [t] }

/-- Trivia in front of the next token. -/
def leading (b : Builder) (t : Trivia) : Builder :=
  (b.advance t.text).postpone t

/-- Trivia behind the last token; before the first token it waits for that one. -/
def trailing (b : Builder) (t : Trivia) : Builder :=
  match b.lastToken with
  | none => (b.advance t.text).postpone t
  | some token => (b.advance t.text).addTrailing token t

/-- Moves the cursor to the start of the next line. -/
def newline (b : Builder) : Builder :=
  { b with cursor := ⟨b.cursor.line + 1, 1⟩ }

/-- Adds a symbol under its own number. -/
def insertSymbol (b : Builder) (s : Symbol) : Builder :=
  { b with symbols := b.symbols.insert s }

/-- Adds a symbol under a new number. -/
def addSymbol (b : Builder) (s : Symbol) : Builder :=
  b.insertSymbol { s with id := b.symbols.nextId }

/-- Notes the symbol that a node refers to. -/
def bind (b : Builder) (node : NodeId) (symbol : SymbolId) : Builder :=
  { b with references := b.references.insert node symbol }

/-- Notes the symbol that a node declares. -/
def declare (b : Builder) (node : NodeId) (symbol : SymbolId) : Builder :=
  { b with declarations := b.declarations.insert node symbol }

/-- Notes the type of a node. -/
def setType (b : Builder) (node : NodeId) (type : String) : Builder :=
  { b with types := b.types.insert node type }

/-- Notes the constant value of a node. -/
def setConstant (b : Builder) (node : NodeId) (c : Constant) : Builder :=
  { b with constants := b.constants.insert node c }

/-- Gives a node its span. A number that no node has yet is left alone. -/
def setSpan (b : Builder) (node : NodeId) (span : Span) : Builder :=
  { b with
    entries := b.entries.modify node fun e => { e with span := span, spanGiven := true } }

/-- All that was recorded of a node. -/
def infoOf (b : Builder) (id : NodeId) (e : Entry) : NodeInfo where
  id := id
  kind := e.kind
  role := e.role
  text := e.text
  span := e.span
  leading := e.leading
  trailing := e.trailing
  reference := b.references[id]?
  declared := b.declarations[id]?
  type := b.types[id]?
  constant := b.constants[id]?

/-- What an unrecorded number stands for. No outline has one. -/
def blankEntry : Entry :=
  ⟨"", none, none, Span.point ⟨0, 0⟩, false, [], []⟩

mutual

/-- The tree of an outline. -/
def treeOf (b : Builder) : Outline → Tree
  | .node id children => .node (b.infoOf id (b.entries[id]?.getD blankEntry)) (treesOf b children)

def treesOf (b : Builder) : List Outline → List Tree
  | [] => []
  | o :: os => treeOf b o :: treesOf b os

end

/-- The finished unit, or the first mistake. -/
def finish (b : Builder) : Except ShapeError SourceUnit :=
  match b.fault, b.opened, b.roots with
  | some e, _, _ => .error e
  | none, n :: rest, _ => .error (.leftOpen (n :: rest).length)
  | none, [], [] => .error .noRoot
  | none, [], root :: _ =>
    .ok ⟨b.path, b.language, b.generated, b.testProject, b.treeOf root, b.symbols⟩

end Builder
end Source
end TreeLint
