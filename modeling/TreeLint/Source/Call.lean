import TreeLint.Source.Builder
import TreeLint.Syntax.Arena

/-!
# Sequences of calls to a builder

A host puts a unit together by calls in any order, and hears of its mistakes in the end only. Here
is what a sequence of calls makes of a builder, and what the sequence says by itself: the nodes that
it makes, how many it leaves open, where it goes wrong, and the table of the nodes.
-/

namespace TreeLint
namespace Source

open Symbols Syntax

/-- A call to a builder. Numbers of nodes and symbols may be any. -/
inductive Call where
  | generated (flag : Bool)
  | testProject (flag : Bool)
  | start (kind : String) (role : Option String)
  | token (kind text : String) (role : Option String)
  | close
  | leading (t : Trivia)
  | trailing (t : Trivia)
  | newline
  | addSymbol (s : Symbol)
  | insertSymbol (s : Symbol)
  | bind (node : NodeId) (symbol : SymbolId)
  | declare (node : NodeId) (symbol : SymbolId)
  | setType (node : NodeId) (type : String)
  | setConstant (node : NodeId) (c : Constant)
  | setSpan (node : NodeId) (span : Span)
  | addLeading (node : NodeId) (t : Trivia)
  | addTrailing (node : NodeId) (t : Trivia)

namespace Builder

def perform (b : Builder) : Call → Builder
  | .generated flag => { b with generated := flag }
  | .testProject flag => { b with testProject := flag }
  | .start kind role => b.start kind role
  | .token kind text role => b.token kind text role
  | .close => b.close
  | .leading t => b.leading t
  | .trailing t => b.trailing t
  | .newline => b.newline
  | .addSymbol s => b.addSymbol s
  | .insertSymbol s => b.insertSymbol s
  | .bind node symbol => b.bind node symbol
  | .declare node symbol => b.declare node symbol
  | .setType node type => b.setType node type
  | .setConstant node c => b.setConstant node c
  | .setSpan node span => b.setSpan node span
  | .addLeading node t => b.addLeading node t
  | .addTrailing node t => b.addTrailing node t

def run (b : Builder) (calls : List Call) : Builder :=
  calls.foldl perform b

/-- Whether there is a unit in the end, or else which mistake is reported. -/
def outcome (b : Builder) : Except ShapeError Unit :=
  b.finish.map fun _ => ()

end Builder

/-! ## What calls say by themselves -/

/-- What a call says about the node that it makes. Only a token has a text. -/
structure Creation where
  kind : String
  role : Option String
  text : Option String
deriving DecidableEq, Repr

/-- What the making of a node has left in it. -/
def Creation.ofNode (n : Node) : Creation :=
  ⟨n.kind, n.role, n.info.text⟩

namespace Call

def creation? : Call → Option Creation
  | .start kind role => some ⟨kind, role, none⟩
  | .token kind text role => some ⟨kind, role, some text⟩
  | _ => none

/-- Whether a call makes or closes a node. -/
def isStructural : Call → Bool
  | .start .. => true
  | .token .. => true
  | .close => true
  | _ => false

/-- How many nodes are open after a call, if there were some number before. -/
def openAfter (count : Nat) : Call → Nat
  | .start .. => count + 1
  | .close => count - 1
  | _ => count

end Call

/-- How many nodes calls leave open. -/
def openCount (calls : List Call) : Nat :=
  calls.foldl Call.openAfter 0

/-- The nodes that calls make, in order. -/
def creations (calls : List Call) : List Creation :=
  calls.filterMap Call.creation?

/-- A call closes a node while none is open. -/
def ClosesNothing (calls : List Call) (k : Nat) : Prop :=
  calls[k]? = some .close ∧ openCount (calls.take k) = 0

/-- A call makes a node of a kind while no node is open. -/
def MakesRoot (calls : List Call) (k : Nat) (kind : String) : Prop :=
  (∃ call node, calls[k]? = some call ∧ call.creation? = some node ∧ node.kind = kind) ∧
    openCount (calls.take k) = 0

/-- A call is a mistake where it stands. -/
inductive MistakeAt (calls : List Call) (k : Nat) : ShapeError → Prop
  | closedWithoutOpen (h : ClosesNothing calls k) : MistakeAt calls k .closedWithoutOpen
  | secondRoot {j : Nat} {first kind : String} (hj : j < k) (hfirst : MakesRoot calls j first)
      (h : MakesRoot calls k kind) : MistakeAt calls k (.secondRoot kind)

/-- No call is a mistake. -/
def Faultless (calls : List Call) : Prop :=
  ∀ k e, ¬MistakeAt calls k e

/-- The earliest call that is a mistake. -/
def FirstMistake (calls : List Call) (e : ShapeError) : Prop :=
  ∃ k, MistakeAt calls k e ∧ ∀ j < k, ∀ other, ¬MistakeAt calls j other

/-- What is wrong with calls: the first mistake on the way, or else what is missing in the end. -/
inductive Fails (calls : List Call) : ShapeError → Prop
  | mistake {e : ShapeError} (h : FirstMistake calls e) : Fails calls e
  | leftOpen (h : Faultless calls) (hopen : 0 < openCount calls) :
      Fails calls (.leftOpen (openCount calls))
  | noRoot (h : Faultless calls) (hclosed : openCount calls = 0)
      (hnone : ∀ k kind, ¬MakesRoot calls k kind) : Fails calls .noRoot

/-! ## The table of the nodes -/

/-- A table in the making, with the numbers of the open nodes, innermost first. -/
structure Draft where
  slots : List Slot
  opened : List NodeId

namespace Draft

def empty : Draft :=
  ⟨[], []⟩

/-- Tells the innermost open node of one more child. -/
def adopt (d : Draft) (child : NodeId) : List Slot :=
  match d.opened with
  | [] => d.slots
  | p :: _ => d.slots.modify p fun slot => { slot with children := slot.children ++ [child] }

/-- Adds a node under the next number. -/
def add (d : Draft) : Draft :=
  { d with slots := d.adopt d.slots.length ++ [⟨d.opened.head?, []⟩] }

def perform (d : Draft) : Call → Draft
  | .start .. => { d.add with opened := d.slots.length :: d.opened }
  | .token .. => d.add
  | .close => { d with opened := d.opened.tail }
  | _ => d

end Draft

/-- The table that calls make. -/
def draftOf (calls : List Call) : Draft :=
  calls.foldl Draft.perform Draft.empty

def arenaOf (calls : List Call) : Arena :=
  ⟨(draftOf calls).slots⟩

/-- A unit has the nodes that calls make, in the tree that the calls make: its table is theirs, is
that of a tree, and has nothing below a token. The walk with a stack from a node meets what the
recursive walk meets, and the numbers that it meets run on from that of the node; on the way up
exactly those nodes are met from which the walk comes down to it. -/
structure SourceUnit.BuiltBy (u : SourceUnit) (calls : List Call) : Prop where
  arena : u.tree.arena = arenaOf calls
  creations : u.nodes.map Creation.ofNode = creations calls
  isTree : (arenaOf calls).IsTree
  leaves : ∀ (id : NodeId) (node : Creation), (Source.creations calls)[id]? = some node →
    node.text ≠ none → (arenaOf calls).children id = []
  ids : u.nodes.map Node.id = List.range (arenaOf calls).size
  walks : ∀ n ∈ u.nodes, ∀ met,
    (arenaOf calls).Walks [n.id] met ↔ met = n.descendants.map Node.id
  runs : ∀ n ∈ u.nodes, n.descendants.map Node.id = List.range' n.id n.tree.size
  climbs : ∀ n ∈ u.nodes, ∀ met,
    (arenaOf calls).Climbs n.id met ↔ met = n.ancestors.map Node.id
  ancestors : ∀ a ∈ u.nodes, ∀ d ∈ u.nodes,
    (a.id ∈ d.ancestors.map Node.id ↔ d.id ∈ a.descendants.map Node.id ∧ d.id ≠ a.id)

end Source
end TreeLint
