import TreeLint.Syntax.Node

/-!
# Trees as tables

A tree can be laid out as a table in which every node stands under its number and holds the number
of its parent and those of its children. A walk through such a table needs no recursion: the numbers
that are still to be visited wait on a stack. The way up follows the parents.
-/

namespace TreeLint
namespace Syntax

/-- The place of a node among the numbers of a tree. -/
structure Slot where
  parent : Option NodeId
  children : List NodeId
deriving DecidableEq, Repr

def Node.slot (n : Node) : Slot where
  parent := n.parent?.map Node.id
  children := n.children.map Node.id

/-- A table of nodes; the place in the table is the number. -/
structure Arena where
  slots : List Slot
deriving DecidableEq, Repr

namespace Arena

def size (a : Arena) : Nat :=
  a.slots.length

def parent? (a : Arena) (id : NodeId) : Option NodeId :=
  a.slots[id]?.bind Slot.parent

def children (a : Arena) (id : NodeId) : List NodeId :=
  (a.slots[id]?.map Slot.children).getD []

/-- One step of a walk: the uppermost number leaves the stack, and its children are put there, the
first of them uppermost. -/
def visit? (a : Arena) : List NodeId → Option (NodeId × List NodeId)
  | [] => none
  | id :: stack => some (id, a.children id ++ stack)

/-- The numbers that a walk meets from a stack on, up to its end. -/
inductive Walks (a : Arena) : List NodeId → List NodeId → Prop
  | ends {stack : List NodeId} (h : a.visit? stack = none) : Walks a stack []
  | meets {stack rest ids : List NodeId} {id : NodeId} (h : a.visit? stack = some (id, rest))
      (hrest : Walks a rest ids) : Walks a stack (id :: ids)

/-- The parents that are met on the way up from a node, to the end. -/
inductive Climbs (a : Arena) : NodeId → List NodeId → Prop
  | ends {id : NodeId} (h : a.parent? id = none) : Climbs a id []
  | meets {id p : NodeId} {ids : List NodeId} (h : a.parent? id = some p)
      (hrest : Climbs a p ids) : Climbs a id (p :: ids)

/-- A table is that of a tree whose nodes are numbered from the root on, parents before their
children. -/
structure IsTree (a : Arena) : Prop where
  root_lt : 0 < a.size
  parent_eq_none_iff : ∀ id, id < a.size → (a.parent? id = none ↔ id = 0)
  mem_children_iff : ∀ p c, c ∈ a.children p ↔ a.parent? c = some p
  nodup_children : ∀ p, (a.children p).Nodup
  parent_lt : ∀ p c, a.parent? c = some p → p < c
  parent_inRange : ∀ slot ∈ a.slots, ∀ p ∈ slot.parent, p < a.size
  child_inRange : ∀ slot ∈ a.slots, ∀ c ∈ slot.children, c < a.size

end Arena

/-- The table of a tree, its nodes in pre-order. -/
def Tree.arena (t : Tree) : Arena :=
  ⟨(t.walk []).map Node.slot⟩

/-- The numbers of a tree are the places of its nodes in pre-order. -/
def Tree.Numbered (t : Tree) : Prop :=
  (t.walk []).map Node.id = List.range t.size

end Syntax
end TreeLint
