import TreeLint.Rule.Registry

/-!
# Conditions on nodes

A tracker reports the nodes of a kind that meet a list of conditions. Conditions are tests joined by
and, or and not. A test fails where the tree or the symbols do not tell.
-/

namespace TreeLint
namespace Rule

open Syntax Source Symbols

/-- Tests joined by and, or and not. -/
inductive Condition (α : Type) where
  | test (a : α)
  | all (cs : List (Condition α))
  | any (cs : List (Condition α))
  | not (c : Condition α)

namespace Condition

variable {α : Type}

mutual

/-- Whether a condition holds, given which tests do. -/
def holds (p : α → Bool) : Condition α → Bool
  | .test a => p a
  | .all cs => allHold p cs
  | .any cs => anyHolds p cs
  | .not c => !holds p c

def allHold (p : α → Bool) : List (Condition α) → Bool
  | [] => true
  | c :: cs => holds p c && allHold p cs

def anyHolds (p : α → Bool) : List (Condition α) → Bool
  | [] => false
  | c :: cs => holds p c || anyHolds p cs

end

end Condition

/-- A test of an object creation. -/
inductive CreationTest where
  /-- The constructor is declared in a type. -/
  | constructor (type : String)
  /-- The argument at an index has a type. -/
  | argumentType (index : Nat) (type : String)
  /-- The argument at an index is constant. -/
  | argumentConstant (index : Nat)
deriving DecidableEq, Repr

/-- A test of a simple name. -/
inductive AccessTest where
  /-- The name is assigned to. -/
  | setter
  /-- The name is not assigned to. -/
  | getter
  /-- The name is assigned a constant. -/
  | constant
  /-- The name refers to a property of a type. -/
  | property (type name : String)
deriving DecidableEq, Repr

/-- The argument of an object creation at an index. -/
def argumentAt? (g : Grammar) (n : Node) (index : Nat) : Option Grammar.Argument :=
  (g.arguments? n).bind fun args => args[index]?

/-- Whether a test of an object creation holds. -/
def CreationTest.holds (v : Visit) : CreationTest → Bool
  | .constructor type =>
    (v.grammar.symbol? v.unit v.node).any fun s => s.kind == .constructor && s.isMemberOf type
  | .argumentType index type =>
    (argumentAt? v.grammar v.node index).any fun a => v.grammar.type? a.expression == some type
  | .argumentConstant index => (argumentAt? v.grammar v.node index).any fun a => a.isConstant

/-- The value that is assigned to a name: the right side of the assignment whose left side it is. -/
def assignedValue? (g : Grammar) (n : Node) : Option Node :=
  let top := g.climb n
  match top.parent? with
  | none => none
  | some p => if (g.left? p).any fun left => left.same top then g.right? p else none

/-- Whether a test of a simple name holds. -/
def AccessTest.holds (v : Visit) : AccessTest → Bool
  | .setter => v.grammar.isLeftSide v.node
  | .getter => !v.grammar.isLeftSide v.node
  | .constant => (assignedValue? v.grammar v.node).any v.grammar.isConstant
  | .property type name =>
    (v.grammar.name? v.node).any (v.grammar.comparison.equal · name) &&
      (v.grammar.symbol? v.unit v.node).any fun s =>
        s.kind == .property && v.grammar.comparison.equal s.name name && s.isMemberOf type

/-- An action that reports the visited node if all conditions hold. -/
def trackAction {α : Type} (holds : Visit → α → Bool) (d : Descriptor) (args : List String)
    (conditions : List (Condition α)) : Action :=
  ⟨d, fun v =>
    if conditions.all (Condition.holds (holds v)) then [⟨v.node, .own args⟩] else []⟩

/-- A request to report object creations that meet conditions. -/
def trackCreations (g : Grammar) (d : Descriptor) (args : List String)
    (conditions : List (Condition CreationTest)) : Request :=
  ⟨g.objectCreation, trackAction CreationTest.holds d args conditions⟩

/-- A request to report simple names that meet conditions. -/
def trackAccesses (g : Grammar) (d : Descriptor) (args : List String)
    (conditions : List (Condition AccessTest)) : Request :=
  ⟨g.identifierName, trackAction AccessTest.holds d args conditions⟩

end Rule
end TreeLint
