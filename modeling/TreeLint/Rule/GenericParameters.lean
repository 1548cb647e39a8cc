import TreeLint.Rule.Registry

/-!
# Generic parameters

Rule S2436 reports types and methods that have more generic parameters than allowed. A positional
record is looked at once, as a declaration.
-/

namespace TreeLint
namespace Rule
namespace GenericParameters

open Syntax

/-- How many generic parameters a type may have when nothing is configured. -/
def defaultMaxInClass : Nat := 2

/-- How many generic parameters a method may have when nothing is configured. -/
def defaultMaxInMethod : Nat := 3

/-- The descriptor of the rule. -/
def descriptor : Descriptor where
  id := "S2436"
  title := "Types and methods should not have too many generic parameters"
  message := "Reduce the number of generic parameters in the '\x7b0\x7d' \x7b1\x7d to no more " ++
    "than the \x7b2\x7d authorized."
  severity := .warning
  category := .maintainability
  enabledByDefault := false
  description := "Every extra type parameter multiplies the combinations a reader and a " ++
    "caller have to keep in mind."
  parameters := [
    ⟨"maxGenericParametersInClass", .integer,
      "Maximum authorized number of generic parameters.", toString defaultMaxInClass⟩,
    ⟨"maxGenericParametersInMethod", .integer,
      "Maximum authorized number of generic parameters for methods.",
      toString defaultMaxInMethod⟩]

def typeKinds : Grammar.KindSet :=
  ["ClassDeclaration", "StructDeclaration", "InterfaceDeclaration", "RecordDeclaration",
    "RecordStructDeclaration"]

def methodKinds : Grammar.KindSet :=
  ["MethodDeclaration", "LocalFunctionStatement"]

/-- The declarations that a method may stand in. -/
def enclosingKinds : Grammar.KindSet :=
  typeKinds ++ ["EnumDeclaration"]

/-- The number of generic parameters of a declaration. -/
def parameterCount (declaration : Node) : Nat :=
  match declaration.childOfKind? "TypeParameterList" with
  | none => 0
  | some list => list.childNodes.countP fun c => c.kind == "TypeParameter"

/-- What a type declaration is called in messages. -/
def typeWord (kind : String) : String :=
  if kind = "StructDeclaration" then "struct"
  else if kind = "InterfaceDeclaration" then "interface"
  else if kind = "RecordDeclaration" then "record"
  else if kind = "RecordStructDeclaration" then "record struct"
  else "class"

/-- The name of a method behind that of the type it stands in. -/
def qualifiedName (g : Grammar) (method : Node) (name : String) : String :=
  let enclosing := (method.ancestors.find? fun a => a.isAny enclosingKinds).bind g.name?
  String.intercalate "." (([enclosing.getD "", name]).filter fun s => s != "")

/-- The rule at a type. -/
def runType (max : Nat) (v : Visit) : List Finding :=
  if v.pass == .primaryConstructor || decide (parameterCount v.node ≤ max) then []
  else
    match v.grammar.identifier? v.node, v.grammar.name? v.node with
    | some token, some name => [⟨token, .own [name, typeWord v.node.kind, toString max]⟩]
    | _, _ => []

/-- The rule at a method. -/
def runMethod (max : Nat) (v : Visit) : List Finding :=
  if parameterCount v.node ≤ max then []
  else
    match v.grammar.identifier? v.node, v.grammar.name? v.node with
    | some token, some name =>
      [⟨token, .own [qualifiedName v.grammar v.node name, "method", toString max]⟩]
    | _, _ => []

/-- All that the rule asks for. -/
def requests (maxInClass maxInMethod : Nat) : List Request :=
  [⟨typeKinds, ⟨descriptor, runType maxInClass⟩⟩,
    ⟨methodKinds, ⟨descriptor, runMethod maxInMethod⟩⟩]

end GenericParameters
end Rule
end TreeLint
