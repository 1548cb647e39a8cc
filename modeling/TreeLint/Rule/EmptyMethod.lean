import TreeLint.Rule.Registry

/-!
# Empty methods

Rule S1186 reports methods whose body has neither a statement nor a comment inside its braces.
Virtual methods, overrides of abstract members, and overrides in test projects may be empty.
-/

namespace TreeLint
namespace Rule
namespace EmptyMethod

open Syntax Source

/-- The descriptor of the rule. -/
def descriptor : Descriptor where
  id := "S1186"
  title := "Methods should not be empty"
  message := "Add a nested comment explaining why this method is empty, throw a " ++
    "'NotSupportedException' or complete the implementation."
  severity := .warning
  category := .suspicious
  enabledByDefault := true
  description := "An empty method is either unfinished or intentionally a no-op; a " ++
    "comment inside the body tells the reader which."
  parameters := []

def localFunction : String := "LocalFunctionStatement"

/-- Whether a body has neither a statement nor a comment inside its delimiters. -/
def isEmptyBody (body : Node) : Bool :=
  body.childNodes.isEmpty && !Grammar.hasDelimiterComment body

/-- Whether a method is known to override an abstract member. -/
def overridesAbstract (u : SourceUnit) (method : Node) : Bool :=
  (u.declared? method).any fun s =>
    s.isOverride && (s.overridden.bind u.symbols.get?).any fun o => o.isAbstract

/-- Whether a method may be empty. -/
def mayBeEmpty (u : SourceUnit) (method : Node) : Bool :=
  Grammar.hasModifier method "VirtualKeyword" || overridesAbstract u method ||
    (Grammar.hasModifier method "OverrideKeyword" && u.testProject)

/-- The rule at a method or at a local function. -/
def run (v : Visit) : List Finding :=
  match v.node.childOfKind? "Block" with
  | none => []
  | some body =>
    if isEmptyBody body && (v.node.kind == localFunction || !mayBeEmpty v.unit v.node) then
      (v.grammar.identifier? v.node).toList.map fun token => ⟨token, .own []⟩
    else
      []

/-- All that the rule asks for. -/
def requests : List Request :=
  [⟨["MethodDeclaration", localFunction], ⟨descriptor, run⟩⟩]

end EmptyMethod
end Rule
end TreeLint
