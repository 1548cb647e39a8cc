import TreeLint.Rule.Condition
import TreeLint.Credential.Message
import TreeLint.Grammar.Csharp
import TreeLint.Grammar.VisualBasic

/-!
# Hard-coded credentials

Rule S2068 has two parts. Known interfaces are tracked: a constant password handed to a network
credential or to a key derivation, or assigned to the password of a network credential. And every
string assigned to a name is searched for credentials.
-/

namespace TreeLint
namespace Rule
namespace HardcodedCredentials

open Syntax Source

/-- The descriptor of the rule. -/
def descriptor : Descriptor where
  id := "S2068"
  title := "Credentials should not be hard-coded"
  message := "\x7b0\x7d"
  severity := .warning
  category := .security
  enabledByDefault := true
  description := "Hard-coded passwords and URIs with user info end up in version control " ++
    "and binaries. Load them from a protected configuration store instead."
  parameters := [⟨"credentialWords", .string,
    "Comma separated list of words identifying potential credentials",
    Credential.defaultWordList⟩]

def passwordMessage : String :=
  "Please review this hard-coded password."

def networkCredential : String := "System.Net.NetworkCredential"
def passwordDeriveBytes : String := "System.Security.Cryptography.PasswordDeriveBytes"
def stringType : String := "System.String"

/-- Creations of a type whose argument at an index is a constant string. -/
def constantArgument (type : String) (index : Nat) : List (Condition CreationTest) :=
  [.test (.constructor type), .test (.argumentType index stringType),
    .test (.argumentConstant index)]

/-- Assignments of a constant to the password of a network credential. -/
def constantPassword : List (Condition AccessTest) :=
  [.test .setter, .test .constant, .test (.property networkCredential "Password")]

/-- Where a language assigns values to names. -/
structure AssignmentSites where
  /-- Declarations of a name with an initializer. -/
  declarations : Grammar.KindSet
  /-- The initializer of such a declaration. -/
  initializer : String
  /-- Simple assignments. -/
  assignments : Grammar.KindSet

/-- The sites of a language. -/
def sites : Language → AssignmentSites
  | .csharp =>
    ⟨["VariableDeclarator", "PropertyDeclaration"], "EqualsValueClause",
      ["SimpleAssignmentExpression"]⟩
  | .visualBasic =>
    ⟨["VariableDeclarator", "PropertyStatement"], "EqualsValue", ["SimpleAssignmentStatement"]⟩

/-- The kinds of nodes that assign a value to a name. -/
def candidates (l : Language) : Grammar.KindSet :=
  (sites l).declarations ++ (sites l).assignments

/-- The name that a node assigns to, with the value it assigns. -/
def assigned? (g : Grammar) (n : Node) : Option (String × Node) :=
  let site := sites g.language
  if n.isAny site.declarations then do
    let name ← g.name? n
    let clause ← n.childOfKind? site.initializer
    let value ← clause.childNodes.getLast?
    some (name, value)
  else if n.isAny site.assignments then do
    let left ← g.left? n
    let name ← g.name? left
    let value ← g.right? n
    some (name, value)
  else
    none

/-- The message about a node, if it assigns a credential to a name. -/
def message? (words : Credential.WordSet) (g : Grammar) (n : Node) : Option String := do
  let (name, value) ← assigned? g n
  if g.isStringLiteral value then
    let text ← g.stringValue? value
    Credential.message? words name text
  else
    none

/-- The search of assigned strings. -/
def wordAction (words : Credential.WordSet) : Action :=
  ⟨descriptor, fun v =>
    match message? words v.grammar v.node with
    | some m => [⟨v.node, .own [m]⟩]
    | none => []⟩

/-- All that the rule asks for. -/
def requests (words : Credential.WordSet) (g : Grammar) : List Request :=
  [trackCreations g descriptor [passwordMessage] (constantArgument networkCredential 1),
    trackCreations g descriptor [passwordMessage] (constantArgument passwordDeriveBytes 0),
    trackAccesses g descriptor [passwordMessage] constantPassword,
    ⟨candidates g.language, wordAction words⟩]

end HardcodedCredentials
end Rule
end TreeLint
