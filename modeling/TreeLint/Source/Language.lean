import TreeLint.Text.Lowercase

/-!
# Languages

The two languages whose sources are analyzed.
-/

namespace TreeLint
namespace Source

/-- The language of a source. -/
inductive Language where
  | csharp
  | visualBasic
deriving DecidableEq, Repr

namespace Language

/-- The name of a language in documents and reports. -/
def name : Language → String
  | csharp => "csharp"
  | visualBasic => "visualbasic"

/-- The language with a given name, or with one of its short names. -/
def ofName? (s : String) : Option Language :=
  if ["csharp", "cs", "c#"].contains s then some csharp
  else if ["visualbasic", "vb", "vbnet"].contains s then some visualBasic
  else none

/-- The language with a given name or short name, regardless of case. -/
def parse? (s : String) : Option Language :=
  ofName? (Text.lowercaseString s)

end Language
end Source
end TreeLint
