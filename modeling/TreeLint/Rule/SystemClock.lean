import TreeLint.Rule.Registry

/-!
# Reading the system clock

Rule S6354 reports names that read the current date or time off the system clock. The report
stands at the expression around the name.
-/

namespace TreeLint
namespace Rule
namespace SystemClock

open Syntax

/-- The descriptor of the rule. -/
def descriptor : Descriptor where
  id := "S6354"
  title := "Use a testable date/time provider"
  message := "Use a testable (date) time provider instead."
  severity := .info
  category := .maintainability
  enabledByDefault := true
  description := "Code reading the system clock directly cannot be tested against a " ++
    "fixed point in time. Inject a clock abstraction instead."
  parameters := []

/-- The properties that read the clock. -/
def clockNames : List String :=
  ["Now", "UtcNow", "Today"]

def dateTime : String := "System.DateTime"

/-- The rule at a simple name. -/
def run (v : Visit) : List Finding :=
  let named := (v.grammar.name? v.node).any fun name =>
    clockNames.any fun c => v.grammar.comparison.equal c name
  let property := (v.grammar.symbol? v.unit v.node).any fun s =>
    s.kind == .property && s.isMemberOf dateTime
  if named && property then [⟨v.node.parent?.getD v.node, .own []⟩] else []

/-- All that the rule asks for. -/
def requests (g : Grammar) : List Request :=
  [⟨g.identifierName, ⟨descriptor, run⟩⟩]

end SystemClock
end Rule
end TreeLint
