import TreeLint.Text.Lowercase

/-!
# Severities

How serious a finding is: information, a warning or an error, in rising order.
-/

namespace TreeLint
namespace Report

/-- The severity of a finding. -/
inductive Severity where
  | info
  | warning
  | error
deriving DecidableEq, Repr

namespace Severity

/-- The name of a severity. -/
def name : Severity → String
  | info => "info"
  | warning => "warning"
  | error => "error"

/-- The rank of a severity. -/
def rank : Severity → Nat
  | info => 0
  | warning => 1
  | error => 2

/-- Whether a severity reaches a level. -/
def reaches (s level : Severity) : Bool :=
  level.rank ≤ s.rank

/-- The severity with exactly a given name. -/
def ofName? (s : String) : Option Severity :=
  [info, warning, error].find? fun v => v.name == s

/-- The severity with a given name or short name, regardless of case. -/
def parse? (s : String) : Option Severity :=
  let word := Text.lowercaseString s
  if ["info", "hint", "note"].contains word then some info
  else if ["warning", "warn"].contains word then some warning
  else if ["error", "err"].contains word then some error
  else none

end Severity
end Report
end TreeLint
