import TreeLint.Json.Printer
import TreeLint.Output.Json
import TreeLint.Output.Sarif
import TreeLint.Output.Text

/-!
# Formatters

The three forms of output with their options, and the texts that they give for a summary and for a
single diagnostic.
-/

namespace TreeLint
namespace Output

open Report

/-- A form of output with its options. -/
inductive Formatter where
  | text (options : TextOptions)
  | json (pretty : Bool)
  | sarif (tool : Tool)

namespace Formatter

/-- The text of a JSON value, on one line or on several ones. -/
def valueText (pretty : Bool) (v : Json.Value) : String :=
  if pretty then Json.pretty v else Json.compact v

/-- The text of a summary. -/
def summaryText : Formatter → Summary → String
  | text o, s => o.summaryText s
  | json pretty, s => valueText pretty (summaryValue s)
  | sarif tool, s => valueText true (sarifValue tool s)

/-- The text of a diagnostic. -/
def diagnosticText : Formatter → Diagnostic → String
  | text o, d => o.diagnosticText d
  | json pretty, d => valueText pretty (diagnosticValue d)
  | sarif tool, d => valueText true (resultValue tool.rules d)

end Formatter
end Output
end TreeLint
