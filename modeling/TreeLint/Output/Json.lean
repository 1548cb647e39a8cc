import TreeLint.Json.Value
import TreeLint.Report.Duration
import TreeLint.Report.Summary

/-!
# JSON output

A summary as a JSON value: its diagnostics in their order, and its counts.
-/

namespace TreeLint
namespace Output

open Json Report

/-- A diagnostic. Its help is left out if it has none. -/
def diagnosticValue (d : Diagnostic) : Value :=
  .object <|
    [("rule_id", .string d.ruleId),
      ("severity", .string d.severity.name),
      ("message", .string d.message),
      ("file", .string d.path),
      ("line", .nat d.span.start.line),
      ("column", .nat d.span.start.column),
      ("end_line", .nat d.span.stop.line),
      ("end_column", .nat d.span.stop.column)] ++
    d.help.toList.map fun h => ("help", .string h)

/-- The counts of a summary. -/
def countsValue (s : Summary) : Value :=
  .object
    [("files_processed", .nat s.filesProcessed),
      ("files_with_errors", .nat s.filesWithErrors),
      ("files_with_warnings", .nat s.filesWithWarnings),
      ("error_count", .nat s.errorCount),
      ("warning_count", .nat s.warningCount),
      ("info_count", .nat s.infoCount),
      ("duration_ms", .nat (Duration.milliseconds s.duration)),
      ("cancelled", .bool s.cancelled)]

/-- A summary. -/
def summaryValue (s : Summary) : Value :=
  .object
    [("diagnostics", .array (s.diagnostics.map diagnosticValue)), ("summary", countsValue s)]

end Output
end TreeLint
