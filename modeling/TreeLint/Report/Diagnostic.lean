import TreeLint.Report.Severity
import TreeLint.Path.Component
import TreeLint.Syntax.Span

/-!
# Diagnostics

A finding of a rule at a place in a file. Diagnostics are sorted by file, start, rule and message.
-/

namespace TreeLint
namespace Report

open Syntax

/-- A finding. -/
structure Diagnostic where
  ruleId : String
  severity : Severity
  message : String
  path : String
  span : Span
  help : Option String
deriving DecidableEq, Repr

/-- What diagnostics are sorted by. -/
structure SortKey where
  path : List Path.Component
  start : Position
  ruleId : String
  message : String
deriving DecidableEq, Repr

/-- The order of sort keys: by path, line, column, rule and message. -/
def SortKey.cmp (a b : SortKey) : Ordering :=
  (Path.cmpComponents a.path b.path).then <|
  (compare a.start.line b.start.line).then <|
  (compare a.start.column b.start.column).then <|
  (compare a.ruleId b.ruleId).then <|
  compare a.message b.message

namespace Diagnostic

/-- The sort key of a diagnostic. -/
def sortKey (d : Diagnostic) : SortKey :=
  ⟨Path.components d.path, d.span.start, d.ruleId, d.message⟩

/-- Whether a diagnostic may stand before another. -/
def le (a b : Diagnostic) : Bool :=
  (a.sortKey.cmp b.sortKey).isLE

/-- The diagnostics in order; those with one sort key keep their order. -/
def sort (ds : List Diagnostic) : List Diagnostic :=
  ds.mergeSort le

/-- How many diagnostics have a severity. -/
def countOf (s : Severity) (ds : List Diagnostic) : Nat :=
  ds.countP fun d => d.severity == s

end Diagnostic
end Report
end TreeLint
