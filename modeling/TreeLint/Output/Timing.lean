import TreeLint.Report.Duration
import TreeLint.Report.Summary

/-!
# Tables of times

The time that each rule took, by falling time, in columns.
-/

namespace TreeLint
namespace Output

open Report

/-- A text at the left of a column. -/
def padRight (width : Nat) (s : String) : String :=
  s ++ String.ofList (List.replicate (width - s.length) ' ')

/-- A text at the right of a column. -/
def padLeft (width : Nat) (s : String) : String :=
  String.ofList (List.replicate (width - s.length) ' ') ++ s

/-- The line of a rule. -/
def timingRow (ruleId : String) (t : Tally) : String :=
  padRight 12 ruleId ++ " " ++
    padLeft 10 (Duration.millisecondsText t.nanoseconds) ++ "ms " ++
    padLeft 10 (Duration.microsecondsText t.average) ++ "µs " ++
    padLeft 10 (toString t.evaluations) ++ " " ++
    padLeft 12 (toString t.findings) ++ "\n"

/-- The lines above the table. -/
def timingHeader : String :=
  "Rule Timing Statistics:\n" ++
    padRight 12 "Rule ID" ++ " " ++ padLeft 12 "Total" ++ " " ++ padLeft 12 "Avg" ++ " " ++
    padLeft 10 "Evals" ++ " " ++ padLeft 12 "Matches" ++ "\n" ++
    String.ofList (List.replicate 62 '-') ++ "\n"

/-- The table of a summary. -/
def timingTable (s : Summary) : String :=
  let rows := s.sortedTallies
  if rows.isEmpty then "No timing data available"
  else timingHeader ++ String.join (rows.map fun r => timingRow r.1 r.2)

end Output
end TreeLint
