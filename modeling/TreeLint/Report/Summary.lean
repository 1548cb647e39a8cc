import TreeLint.Report.Diagnostic
import Std.Data.TreeMap

/-!
# Summaries of analyses

What an analysis of some files found: the diagnostics, counts, and how often each rule was
evaluated. The summaries of single files are merged one after another and then sorted.
-/

namespace TreeLint
namespace Report

/-- How often a rule was evaluated, how many findings it had, and the time it took in
nanoseconds. -/
structure Tally where
  nanoseconds : Nat
  evaluations : Nat
  findings : Nat
deriving DecidableEq, Repr

namespace Tally

def zero : Tally :=
  ⟨0, 0, 0⟩

def add (a b : Tally) : Tally :=
  ⟨a.nanoseconds + b.nanoseconds, a.evaluations + b.evaluations, a.findings + b.findings⟩

/-- The average time of one evaluation, at most the largest number of 64 bits. -/
def average (t : Tally) : Nat :=
  min (t.nanoseconds / t.evaluations) (Nat.pow 2 64 - 1)

end Tally

/-- The tallies of rules by rule id. -/
abbrev Tallies := Std.TreeMap String Tally

namespace Tallies

/-- Adds a tally to that of a rule. -/
def addTo (ts : Tallies) (ruleId : String) (t : Tally) : Tallies :=
  ts.insert ruleId ((ts[ruleId]?.getD Tally.zero).add t)

/-- Adds all tallies of one table to another. -/
def merge (a b : Tallies) : Tallies :=
  b.foldl addTo a

end Tallies

/-- What an analysis found. -/
structure Summary where
  diagnostics : List Diagnostic
  filesProcessed : Nat
  filesWithErrors : Nat
  filesWithWarnings : Nat
  errorCount : Nat
  warningCount : Nat
  infoCount : Nat
  /-- The time the analysis took, in nanoseconds. -/
  duration : Nat
  tallies : Tallies
  cancelled : Bool

namespace Summary

/-- The summary of no files. -/
def empty : Summary :=
  ⟨[], 0, 0, 0, 0, 0, 0, 0, ∅, false⟩

/-- The summary of a file that was not looked at because the analysis was cancelled. -/
def stopped : Summary :=
  { empty with cancelled := true }

/-- The summary of a file without diagnostics or evaluations. -/
def skipped : Summary :=
  { empty with filesProcessed := 1 }

/-- The summary of one file with given diagnostics. -/
def ofFile (ds : List Diagnostic) : Summary :=
  let errors := Diagnostic.countOf .error ds
  let warnings := Diagnostic.countOf .warning ds
  { empty with
    diagnostics := ds
    filesProcessed := 1
    filesWithErrors := if 0 < errors then 1 else 0
    filesWithWarnings := if 0 < warnings then 1 else 0
    errorCount := errors
    warningCount := warnings
    infoCount := Diagnostic.countOf .info ds }

/-- Puts the findings of a second summary behind those of a first one. The duration stays that of
the first. -/
def merge (a b : Summary) : Summary where
  diagnostics := a.diagnostics ++ b.diagnostics
  filesProcessed := a.filesProcessed + b.filesProcessed
  filesWithErrors := a.filesWithErrors + b.filesWithErrors
  filesWithWarnings := a.filesWithWarnings + b.filesWithWarnings
  errorCount := a.errorCount + b.errorCount
  warningCount := a.warningCount + b.warningCount
  infoCount := a.infoCount + b.infoCount
  duration := a.duration
  tallies := a.tallies.merge b.tallies
  cancelled := a.cancelled || b.cancelled

/-- The summary with its diagnostics in order. -/
def sort (s : Summary) : Summary :=
  { s with diagnostics := Diagnostic.sort s.diagnostics }

/-- The sorted summary of several files. -/
def ofFiles (ss : List Summary) : Summary :=
  (ss.foldl merge empty).sort

def hasErrors (s : Summary) : Bool :=
  0 < s.errorCount

def hasWarnings (s : Summary) : Bool :=
  0 < s.warningCount

/-- Whether there is neither an error nor a warning. -/
def isClean (s : Summary) : Bool :=
  s.errorCount == 0 && s.warningCount == 0

/-- The exit code: two with errors, one with warnings, else zero. -/
def exitCode (s : Summary) : Nat :=
  if s.hasErrors then 2 else if s.hasWarnings then 1 else 0

/-- The tallies by falling time; rules with one time stand in the order of their ids. -/
def sortedTallies (s : Summary) : List (String × Tally) :=
  s.tallies.toList.mergeSort fun a b => decide (b.2.nanoseconds ≤ a.2.nanoseconds)

end Summary
end Report
end TreeLint
