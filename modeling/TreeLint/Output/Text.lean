import TreeLint.Output.Style
import TreeLint.Report.Duration
import TreeLint.Report.Summary

/-!
# Text output

Diagnostics are grouped by file, in the order of paths; every group stands under the path of its
first diagnostic. Behind the groups there may be a summary.
-/

namespace TreeLint
namespace Output

open Report

/-- What is shown in text output. -/
structure TextOptions where
  /-- Whether severities, counts and the like have styles. -/
  styled : Bool
  help : Bool
  statistics : Bool
deriving DecidableEq, Repr

/-- The diagnostics of one file. -/
structure FileGroup where
  path : String
  diagnostics : List Diagnostic

/-- Puts a diagnostic into the group of its file; the groups stand in the order of paths. -/
def addToGroups (d : Diagnostic) : List FileGroup → List FileGroup
  | [] => [⟨d.path, [d]⟩]
  | g :: gs =>
    match Path.cmp d.path g.path with
    | .lt => ⟨d.path, [d]⟩ :: g :: gs
    | .eq => { g with diagnostics := g.diagnostics ++ [d] } :: gs
    | .gt => g :: addToGroups d gs

/-- The groups of a sequence of diagnostics. -/
def groupByFile (ds : List Diagnostic) : List FileGroup :=
  ds.foldl (fun gs d => addToGroups d gs) []

/-- A count with its noun. -/
def counted (n : Nat) (one many : String) : String :=
  toString n ++ " " ++ if n = 1 then one else many

namespace TextOptions

variable (o : TextOptions)

def severityText : Severity → String
  | .error => Style.paint o.styled .boldRed Severity.error.name
  | .warning => Style.paint o.styled .boldYellow Severity.warning.name
  | .info => Style.paint o.styled .blue Severity.info.name

/-- The line of help under a diagnostic. -/
def helpText (d : Diagnostic) : String :=
  match d.help with
  | some h =>
    if o.help then "   " ++ Style.paint o.styled .blue "=" ++ " help: " ++ h ++ "\n" else ""
  | none => ""

/-- The place where a diagnostic starts. -/
def placeText (d : Diagnostic) : String :=
  d.path ++ ":" ++ toString d.span.start.line ++ ":" ++ toString d.span.start.column

/-- The text of a diagnostic. -/
def diagnosticText (d : Diagnostic) : String :=
  placeText d ++ ": " ++ o.severityText d.severity ++ "[" ++
    Style.paint o.styled .cyan d.ruleId ++ "]: " ++ d.message ++ "\n" ++ o.helpText d

/-- The text of a group. -/
def groupText (g : FileGroup) : String :=
  Style.paint o.styled .underline g.path ++ "\n" ++
    String.join (g.diagnostics.map o.diagnosticText) ++ "\n"

/-- The counts of a summary that are not zero. -/
def countTexts (s : Summary) : List String :=
  (if s.errorCount = 0 then []
    else [Style.paint o.styled .red (counted s.errorCount "error" "errors")]) ++
  (if s.warningCount = 0 then []
    else [Style.paint o.styled .yellow (counted s.warningCount "warning" "warnings")]) ++
  (if s.infoCount = 0 then []
    else [Style.paint o.styled .blue (counted s.infoCount "info" "infos")])

/-- The text of the counts and the duration of a summary. -/
def statisticsText (s : Summary) : String :=
  let counts := o.countTexts s
  "\n" ++ counted s.filesProcessed "file" "files" ++ " processed" ++
    (if counts.isEmpty then "" else ": " ++ ", ".intercalate counts) ++ "\n" ++
    (if s.cancelled then Style.paint o.styled .yellow "Analysis was cancelled\n" else "") ++
    "Finished in " ++ Duration.secondsText s.duration ++ "s\n"

/-- The text of a summary. -/
def summaryText (s : Summary) : String :=
  String.join ((groupByFile s.diagnostics).map o.groupText) ++
    if o.statistics then o.statisticsText s else ""

end TextOptions
end Output
end TreeLint
