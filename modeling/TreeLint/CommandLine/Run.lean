import TreeLint.CommandLine.Arguments
import TreeLint.CommandLine.Files
import TreeLint.CommandLine.Listing
import TreeLint.Config.Load
import TreeLint.Engine
import TreeLint.Output.Formatter
import TreeLint.Output.Timing

/-!
# Runs of the program

What the program answers to its arguments in a tree of files: an exit code, and the texts of its
output and of its error output. The exit code of an analysis tells the worst severity that is
reported.
-/

namespace TreeLint
namespace CommandLine

open Output Report

/-- What a run of the program leaves behind. -/
structure Outcome where
  code : Nat
  output : String
  errors : String
deriving DecidableEq, Repr

/-- The name under which the program goes. -/
def programName : String := "netlint"

def programVersion : String := "0.1.0"

/-- The outcome of a run that only writes a text. -/
def Outcome.shown (text : String) : Outcome :=
  ⟨0, text, ""⟩

/-- The word in front of an error. -/
def errorLabel (styled : Bool) : String :=
  Style.paint styled .boldRed "error"

/-- The outcome of a run that cannot go on. -/
def Outcome.failed (styled : Bool) (message : String) : Outcome :=
  ⟨1, "", errorLabel styled ++ ": " ++ message ++ "\n"⟩

/-- The outcome of a run without files. -/
def Outcome.withoutFiles (styled : Bool) : Outcome where
  code := 2
  output := ""
  errors :=
    linesText
      [errorLabel styled ++ ": No files specified", "",
        "Usage: " ++ programName ++ " [OPTIONS] <FILES>...", "",
        "For more information, try '--help'"]

/-- How the program is used. -/
def usage : String :=
  linesText
    (["Usage: " ++ programName ++ " [OPTIONS] [FILES]...", "", "Options:"] ++
      longNames.map fun n => "  --" ++ n.1)

/-- The outcome of arguments that are not those of a run. -/
def Outcome.stopped : Stop → Outcome
  | .misuse => ⟨2, "", usage⟩
  | .help => Outcome.shown usage
  | .version => Outcome.shown (programName ++ " " ++ programVersion ++ "\n")

/-- Whether text has styles: by default on a terminal only. The switch against colours wins over
everything, and then the configuration counts. -/
def usesStyles (terminal noColor : Bool) (mode : ColorMode) : Bool :=
  !noColor &&
    match mode with
    | .auto => terminal
    | .always => true
    | .never => false

/-- A summary with the diagnostics that reach a level. The counts of diagnostics are taken anew, and
those of files are kept. -/
def atLeast (level : Severity) (s : Summary) : Summary :=
  let kept := s.diagnostics.filter fun d => d.severity.reaches level
  { s with
    diagnostics := kept
    errorCount := Diagnostic.countOf .error kept
    warningCount := Diagnostic.countOf .warning kept
    infoCount := Diagnostic.countOf .info kept }

/-- What is reported of a summary. -/
def reported (a : Arguments) (s : Summary) : Summary :=
  match a.minSeverity with
  | none => s
  | some level => atLeast level s

/-- The formatter that the arguments and the configuration ask for. -/
def formatterOf (a : Arguments) (c : Config) (styled : Bool) (rules : List Rule.Descriptor) :
    Formatter :=
  match c.output.format with
  | .text => .text ⟨styled, c.output.verbose, c.output.statistics⟩
  | .json => .json a.pretty
  | .sarif => .sarif ⟨programName, programVersion, rules⟩

/-- The exit code for what is reported. -/
def exitCode (a : Arguments) (s : Summary) : Nat :=
  if a.exitZero then 0 else s.exitCode

/-- The outcome of an analysis. -/
def Outcome.ofSummary (a : Arguments) (c : Config) (styled : Bool) (notes : String)
    (rules : List Rule.Descriptor) (s : Summary) : Outcome where
  code := exitCode a s
  output := (formatterOf a c styled rules).summaryText s
  errors := notes ++ if a.timing then "\n" ++ timingTable s ++ "\n" else ""

/-- Analyzes files with a configuration. -/
def analyzeFiles (files : Path.FileTree) (a : Arguments) (c : Config) (styled : Bool)
    (paths : List String) : Outcome :=
  match Engine.ofConfig c with
  | .error cause => Outcome.failed styled ("Invalid configuration: " ++ cause.message)
  | .ok e =>
    let notes :=
      if c.output.verbose then "Analyzing " ++ toString paths.length ++ " file(s)\n" else ""
    Outcome.ofSummary a c styled notes e.rules (reported a (e.analyzeFiles files paths))

/-- Finds the files and analyzes them. -/
def analyze (files : Path.FileTree) (a : Arguments) (c : Config) (styled : Bool) : Outcome :=
  if a.files.isEmpty then Outcome.withoutFiles styled
  else
    match collectFiles files c.files a.files with
    | .error cause => Outcome.failed styled cause.message
    | .ok [] => Outcome.failed styled "No files found to analyze"
    | .ok paths => analyzeFiles files a c styled paths

/-- The configuration that the arguments ask for, without what they say themselves. -/
def loadConfig (files : Path.FileTree) (a : Arguments) : Except Config.ConfigError Config :=
  match a.config with
  | some path => Config.load files path
  | none => Config.loadDefault files

/-- Explains a rule. -/
def explain (styled : Bool) (id : String) : Outcome :=
  match Rule.find? id with
  | some d => Outcome.shown (explanation styled d)
  | none => Outcome.failed styled ("Rule '" ++ id ++ "' not found")

/-- Runs the program with arguments that were read. -/
def runWith (files : Path.FileTree) (terminal : Bool) (a : Arguments) : Outcome :=
  let styledFirst := usesStyles terminal a.noColor .auto
  match a.explain with
  | some id => explain styledFirst id
  | none =>
    match loadConfig files a with
    | .error cause => Outcome.failed styledFirst ("Failed to load config: " ++ cause.message)
    | .ok loaded =>
      let c := loaded.override a.overrides
      let styled := usesStyles terminal a.noColor c.output.color
      if a.listRules then Outcome.shown (listing styled c) else analyze files a c styled

/-- Runs the program in a tree of files; `terminal` tells whether its output goes to one. -/
def run (files : Path.FileTree) (terminal : Bool) (args : List String) : Outcome :=
  match Arguments.read args with
  | .error stop => Outcome.stopped stop
  | .ok a => runWith files terminal a

end CommandLine
end TreeLint
