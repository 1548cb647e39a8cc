import TreeLint.Config.Query
import TreeLint.Config.Settings
import TreeLint.Path.FileTree
import TreeLint.Source.Document
import TreeLint.Watch

/-!
# The engine

An engine runs the rules that its configuration turns on over units, and puts what they find
together. Its credential words can be replaced, and it can be cancelled: an engine that sees its
flag set looks at no further node and no further unit. Each analysis comes with the watches over
that flag, one for every input; without watches the flag stays as the engine has it.
-/

namespace TreeLint

open Report Rule Source Syntax

/-- An engine. -/
structure Engine where
  config : Config
  settings : Settings
  /-- Which patterns of the configuration match which paths. -/
  matching : String → String → Bool
  cancelled : Bool

namespace Engine

/-- The engine of a configuration under some way to match paths, if its parameters are valid. -/
def ofConfigWhere (matching : String → String → Bool) (c : Config) :
    Except Config.ConfigError Engine :=
  c.settings.map fun s => ⟨c, s, matching, false⟩

/-- The engine of a configuration, if its parameters are valid. -/
def ofConfig (c : Config) : Except Config.ConfigError Engine :=
  ofConfigWhere Glob.isMatch c

def cancel (e : Engine) : Engine :=
  { e with cancelled := true }

/-- Lets a cancelled engine go on. -/
def resume (e : Engine) : Engine :=
  { e with cancelled := false }

/-- Replaces the credential words by those of a list. -/
def setWords (e : Engine) (list : String) : Engine :=
  { e with settings := { e.settings with words := Credential.WordSet.parse list } }

/-- The rules of all languages. -/
def rules (e : Engine) : List Descriptor :=
  registeredDescriptors e.settings

/-- The rules of a registry that run on a file. -/
def activeRules (e : Engine) (r : Registry) (path : String) : List String :=
  (r.descriptors.map Descriptor.id).filter fun id => e.config.runsOnWhere e.matching id path

/-- A diagnostic with the severity that is set for its rule. -/
def withSeverity (e : Engine) (d : Diagnostic) : Diagnostic :=
  { d with severity := (e.config.severity? d.ruleId).getD d.severity }

/-- The runs of the active rules over nodes of a unit. -/
def runsOver (e : Engine) (u : SourceUnit) (nodes : List Node) : List Run :=
  let registry := registryOf e.settings u.language
  registry.runsOver (e.activeRules registry u.path).contains u nodes

/-- What the active rules find in a unit, at the nodes in front of which the flag is not set. -/
def examine (e : Engine) (w : Watch) (u : SourceUnit) : Summary :=
  let visited := w.admitted u.nodes
  let runs := e.runsOver u visited
  let found := (runs.flatMap Run.diagnostics).map e.withSeverity
  { Summary.ofFile found with
    tallies := tallyRuns runs
    cancelled := visited.length < u.nodes.length }.sort

/-- Whether a unit is left out because it was generated. -/
def skips (e : Engine) (u : SourceUnit) : Bool :=
  u.generated && !e.config.engine.analyzeGenerated

/-- The summary of a unit under a watch. -/
def watchUnit (e : Engine) (w : Watch) (u : SourceUnit) : Summary :=
  if w 0 then Summary.stopped
  else if e.skips u then Summary.skipped
  else e.examine w.next u

/-- The summary of several units, each under a watch of its own. -/
def watchUnits (e : Engine) (us : List (Watch × SourceUnit)) : Summary :=
  Summary.ofFiles (us.map fun u => e.watchUnit u.1 u.2)

/-- The summary of a unit. -/
def analyzeUnit (e : Engine) (u : SourceUnit) : Summary :=
  e.watchUnit (.steady e.cancelled) u

/-- The summary of several units. -/
def analyze (e : Engine) (us : List SourceUnit) : Summary :=
  e.watchUnits (us.map fun u => (.steady e.cancelled, u))

/-- The id under which files without a unit are reported. -/
def unreadableRule : String := "parse-error"

/-- The diagnostic of a file without a unit. -/
def unreadableFile (path : String) (cause : DocumentError) : Diagnostic where
  ruleId := unreadableRule
  severity := .error
  message := "Parse error: " ++ cause.message
  path := path
  span := ⟨⟨1, 1⟩, ⟨1, 1⟩⟩
  help := none

/-- The unit in a file. -/
def loadUnit (files : Path.FileTree) (path : String) : Except DocumentError SourceUnit :=
  match files.read? path with
  | none => .error .unreadable
  | some text => SourceUnit.ofText text path

/-- The summary of a file under a watch. -/
def watchFile (e : Engine) (files : Path.FileTree) (w : Watch) (path : String) : Summary :=
  if w 0 then Summary.stopped
  else
    match loadUnit files path with
    | .ok u => e.watchUnit w.next u
    | .error cause => Summary.ofFile [unreadableFile path cause]

/-- The summary of several files, each under a watch of its own. -/
def watchFiles (e : Engine) (files : Path.FileTree) (paths : List (Watch × String)) : Summary :=
  Summary.ofFiles (paths.map fun p => e.watchFile files p.1 p.2)

/-- The summary of a file. -/
def analyzeFile (e : Engine) (files : Path.FileTree) (path : String) : Summary :=
  e.watchFile files (.steady e.cancelled) path

/-- The summary of several files. -/
def analyzeFiles (e : Engine) (files : Path.FileTree) (paths : List String) : Summary :=
  e.watchFiles files (paths.map fun p => (.steady e.cancelled, p))

end Engine
end TreeLint
