import TreeLint.Config.Basic
import TreeLint.Distinct

/-!
# Merging configurations

A second configuration put on top of a first one. Most of its settings count only if they differ
from the standard; lists of rules grow, lists of patterns grow without repetition, and maps are
joined entry by entry.
-/

namespace TreeLint
namespace Config

/-- The later of two values, unless it is the standard one. -/
def unlessStandard {α : Type} [BEq α] (standard first second : α) : α :=
  if second == standard then first else second

def EngineOptions.merge (a b : EngineOptions) : EngineOptions where
  parallel := b.parallel
  jobs := unlessStandard 0 a.jobs b.jobs
  analyzeGenerated := unlessStandard false a.analyzeGenerated b.analyzeGenerated

def OutputOptions.merge (a b : OutputOptions) : OutputOptions where
  format := unlessStandard .text a.format b.format
  color := unlessStandard .auto a.color b.color
  verbose := unlessStandard false a.verbose b.verbose
  statistics := b.statistics

def FileOptions.merge (a b : FileOptions) : FileOptions where
  included := addNew a.included b.included
  excluded := addNew a.excluded b.excluded

/-- Adds the rules left out for a pattern to those that are left out already. -/
def addIgnored (m : Std.TreeMap String (List String)) (pattern : String) (rules : List String) :
    Std.TreeMap String (List String) :=
  m.insert pattern (m[pattern]?.getD [] ++ rules)

def RuleOptions.merge (a b : RuleOptions) : RuleOptions where
  disabled := a.disabled ++ b.disabled
  enabled := a.enabled ++ b.enabled
  only := unlessStandard [] a.only b.only
  severity := a.severity ∪ b.severity
  perFile := b.perFile.foldl addIgnored a.perFile

/-- The configuration `b` on top of the configuration `a`. What `a` builds on is kept. -/
def merge (a b : Config) : Config where
  bases := a.bases
  engine := a.engine.merge b.engine
  output := a.output.merge b.output
  files := a.files.merge b.files
  rules := a.rules.merge b.rules
  parameters := a.parameters ∪ b.parameters

/-- What a command line says about the configuration; what it leaves open is `none`. -/
structure Overrides where
  format : Option Output.Format
  verbose : Option Bool
  jobs : Option Nat
  disabled : Option (List String)
  enabled : Option (List String)
  only : Option (List String)
deriving DecidableEq, Repr

/-- A configuration with what a command line says put in. -/
def override (c : Config) (o : Overrides) : Config :=
  { c with
    engine := { c.engine with jobs := o.jobs.getD c.engine.jobs }
    output := { c.output with
      format := o.format.getD c.output.format
      verbose := o.verbose.getD c.output.verbose }
    rules := { c.rules with
      disabled := c.rules.disabled ++ o.disabled.getD []
      enabled := c.rules.enabled ++ o.enabled.getD []
      only := o.only.getD c.rules.only } }

end Config
end TreeLint
