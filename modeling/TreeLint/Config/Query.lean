import TreeLint.Config.Basic
import TreeLint.Glob.Match

/-!
# What a configuration says about rules

Whether a rule runs, whether it is left out for a file, and how serious its findings are. Ids in
lists are compared regardless of the case of ASCII letters.
-/

namespace TreeLint
namespace Config

open Report

/-- Whether a list of rules names a rule. -/
def namesRule (ids : List String) (id : String) : Bool :=
  ids.any fun i => Text.sameAsciiString i id

/-- Whether a rule runs when nothing is said about it; rules that are not known do. -/
def runsByDefault (id : String) : Bool :=
  (Rule.find? id).all fun d => d.enabledByDefault

/-- Whether a rule runs. A disabled rule never does; else the list of only rules decides, if it has
any; else a rule runs if it is enabled or runs by default. -/
def isEnabled (c : Config) (id : String) : Bool :=
  if namesRule c.rules.disabled id then false
  else if !c.rules.only.isEmpty then namesRule c.rules.only id
  else namesRule c.rules.enabled id || runsByDefault id

/-- The severity that is set for a rule; the id has to be spelled as it is set. -/
def severity? (c : Config) (id : String) : Option Severity :=
  c.rules.severity[id]?

/-- The word that stands for all rules in the lists of rules left out for a file. -/
def allRules : String := "all"

/-- Whether a list of rules left out for a file takes in a rule. -/
def takesIn (ids : List String) (id : String) : Bool :=
  ids.contains allRules || namesRule ids id

/-- Whether a rule is left out for a file, where `matching` tells which patterns match which
paths. -/
def isIgnoredWhere (matching : String → String → Bool) (c : Config) (id path : String) : Bool :=
  c.rules.perFile.toList.any fun e => matching e.1 path && takesIn e.2 id

/-- Whether a rule is left out for a file. -/
def isIgnored (c : Config) (id path : String) : Bool :=
  c.isIgnoredWhere Glob.isMatch id path

/-- Whether a rule runs on a file, where `matching` tells which patterns match which paths. -/
def runsOnWhere (matching : String → String → Bool) (c : Config) (id path : String) : Bool :=
  c.isEnabled id && !c.isIgnoredWhere matching id path

end Config
end TreeLint
