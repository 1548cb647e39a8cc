import TreeLint.Config.Setting
import TreeLint.Output.Format
import TreeLint.Rule.Catalogue

/-!
# Configurations

What a configuration says about the engine, the output, the files and the rules; the configuration
used when nothing is said; and the presets.
-/

namespace TreeLint

namespace Config

/-- How the engine runs. -/
structure EngineOptions where
  parallel : Bool
  /-- The number of parallel jobs; zero leaves it to the engine. -/
  jobs : Nat
  /-- Whether generated sources are analyzed too. -/
  analyzeGenerated : Bool
deriving DecidableEq, Repr

/-- How findings are written. -/
structure OutputOptions where
  format : Output.Format
  color : Output.ColorMode
  verbose : Bool
  statistics : Bool
deriving DecidableEq, Repr

/-- Which files of a directory are analyzed: patterns to include and to exclude. -/
structure FileOptions where
  included : List String
  excluded : List String
deriving DecidableEq, Repr

/-- Which rules run, and how serious their findings are. -/
structure RuleOptions where
  disabled : List String
  /-- Rules that run besides those that run by default. -/
  enabled : List String
  /-- The only rules that run, unless there are none. -/
  only : List String
  severity : Std.TreeMap String Report.Severity
  /-- Rules that are left out for files whose path matches a pattern. -/
  perFile : Std.TreeMap String (List String)

end Config

/-- A configuration. -/
structure Config where
  /-- The presets and files that this configuration builds on. -/
  bases : List String
  engine : Config.EngineOptions
  output : Config.OutputOptions
  files : Config.FileOptions
  rules : Config.RuleOptions
  parameters : Std.TreeMap String Config.Setting

namespace Config

/-- The configuration when nothing is said. -/
def standard : Config where
  bases := []
  engine := ⟨true, 0, false⟩
  output := ⟨.text, .auto, false, true⟩
  files := ⟨["**/*.cs.json", "**/*.vb.json"], ["**/obj/**", "**/bin/**"]⟩
  rules := ⟨[], [], [], ∅, ∅⟩
  parameters := ∅

/-- The configuration in which every rule runs. -/
def everything : Config :=
  { standard with
    rules := { standard.rules with enabled := Rule.catalogue.map Rule.Descriptor.id } }

/-- The configuration of a preset. -/
def preset? (name : String) : Option Config :=
  if name = "recommended" then some standard
  else if name = "all" then some everything
  else none

/-- Why there is no configuration, or no settings for the rules. -/
inductive ConfigError where
  | unreadable
  | malformedYaml
  | malformedJson
  /-- Files that build on each other are nested too deeply. -/
  | tooDeep
  /-- The extension of a file is not one of a known format. -/
  | unknownFormat (extension : String)
  | unknownPreset (name : String)
  | parameter (key value expected : String)
deriving DecidableEq, Repr

/-- The text of an error; the wording for unreadable and malformed texts ends with their class. -/
def ConfigError.message : ConfigError → String
  | .unreadable => "IO error"
  | .malformedYaml => "YAML parse error"
  | .malformedJson => "JSON parse error"
  | .tooDeep => "Invalid configuration: Maximum config inheritance depth exceeded"
  | .unknownFormat extension => "Invalid configuration: Unknown config file format: " ++ extension
  | .unknownPreset name => "Unknown preset: " ++ name
  | .parameter key value expected =>
    "Invalid value '" ++ value ++ "' for parameter '" ++ key ++ "': expected " ++ expected

end Config
end TreeLint
