import TreeLint.Config.Basic
import TreeLint.Json.Reader
import TreeLint.Json.Record

/-!
# Reading configurations

A configuration is read from a JSON or a YAML document. Both are read in the same way, given how a
form of documents writes texts, names, numbers, lists, maps and records. Any part of a
configuration may be left out, and then is the standard one.
-/

namespace TreeLint
namespace Config

/-- How a form of documents writes values. -/
structure Form (α : Type) where
  text? : α → Option String
  /-- A name out of a fixed choice. -/
  choice? : α → Option String
  bool? : α → Option Bool
  natural? : α → Option Nat
  items? : α → Option (List α)
  entries? : α → Option (List (String × α))
  /-- The fields of a record, which knows certain names. -/
  record? : List String → α → Option (List (String × α))
  setting? : α → Option Setting

/-- The way a JSON document writes values. -/
def jsonForm : Form Json.Value where
  text? := Json.Value.string?
  choice? := Json.Value.choice?
  bool? := Json.Value.bool?
  natural? := Json.Value.nat64?
  items? := Json.Value.array?
  entries?
    | .object fields => some fields
    | _ => none
  record? names v := (Json.Record.ofValue? names v).map Json.Record.fields
  setting? := Setting.ofJson?

/-! ## YAML -/

/-- The text of a scalar, however it is written. -/
def scalarText? : Yaml.Node → Option String
  | .scalar _ s => some s
  | _ => none

/-- The text of a plain scalar. -/
def plainText? : Yaml.Node → Option String
  | .scalar true s => some s
  | _ => none

/-- The items of a sequence, which may be left out. -/
def nodeItems? : Yaml.Node → Option (List Yaml.Node)
  | .sequence items => some items
  | .scalar true "" => some []
  | _ => none

/-- The entries of a mapping, which may be left out; their keys are scalars. -/
def nodeEntries? : Yaml.Node → Option (List (String × Yaml.Node))
  | .mapping entries => entries.mapM fun e => (scalarText? e.1).map fun k => (k, e.2)
  | .scalar true "" => some []
  | _ => none

/-- The fields of a record among the entries of a mapping; a known one is given at most once. -/
def nodeRecord? (names : List String) (n : Yaml.Node) : Option (List (String × Yaml.Node)) := do
  let known := (← nodeEntries? n).filter fun e => names.contains e.1
  if (known.map Prod.fst).Nodup then some known else none

/-- How deep collections may be nested in a parameter. -/
def deepestSetting : Nat := 126

/-- The way a YAML document writes values. -/
def yamlForm : Form Yaml.Node where
  text? := scalarText?
  choice? := scalarText?
  bool? n := (plainText? n).bind Yaml.bool?
  natural? n := (plainText? n).bind Yaml.natural64?
  items? := nodeItems?
  entries? := nodeEntries?
  record? := nodeRecord?
  setting? n := if n.depth ≤ deepestSetting then Setting.ofNode? n else none

/-! ## Configurations -/

namespace Form

variable {α β : Type} (f : Form α)

/-- Reads a field that stands for a given value when it is left out. -/
def fieldOr (fields : List (String × α)) (name : String) (default : β) (read : α → Option β) :
    Option β :=
  match fields.lookup name with
  | none => some default
  | some v => read v

/-- Reads a list of texts. -/
def texts? (v : α) : Option (List String) := do
  (← f.items? v).mapM f.text?

/-- Reads a map. Of entries with the same name the last one counts. -/
def map? (read : α → Option β) (v : α) : Option (Std.TreeMap String β) := do
  (← f.entries? v).foldlM (fun m e => (read e.2).map (m.insert e.1)) ∅

def engine? (v : α) : Option EngineOptions := do
  let fields ← f.record? ["parallel", "jobs", "analyze_generated"] v
  return {
    parallel := ← fieldOr fields "parallel" standard.engine.parallel f.bool?
    jobs := ← fieldOr fields "jobs" standard.engine.jobs f.natural?
    analyzeGenerated :=
      ← fieldOr fields "analyze_generated" standard.engine.analyzeGenerated f.bool? }

def output? (v : α) : Option OutputOptions := do
  let fields ← f.record? ["format", "color", "verbose", "statistics"] v
  return {
    format := ← fieldOr fields "format" standard.output.format fun v =>
      (f.choice? v).bind Output.Format.ofName?
    color := ← fieldOr fields "color" standard.output.color fun v =>
      (f.choice? v).bind Output.ColorMode.ofName?
    verbose := ← fieldOr fields "verbose" standard.output.verbose f.bool?
    statistics := ← fieldOr fields "statistics" standard.output.statistics f.bool? }

def files? (v : α) : Option FileOptions := do
  let fields ← f.record? ["include", "exclude"] v
  return {
    included := ← fieldOr fields "include" standard.files.included f.texts?
    excluded := ← fieldOr fields "exclude" standard.files.excluded f.texts? }

def rules? (v : α) : Option RuleOptions := do
  let fields ← f.record? ["disabled", "enabled", "only", "severity", "per_file"] v
  return {
    disabled := ← fieldOr fields "disabled" standard.rules.disabled f.texts?
    enabled := ← fieldOr fields "enabled" standard.rules.enabled f.texts?
    only := ← fieldOr fields "only" standard.rules.only f.texts?
    severity := ← fieldOr fields "severity" standard.rules.severity <|
      f.map? fun v => (f.choice? v).bind Report.Severity.ofName?
    perFile := ← fieldOr fields "per_file" standard.rules.perFile (f.map? f.texts?) }

/-- Reads a configuration. -/
def config? (v : α) : Option Config := do
  let fields ← f.record? ["extends", "engine", "output", "files", "rules", "parameters"] v
  return {
    bases := ← fieldOr fields "extends" standard.bases f.texts?
    engine := ← fieldOr fields "engine" standard.engine f.engine?
    output := ← fieldOr fields "output" standard.output f.output?
    files := ← fieldOr fields "files" standard.files f.files?
    rules := ← fieldOr fields "rules" standard.rules f.rules?
    parameters := ← fieldOr fields "parameters" standard.parameters (f.map? f.setting?) }

end Form

/-- The configuration that a JSON value writes. -/
def ofJson? (v : Json.Value) : Option Config :=
  jsonForm.config? v

/-- The configuration that a JSON text writes. -/
def ofJsonText? (s : String) : Option Config :=
  (Json.read? s.toList).bind ofJson?

/-- The configuration that a YAML text writes. -/
def ofYamlText? (s : String) : Option Config :=
  (Yaml.Node.ofText? s.toList).bind yamlForm.config?

end Config
end TreeLint
