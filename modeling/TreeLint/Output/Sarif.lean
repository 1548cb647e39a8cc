import TreeLint.Json.Value
import TreeLint.Report.Summary
import TreeLint.Rule.Descriptor

/-!
# SARIF output

A summary as a log in the Static Analysis Results Interchange Format: the tool with its rules, and a
result for every diagnostic in their order. A region has its end only if that is behind its start,
and its start is at least the first column of the first line.
-/

namespace TreeLint
namespace Output

open Json Report Rule Syntax

/-- The tool that a log names. -/
structure Tool where
  name : String
  version : String
  rules : List Descriptor

/-- The schema of the format. -/
def sarifSchema : String :=
  "https://raw.githubusercontent.com/oasis-tcs/sarif-spec/master/Schemata/sarif-schema-2.1.0.json"

def sarifVersion : String := "2.1.0"

/-- Where a reader of a log finds out about the tool. -/
def informationUri : String :=
  "https://github.com/Tsahi-Elkayam/wixcraft"

/-- The level of a severity. -/
def level : Severity → String
  | .error => "error"
  | .warning => "warning"
  | .info => "note"

/-- A message. -/
def messageValue (text : String) : Value :=
  .object [("text", .string text)]

/-- A rule. -/
def ruleValue (d : Descriptor) : Value :=
  .object
    [("id", .string d.id),
      ("name", .string d.title),
      ("shortDescription", messageValue d.title),
      ("fullDescription", messageValue d.description),
      ("defaultConfiguration",
        .object [("level", .string (level d.severity)), ("enabled", .bool d.enabledByDefault)]),
      ("properties", .object [("category", .string d.category.name)])]

/-- A region of a file. -/
structure Region where
  startLine : Nat
  startColumn : Nat
  stop : Option Position
deriving DecidableEq, Repr

/-- The region of a span. -/
def regionOf (s : Span) : Region :=
  ⟨max s.start.line 1, max s.start.column 1, if s.start.before s.stop then some s.stop else none⟩

def regionValue (r : Region) : Value :=
  .object <|
    [("startLine", .nat r.startLine), ("startColumn", .nat r.startColumn)] ++
    r.stop.toList.flatMap fun p => [("endLine", .nat p.line), ("endColumn", .nat p.column)]

/-- The address of a file, with slashes for backslashes. -/
def uriOf (path : String) : String :=
  path.map fun c => if c = '\\' then '/' else c

/-- The place of a diagnostic. -/
def locationValue (d : Diagnostic) : Value :=
  .object
    [("physicalLocation",
      .object
        [("artifactLocation", .object [("uri", .string (uriOf d.path))]),
          ("region", regionValue (regionOf d.span))])]

/-- The place of the rule of a diagnostic in the list of rules. -/
def ruleIndex? (rules : List Descriptor) (d : Diagnostic) : Option Nat :=
  rules.findIdx? fun r => r.id == d.ruleId

/-- A result. -/
def resultValue (rules : List Descriptor) (d : Diagnostic) : Value :=
  .object <|
    [("ruleId", .string d.ruleId)] ++
    ((ruleIndex? rules d).toList.map fun i => ("ruleIndex", .nat i)) ++
    [("level", .string (level d.severity)),
      ("message", messageValue d.message),
      ("locations", .array [locationValue d])]

/-- A log. -/
def sarifValue (tool : Tool) (s : Summary) : Value :=
  .object
    [("$schema", .string sarifSchema),
      ("version", .string sarifVersion),
      ("runs",
        .array
          [.object
            [("tool",
                .object
                  [("driver",
                    .object
                      [("name", .string tool.name),
                        ("version", .string tool.version),
                        ("informationUri", .string informationUri),
                        ("rules", .array (tool.rules.map ruleValue))])]),
              ("results", .array (s.diagnostics.map (resultValue tool.rules)))]])]

end Output
end TreeLint
