import TreeLint.Config.Query
import TreeLint.Output.Style

/-!
# Listings of rules

The texts that list all rules, and that explain one of them.
-/

namespace TreeLint
namespace CommandLine

open Output Report Rule

/-- Lines with their line ends. -/
def linesText (lines : List String) : String :=
  String.join (lines.map fun l => l ++ "\n")

/-- The name of a severity in its colour. -/
def severityLabel (styled : Bool) : Severity → String
  | .error => Style.paint styled .red Severity.error.name
  | .warning => Style.paint styled .yellow Severity.warning.name
  | .info => Style.paint styled .blue Severity.info.name

/-- The lines of a rule in the list of rules. -/
def ruleLines (styled : Bool) (c : Config) (d : Descriptor) : List String :=
  let state := if c.isEnabled d.id then "" else Style.paint styled .dimmed " [disabled]"
  ["    " ++ Style.paint styled .cyan d.id ++ " [" ++ severityLabel styled d.severity ++ "] (" ++
      d.category.name ++ ")" ++ state,
    "      " ++ d.title]

/-- The list of rules. -/
def listing (styled : Bool) (c : Config) : String :=
  linesText <|
    [Style.paint styled .bold "Available rules:", ""] ++ catalogue.flatMap (ruleLines styled c)

/-- A line with a name and a text. -/
def factLine (styled : Bool) (name text : String) : String :=
  "  " ++ Style.paint styled .bold name ++ ": " ++ text

/-- The line of a parameter. -/
def parameterLine (styled : Bool) (p : Parameter) : String :=
  "    " ++ Style.paint styled .cyan p.key ++ " (" ++ p.kind.name ++ ", default " ++ p.default ++
    "): " ++ p.description

/-- The lines of the parameters of a rule, if it has any. -/
def parameterLines (styled : Bool) (d : Descriptor) : List String :=
  if d.parameters.isEmpty then []
  else
    ["", "  " ++ Style.paint styled .bold "Parameters"] ++
      d.parameters.map (parameterLine styled)

/-- The explanation of a rule. -/
def explanation (styled : Bool) (d : Descriptor) : String :=
  linesText <|
    [Style.paint styled .bold "Rule Details",
      "",
      factLine styled "ID" (Style.paint styled .cyan d.id),
      factLine styled "Name" d.title,
      factLine styled "Severity" (severityLabel styled d.severity),
      factLine styled "Category" d.category.name,
      factLine styled "Enabled by default" (if d.enabledByDefault then "yes" else "no"),
      "",
      "  " ++ Style.paint styled .bold "Description",
      "  " ++ d.description,
      "",
      "  " ++ Style.paint styled .bold "Message",
      "  " ++ d.message] ++
    parameterLines styled d

end CommandLine
end TreeLint
