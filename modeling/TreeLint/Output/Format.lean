import TreeLint.Text.Lowercase

/-!
# Output formats

The forms in which findings can be written, and when text is coloured.
-/

namespace TreeLint
namespace Output

/-- A form of output. -/
inductive Format where
  | text
  | json
  | sarif
deriving DecidableEq, Repr

namespace Format

def name : Format → String
  | text => "text"
  | json => "json"
  | sarif => "sarif"

/-- The format with exactly a given name. -/
def ofName? (s : String) : Option Format :=
  [text, json, sarif].find? fun f => f.name == s

/-- The format with a given name, regardless of case. -/
def parse? (s : String) : Option Format :=
  ofName? (Text.lowercaseString s)

end Format

/-- When text is coloured: if it goes to a terminal, always, or never. -/
inductive ColorMode where
  | auto
  | always
  | never
deriving DecidableEq, Repr

namespace ColorMode

def name : ColorMode → String
  | auto => "auto"
  | always => "always"
  | never => "never"

/-- The mode with exactly a given name. -/
def ofName? (s : String) : Option ColorMode :=
  [auto, always, never].find? fun m => m.name == s

end ColorMode
end Output
end TreeLint
