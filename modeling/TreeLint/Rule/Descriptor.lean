import TreeLint.Report.Diagnostic
import TreeLint.Text.Piece
import TreeLint.Text.Lowercase

/-!
# Rule descriptors

What is known of a rule before it runs: its id, its texts, its severity and its settings. The
message of a finding is made from a template by putting arguments in for numbered slots, one after
another, so that a slot inside an argument is filled by a later one.
-/

namespace TreeLint
namespace Rule

open Report

/-- What a rule is about. -/
inductive Category where
  | correctness
  | suspicious
  | style
  | security
  | maintainability
deriving DecidableEq, Repr

namespace Category

def name : Category → String
  | correctness => "correctness"
  | suspicious => "suspicious"
  | style => "style"
  | security => "security"
  | maintainability => "maintainability"

def all : List Category :=
  [correctness, suspicious, style, security, maintainability]

/-- The category with a given name, regardless of case. -/
def parse? (s : String) : Option Category :=
  all.find? fun c => c.name == Text.lowercaseString s

end Category

/-- The type of a setting. -/
inductive ParameterKind where
  | string
  | integer
deriving DecidableEq, Repr

def ParameterKind.name : ParameterKind → String
  | string => "string"
  | integer => "integer"

/-- A setting of a rule. -/
structure Parameter where
  key : String
  kind : ParameterKind
  description : String
  default : String
deriving DecidableEq, Repr

/-- The descriptor of a rule. -/
structure Descriptor where
  id : String
  title : String
  /-- The template of its messages. -/
  message : String
  severity : Severity
  category : Category
  enabledByDefault : Bool
  description : String
  parameters : List Parameter
deriving DecidableEq, Repr

/-- The slot of an argument in a template: its number in braces. -/
def slot (i : Nat) : List Char :=
  '\x7b' :: Nat.toDigits 10 i ++ ['\x7d']

/-- Fills the slots from a number on, one after another. -/
def fillFrom (i : Nat) : List (List Char) → List Char → List Char
  | [], text => text
  | a :: rest, text => fillFrom (i + 1) rest (Text.replace (slot i) a text)

/-- A template with arguments put in. -/
def fill (template : String) (args : List String) : String :=
  String.ofList (fillFrom 0 (args.map String.toList) template.toList)

end Rule
end TreeLint
