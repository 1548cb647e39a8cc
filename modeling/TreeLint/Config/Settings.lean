import TreeLint.Config.Basic
import TreeLint.Config.Rendering

/-!
# The settings of a configuration

The parameters of a configuration are checked when it is loaded: the list of credential words is a
text or a list of texts, and each limit is a natural number or the text of one. Other parameters
are left alone. The parameters are read one after the other, in an order that is not laid down; it
matters if a limit is given under both of its names, or if several parameters are invalid.
-/

namespace TreeLint
namespace Config

open Rule

def wordsKey : String := "credentialWords"

/-- The names of the limit for classes. -/
def classLimitKeys : List String := ["max", "maxGenericParametersInClass"]

/-- The names of the limit for methods. -/
def methodLimitKeys : List String := ["maxMethod", "maxGenericParametersInMethod"]

/-- The error for a parameter whose value is not what is expected. -/
def unexpected (key : String) (v : Setting) (expected : String) : ConfigError :=
  .parameter key v.shown expected

/-- The unsigned integer of 64 bits that a text denotes, with a plus sign or without. -/
def natural64? (cs : List Char) : Option Nat :=
  let digits :=
    match cs with
    | '+' :: ds => ds
    | _ => cs
  (Yaml.digits? 10 digits).filter (· < Nat.pow 2 64)

/-- The natural number that a value denotes. -/
def limitOf? : Setting → Option Nat
  | .number (.natural n) => some n
  | .text s => natural64? (Text.trim s.toList)
  | _ => none

/-- Checks a limit. -/
def readLimit (key : String) (v : Setting) : Except ConfigError Nat :=
  match limitOf? v with
  | some n => .ok n
  | none => .error (unexpected key v "a non-negative integer")

/-- Checks an item of a list of words. -/
def readWord (key : String) : Setting → Except ConfigError String
  | .text s => .ok s
  | v => .error (unexpected key v "a word")

/-- Checks a list of words; it is written as one text, with commas. -/
def readWordList (key : String) : Setting → Except ConfigError String
  | .text s => .ok s
  | .list items => (items.mapM (readWord key)).map (String.intercalate ",")
  | v => .error (unexpected key v "a comma separated list of words")

/-- Why the pattern of some words is refused, if it is: compiled it may be too large. -/
abbrev Refusal := List (List Char) → Option String

/-- No pattern is too large. -/
def Refusal.never : Refusal :=
  fun _ => none

/-- The words of a list, unless their pattern is refused. There is no pattern of no words. -/
def parseWords (refusal : Refusal) (list : String) : Except ConfigError Credential.WordSet :=
  let set := Credential.WordSet.parse list
  match if set.words.isEmpty then none else refusal set.words with
  | none => .ok set
  | some cause => .error (.parameter wordsKey list ("a list of words (" ++ cause ++ ")"))

/-- The settings after one more parameter is read. A parameter of another name changes nothing. -/
def readParameter (refusal : Refusal) (s : Settings) (p : String × Setting) :
    Except ConfigError Settings :=
  if p.1 = wordsKey then do
    let words ← parseWords refusal (← readWordList p.1 p.2)
    return { s with words := words }
  else if p.1 ∈ classLimitKeys then do
    return { s with maxInClass := ← readLimit p.1 p.2 }
  else if p.1 ∈ methodLimitKeys then do
    return { s with maxInMethod := ← readLimit p.1 p.2 }
  else return s

/-- The settings of the rules from parameters that are read one after the other. The error is that
of the first invalid one, and of two names for one limit the last one counts. -/
def readParameters (refusal : Refusal) (visits : List (String × Setting)) :
    Except ConfigError Settings :=
  visits.foldlM (readParameter refusal) Settings.standard

/-- An order in which the parameters of a configuration may be read; none is laid down. -/
def IsVisit (c : Config) (visits : List (String × Setting)) : Prop :=
  visits.Perm c.parameters.toList

/-- The settings of the rules; the parameters are read in the order of their names. -/
def settingsUnder (refusal : Refusal) (c : Config) : Except ConfigError Settings :=
  readParameters refusal c.parameters.toList

/-- The settings of the rules, with any words. -/
def settings (c : Config) : Except ConfigError Settings :=
  c.settingsUnder .never

end Config
end TreeLint
