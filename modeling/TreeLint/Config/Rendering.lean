import TreeLint.Config.Setting
import TreeLint.Yaml.Printer
import TreeLint.Text.Blank

/-!
# Writing parameter values

The text that shows a parameter value in a message: a string itself, and anything else as a YAML
document in block style. A sequence that is the value of a key is not indented further than the key.
-/

namespace TreeLint
namespace Config
namespace Setting

/-- What stands in front of a value: nothing, a dash, or a key. -/
inductive Place where
  | start
  | item
  | value
deriving DecidableEq, Repr

/-- The text of a number. -/
def numberText : Json.Number → List Char
  | .double bits =>
    if bits = Yaml.infinityBits then ".inf".toList
    else if bits = Decimal.negateBits Yaml.infinityBits then "-.inf".toList
    else if Decimal.isNonFinite bits then ".nan".toList
    else Decimal.writeBits bits
  | n => n.text

/-- What stands between a place and a value on the same line. -/
def gap : Place → List Char
  | .start => []
  | _ => [' ']

/-- The line end and the indentation in front of an entry or item. -/
def newLine (indent : Nat) : List Char :=
  '\n' :: List.replicate indent ' '

/-- How far the items of a sequence are indented behind a place that is indented by a number of
columns. -/
def itemIndent (place : Place) (indent : Nat) : Nat :=
  if place = .item then indent + 2 else indent

/-- How far the entries of a mapping are indented behind a place. -/
def entryIndent (place : Place) (indent : Nat) : Nat :=
  if place = .start then indent else indent + 2

/-- What stands between a place and the first item or entry of a collection. -/
def opening (place : Place) (indent : Nat) : List Char :=
  if place = .value then newLine indent else gap place

/-- Whether a key is written in front of its colon, without a sign of its own. -/
def isSimpleKey : Setting → Bool
  | text s => s.utf8ByteSize ≤ 128 && !s.contains '\n'
  | list items => items.isEmpty
  | map entries => entries.isEmpty
  | _ => true

/-- The text of a key on one line. -/
def keyText (indent : Nat) : Setting → List Char
  | null => "null".toList
  | bool b => (if b then "true" else "false").toList
  | number n => numberText n
  | text s => Yaml.writeString true indent s
  | list _ => "[]".toList
  | map _ => "\x7b\x7d".toList

mutual

/-- A value behind a place that is indented by a number of columns, with the gap between them. -/
def write (place : Place) (indent : Nat) : Setting → List Char
  | null => gap place ++ "null".toList
  | bool b => gap place ++ (if b then "true" else "false").toList
  | number n => gap place ++ numberText n
  | text s => gap place ++ Yaml.writeString false indent s
  | list items =>
    if items.isEmpty then gap place ++ "[]".toList
    else opening place (itemIndent place indent) ++ writeItems (itemIndent place indent) items
  | map entries =>
    if entries.isEmpty then gap place ++ "\x7b\x7d".toList
    else
      opening place (entryIndent place indent) ++ writeEntries (entryIndent place indent) entries

def writeItems (indent : Nat) : List Setting → List Char
  | [] => []
  | v :: vs =>
    '-' :: write .item indent v ++
      if vs.isEmpty then [] else newLine indent ++ writeItems indent vs

def writeEntries (indent : Nat) : List (Setting × Setting) → List Char
  | [] => []
  | (k, v) :: rest =>
    (if k.isSimpleKey then keyText indent k ++ ':' :: write .value indent v
      else '?' :: write .item indent k ++ newLine indent ++ ':' :: write .item indent v) ++
      if rest.isEmpty then [] else newLine indent ++ writeEntries indent rest

end

/-- The text that shows a value in a message. -/
def shown : Setting → String
  | text s => s
  | v => String.ofList (Text.dropEndWhile Text.isBlank (write .start 0 v))

end Setting
end Config
end TreeLint
