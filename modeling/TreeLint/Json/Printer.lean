import TreeLint.Json.Number

/-!
# Writing JSON values

Two layouts: `compact` writes no white space, `pretty` puts every item and field on a line of its
own, indented by two spaces a level. Both escape the same characters: quotation marks, backslashes
and control characters.
-/

namespace TreeLint
namespace Json

/-- A hexadecimal digit in lower case. -/
def hexChar (n : Nat) : Char :=
  if n < 10 then Char.ofNat ('0'.toNat + n) else Char.ofNat ('a'.toNat + (n - 10))

/-- A character as it is written in a string. -/
def escapeChar (c : Char) : List Char :=
  if c = '"' then ['\\', '"']
  else if c = '\\' then ['\\', '\\']
  else if c = '\x08' then ['\\', 'b']
  else if c = '\x0C' then ['\\', 'f']
  else if c = '\n' then ['\\', 'n']
  else if c = '\r' then ['\\', 'r']
  else if c = '\t' then ['\\', 't']
  else if c.toNat < 0x20 then
    ['\\', 'u', '0', '0', hexChar (c.toNat / 16), hexChar (c.toNat % 16)]
  else [c]

/-- A string in quotation marks. -/
def quote (s : String) : List Char :=
  '"' :: s.toList.flatMap escapeChar ++ ['"']

/-- The text of a value that is not a container. -/
def scalarText : Value → List Char
  | .null => ['n', 'u', 'l', 'l']
  | .bool true => ['t', 'r', 'u', 'e']
  | .bool false => ['f', 'a', 'l', 's', 'e']
  | .number n => n.text
  | .string s => quote s
  | _ => []

mutual

/-- A value without white space. -/
def compactChars : Value → List Char
  | .array items => '[' :: compactItems items ++ [']']
  | .object fields => '{' :: compactFields fields ++ ['}']
  | v => scalarText v

def compactItems : List Value → List Char
  | [] => []
  | [v] => compactChars v
  | v :: rest => compactChars v ++ ',' :: compactItems rest

def compactFields : List (String × Value) → List Char
  | [] => []
  | [(name, v)] => quote name ++ ':' :: compactChars v
  | (name, v) :: rest => quote name ++ ':' :: compactChars v ++ ',' :: compactFields rest

end

/-- The start of a line at a given level. -/
def newLine (level : Nat) : List Char :=
  '\n' :: List.replicate (2 * level) ' '

mutual

/-- A value at a given level of indentation. -/
def prettyChars (level : Nat) : Value → List Char
  | .array [] => ['[', ']']
  | .array items => '[' :: prettyItems (level + 1) items ++ newLine level ++ [']']
  | .object [] => ['{', '}']
  | .object fields => '{' :: prettyFields (level + 1) fields ++ newLine level ++ ['}']
  | v => scalarText v

def prettyItems (level : Nat) : List Value → List Char
  | [] => []
  | [v] => newLine level ++ prettyChars level v
  | v :: rest => newLine level ++ prettyChars level v ++ ',' :: prettyItems level rest

def prettyFields (level : Nat) : List (String × Value) → List Char
  | [] => []
  | [(name, v)] => newLine level ++ quote name ++ ':' :: ' ' :: prettyChars level v
  | (name, v) :: rest =>
    newLine level ++ quote name ++ ':' :: ' ' :: prettyChars level v ++
      ',' :: prettyFields level rest

end

/-- A value without white space. -/
def compact (v : Value) : String :=
  String.ofList (compactChars v)

/-- A value with one item or field a line. -/
def pretty (v : Value) : String :=
  String.ofList (prettyChars 0 v)

end Json
end TreeLint
