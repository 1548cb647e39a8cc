import TreeLint.Yaml.Scalar

/-!
# Tokens of YAML texts

A text is cut into tokens. Indentation becomes tokens that open and close block collections. A key
is known as one only when the colon behind it is met: its token, and the start of its mapping, are
then put in front of the tokens it consists of.
-/

namespace TreeLint
namespace Yaml

/-- A token. -/
inductive Token where
  | documentStart
  | documentEnd
  | sequenceStart
  | mappingStart
  /-- The end of a block collection. -/
  | blockEnd
  /-- A dash in front of an item. -/
  | item
  /-- A sign in front of a key, written or understood. -/
  | key
  /-- A colon in front of a value. -/
  | value
  | openBracket
  | closeBracket
  | openBrace
  | closeBrace
  | comma
  | scalar (plain : Bool) (text : String)
deriving DecidableEq, Repr

/-- A token that becomes part of a key if a colon follows it soon enough. -/
structure PendingKey where
  /-- Whether only a key can stand at this place. -/
  required : Bool
  /-- How many tokens there are in front of it. -/
  number : Nat
  line : Nat
  column : Nat
  index : Nat
deriving DecidableEq, Repr

/-- How far a key may reach. -/
def longestKey : Nat := 1024

/-- The state of cutting a text into tokens. -/
structure Scanner where
  cursor : Cursor
  /-- The columns of the open block collections, the innermost first. -/
  indents : List Nat
  /-- The key that is pending in the innermost collection. -/
  pending : Option PendingKey
  /-- The keys that are pending around each open bracket, the innermost first. -/
  outer : List (Option PendingKey)
  /-- Whether a key may start at this place. -/
  keyAllowed : Bool
  tokens : List Token

namespace Scanner

/-- The start of a text. A byte order mark is skipped. -/
def start (text : List Char) : Scanner where
  cursor :=
    match text with
    | '\uFEFF' :: rest => ⟨rest, 0, 0, 1⟩
    | _ => Cursor.start text
  indents := []
  pending := none
  outer := []
  keyAllowed := true
  tokens := []

/-- Whether a place is inside brackets. -/
def inFlow (s : Scanner) : Bool :=
  !s.outer.isEmpty

/-- Adds a token at the end. -/
def push (s : Scanner) (t : Token) : Scanner :=
  { s with tokens := s.tokens ++ [t] }

/-- Adds a token for the next characters, and goes behind them. -/
def take (s : Scanner) (n : Nat) (t : Token) : Scanner :=
  { s.push t with cursor := s.cursor.skip n }

/-- The column from which on a line belongs to the innermost block collection. -/
def least (s : Scanner) : Nat :=
  (s.indents.head?.map (· + 1)).getD 0

/-- Skips the rest of a line. -/
def skipLine (c : Cursor) : Cursor :=
  (c.takeWhile fun ch => !isBreak ch).2

/-- Goes to the next token, over blanks, comments and line ends. Behind the start of a line, and
wherever a key may start outside brackets, a tab is no blank. -/
def skipBlank : Nat → Scanner → Scanner
  | 0, s => s
  | fuel + 1, s =>
    match s.cursor.rest with
    | ' ' :: _ => skipBlank fuel { s with cursor := s.cursor.skip 1 }
    | '\t' :: _ =>
      if s.inFlow || !s.keyAllowed then skipBlank fuel { s with cursor := s.cursor.skip 1 } else s
    | '#' :: _ => skipBreaks fuel { s with cursor := skipLine s.cursor }
    | _ => skipBreaks fuel s
where
  /-- Goes over a line end, if there is one. -/
  skipBreaks (fuel : Nat) (s : Scanner) : Scanner :=
    if s.cursor.atBreak then
      skipBlank fuel
        { s with cursor := s.cursor.lineEnd.2, keyAllowed := s.keyAllowed || !s.inFlow }
    else s

/-- Gives up a pending key that can no longer become one: a key stays on its line and is not too
long. -/
def refresh (c : Cursor) : Option PendingKey → Option (Option PendingKey)
  | none => some none
  | some k =>
    if k.line < c.line || k.index + longestKey < c.index then
      (if k.required then none else some none)
    else some (some k)

/-- Gives up all pending keys that can no longer become one. -/
def refreshAll (s : Scanner) : Option Scanner := do
  let pending ← refresh s.cursor s.pending
  let outer ← s.outer.mapM (refresh s.cursor)
  return { s with pending := pending, outer := outer }

/-- Gives up the pending key of the innermost collection. -/
def dropKey (s : Scanner) : Option Scanner :=
  if s.pending.any PendingKey.required then none else some { s with pending := none }

/-- Notes that a key may start at this place. -/
def noteKey (s : Scanner) : Option Scanner :=
  if s.keyAllowed then
    let c := s.cursor
    let required := !s.inFlow && s.indents.head? == some c.column
    (dropKey s).map fun s =>
      { s with pending := some ⟨required, s.tokens.length, c.line, c.column, c.index⟩ }
  else some s

/-- Opens a block collection at a column if it is indented further than the innermost one. The
token that opens it goes in front of the token with a given number. -/
def indent (s : Scanner) (column number : Nat) (t : Token) : Scanner :=
  if !s.inFlow && s.indents.head?.all (· < column) then
    { s with indents := column :: s.indents, tokens := s.tokens.insertIdx number t }
  else s

/-- Closes the block collections that are indented further than a column, or all of them. -/
def dedent (s : Scanner) (column : Option Nat) : Scanner :=
  if s.inFlow then s
  else
    let closed := s.indents.takeWhile fun i => column.all (· < i)
    { s with
      indents := s.indents.drop closed.length
      tokens := s.tokens ++ closed.map fun _ => Token.blockEnd }

/-- Opens a block collection for an indicator at this place, where one may stand. -/
def indicator (s : Scanner) (t : Token) : Option Scanner :=
  if s.inFlow then some s
  else if s.keyAllowed then some (s.indent s.cursor.column s.tokens.length t)
  else none

def takeDocumentMark (s : Scanner) (t : Token) : Option Scanner := do
  let s ← dropKey (s.dedent none)
  return { s.take 3 t with keyAllowed := false }

def takeOpening (s : Scanner) (t : Token) : Option Scanner := do
  let s ← noteKey s
  return { s.take 1 t with outer := s.pending :: s.outer, pending := none, keyAllowed := true }

def takeClosing (s : Scanner) (t : Token) : Option Scanner := do
  let s ← dropKey s
  return { s.take 1 t with
    pending := s.outer.head?.join
    outer := s.outer.tail
    keyAllowed := false }

def takeComma (s : Scanner) : Option Scanner := do
  let s ← dropKey s
  return { s.take 1 .comma with keyAllowed := true }

def takeItem (s : Scanner) : Option Scanner := do
  let s ← dropKey (← s.indicator .sequenceStart)
  return { s.take 1 .item with keyAllowed := true }

def takeKey (s : Scanner) : Option Scanner := do
  let s ← dropKey (← s.indicator .mappingStart)
  return { s.take 1 .key with keyAllowed := !s.inFlow }

/-- Takes a colon. If a key is pending, it becomes one. -/
def takeValue (s : Scanner) : Option Scanner :=
  match s.pending with
  | some k =>
    let s := { s with tokens := s.tokens.insertIdx k.number .key, pending := none }
    some { (s.indent k.column k.number .mappingStart).take 1 .value with keyAllowed := false }
  | none => do
    let s ← s.indicator .mappingStart
    return { s.take 1 .value with keyAllowed := !s.inFlow }

/-- Puts in a scalar that was read. -/
def pushScalar (s : Scanner) (plain : Bool) (t : ScalarText) (keyAllowed : Bool) : Scanner :=
  { s.push (.scalar plain (String.ofList t.text)) with cursor := t.next, keyAllowed := keyAllowed }

def takeBlockScalar (s : Scanner) (literal : Bool) : Option Scanner := do
  let s ← dropKey s
  let t ← blockScalar literal s.indents.head? s.cursor
  return s.pushScalar false t true

def takeQuoted (s : Scanner) (quote : Char) : Option Scanner := do
  let s ← noteKey s
  let t ← quotedScalar quote s.cursor
  return s.pushScalar false t false

def takePlain (s : Scanner) : Option Scanner := do
  let s ← noteKey s
  let t ← plainScalar s.inFlow s.least s.cursor
  return s.pushScalar true t t.crossed

/-- Whether a plain scalar starts with a character that is followed by a given text. -/
def startsPlain (inFlow : Bool) (c : Char) (rest : List Char) : Bool :=
  if c = '-' then !rest.head?.any isBlank
  else if c = '?' || c = ':' then !inFlow && !endsWord rest
  else !isBlank c && !isBreak c && !"[]{},#&*!|>'\"%@`".contains c

/-- Takes the token at this place. Directives, anchors, aliases and tags are refused. -/
def takeToken (s : Scanner) : Option Scanner :=
  match s.cursor.rest with
  | [] => none
  | c :: rest =>
    if s.cursor.column == 0 && c = '%' then none
    else if s.cursor.atMarks '-' then s.takeDocumentMark .documentStart
    else if s.cursor.atMarks '.' then s.takeDocumentMark .documentEnd
    else if c = '[' then s.takeOpening .openBracket
    else if c = '{' then s.takeOpening .openBrace
    else if c = ']' then s.takeClosing .closeBracket
    else if c = '}' then s.takeClosing .closeBrace
    else if c = ',' then s.takeComma
    else if c = '-' && endsWord rest then s.takeItem
    else if c = '?' && (s.inFlow || endsWord rest) then s.takeKey
    else if c = ':' && (s.inFlow || endsWord rest) then s.takeValue
    else if c = '|' && !s.inFlow then s.takeBlockScalar true
    else if c = '>' && !s.inFlow then s.takeBlockScalar false
    else if c = '\'' || c = '"' then s.takeQuoted c
    else if startsPlain s.inFlow c rest then s.takePlain
    else none

/-- Closes everything that is open at the end of a text. -/
def finish (s : Scanner) : Option (List Token) :=
  (dropKey (s.dedent none)).map Scanner.tokens

/-- Takes the tokens up to the end of the text. -/
def run : Nat → Scanner → Option (List Token)
  | 0, _ => none
  | fuel + 1, s => do
    let s ← refreshAll (skipBlank (s.cursor.rest.length + 1) s)
    if s.cursor.atEnd then
      s.finish
    else
      run fuel (← (s.dedent (some s.cursor.column)).takeToken)

end Scanner

/-- The tokens of a text. -/
def tokens? (text : List Char) : Option (List Token) :=
  if text.all isPrintable then Scanner.run (text.length + 1) (Scanner.start text) else none

end Yaml
end TreeLint
