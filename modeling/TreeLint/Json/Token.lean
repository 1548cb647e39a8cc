import TreeLint.Json.Number
import TreeLint.Text.Hex

/-!
# Tokens of JSON texts

A text is cut into tokens by an automaton that reads one character at a time. White space separates
tokens and leaves no trace, so two layouts of one value have the same tokens.
-/

namespace TreeLint
namespace Json

/-- A token. A name or string with half a surrogate pair has no text. -/
inductive Token where
  | openArray
  | closeArray
  | openObject
  | closeObject
  | comma
  | colon
  | scalar (v : Value)
  | text (s : Option String)

/-- What a string is written with: a character, or a code unit of sixteen bits. -/
inductive TextItem where
  | char (c : Char)
  | unit (n : Nat)
deriving DecidableEq, Repr

/-- The character of a surrogate pair. -/
def pairChar (high low : Nat) : Char :=
  Char.ofNat (0x10000 + (high - 0xD800) * 0x400 + (low - 0xDC00))

def isHighUnit (n : Nat) : Bool :=
  0xD800 ≤ n && n ≤ 0xDBFF

def isLowUnit (n : Nat) : Bool :=
  0xDC00 ≤ n && n ≤ 0xDFFF

/-- The text of a sequence of items; a code unit that is half of a pair needs the other half. -/
def itemsText? : List TextItem → Option (List Char)
  | [] => some []
  | .char c :: rest => (itemsText? rest).map (c :: ·)
  | .unit n :: .unit m :: rest =>
    if isHighUnit n then
      if isLowUnit m then (itemsText? rest).map (pairChar n m :: ·) else none
    else if isLowUnit n then none
    else (itemsText? (.unit m :: rest)).map (Char.ofNat n :: ·)
  | .unit n :: rest =>
    if isHighUnit n || isLowUnit n then none else (itemsText? rest).map (Char.ofNat n :: ·)

/-- The character that a one-letter escape stands for. -/
def escapedChar? : Char → Option Char
  | '"' => some '"'
  | '\\' => some '\\'
  | '/' => some '/'
  | 'b' => some '\x08'
  | 'f' => some '\x0C'
  | 'n' => some '\n'
  | 'r' => some '\r'
  | 't' => some '\t'
  | _ => none

/-- Where the automaton stands; what was read of a token is kept in reverse. -/
inductive Mode where
  | between
  | word (seen : List Char)
  | text (seen : List TextItem)
  | escape (seen : List TextItem)
  | unit (seen : List TextItem) (digits : Nat) (value : Nat)

def isSpace (c : Char) : Bool :=
  c = ' ' || c = '\t' || c = '\n' || c = '\r'

/-- A character of a literal or of a number. -/
def isWordPart (c : Char) : Bool :=
  c.isAlphanum || c = '+' || c = '-' || c = '.'

/-- The literal or number of a word. -/
def wordToken? (w : List Char) : Option Token :=
  if w = ['n', 'u', 'l', 'l'] then some (.scalar .null)
  else if w = ['t', 'r', 'u', 'e'] then some (.scalar (.bool true))
  else if w = ['f', 'a', 'l', 's', 'e'] then some (.scalar (.bool false))
  else
    (NumberText.ofText? w).map fun t =>
      .scalar (match t.value? with
        | some n => .number n
        | none => .unusable)

/-- What a character between two tokens starts: a complete token, or a longer one. -/
def begin? (c : Char) : Option (List Token × Mode) :=
  if isSpace c then some ([], .between)
  else if c = '[' then some ([.openArray], .between)
  else if c = ']' then some ([.closeArray], .between)
  else if c = '{' then some ([.openObject], .between)
  else if c = '}' then some ([.closeObject], .between)
  else if c = ',' then some ([.comma], .between)
  else if c = ':' then some ([.colon], .between)
  else if c = '"' then some ([], .text [])
  else if isWordPart c then some ([], .word [c])
  else none

/-- One step of the automaton: the tokens completed by a character, and where it stands then. -/
def Mode.step? : Mode → Char → Option (List Token × Mode)
  | .between, c => begin? c
  | .word seen, c =>
    if isWordPart c then
      some ([], .word (c :: seen))
    else do
      let token ← wordToken? seen.reverse
      let (tokens, next) ← begin? c
      some (token :: tokens, next)
  | .text seen, c =>
    if c = '"' then some ([.text ((itemsText? seen.reverse).map String.ofList)], .between)
    else if c = '\\' then some ([], .escape seen)
    else if c.toNat < 0x20 then none
    else some ([], .text (.char c :: seen))
  | .escape seen, c =>
    if c = 'u' then some ([], .unit seen 0 0)
    else (escapedChar? c).map fun e => ([], .text (.char e :: seen))
  | .unit seen digits value, c =>
    (Text.hexValue? c).map fun d =>
      if digits = 3 then ([], .text (.unit (value * 16 + d) :: seen))
      else ([], .unit seen (digits + 1) (value * 16 + d))

/-- The tokens that the end of the text completes. -/
def Mode.finish? : Mode → Option (List Token)
  | .between => some []
  | .word seen => (wordToken? seen.reverse).map ([·])
  | _ => none

/-- The tokens of a text, for an automaton that stands in a given mode. -/
def lex (mode : Mode) : List Char → Option (List Token)
  | [] => mode.finish?
  | c :: cs =>
    match mode.step? c with
    | none => none
    | some (tokens, next) => (lex next cs).map (tokens ++ ·)

/-- The tokens of a text. -/
def tokens? (cs : List Char) : Option (List Token) :=
  lex .between cs

end Json
end TreeLint
