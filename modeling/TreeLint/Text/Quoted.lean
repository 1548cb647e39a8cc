import TreeLint.Text.Piece
import TreeLint.Text.Blank
import TreeLint.Text.Hex

/-!
# String literals

The value of a string literal, read off its spelling. A literal is quoted plainly, with every
quotation mark inside doubled; or regularly, with backslash escapes; or it is a raw one between
three quotation marks.
-/

namespace TreeLint
namespace Text

/-- The text between two quotation marks. -/
def betweenQuotes? : List Char → Option (List Char)
  | '"' :: rest => if rest.getLast? = some '"' then some rest.dropLast else none
  | _ => none

/-- A text with each pair of quotation marks made one. -/
def halveQuotes : List Char → List Char
  | '"' :: '"' :: rest => '"' :: halveQuotes rest
  | c :: rest => c :: halveQuotes rest
  | [] => []

/-- The value of a literal whose quotation marks are doubled. -/
def unquotePlain? (cs : List Char) : Option (List Char) :=
  (betweenQuotes? cs).map halveQuotes

/-- The most digits that a numeric escape with a given marker takes. -/
def escapeWidth? : Char → Option Nat
  | 'u' => some 4
  | 'U' => some 8
  | 'x' => some 4
  | _ => none

/-- What the character after a backslash stands for, numeric escapes apart. -/
def simpleEscape : Char → Char
  | 'n' => '\n'
  | 't' => '\t'
  | 'r' => '\r'
  | '0' => '\x00'
  | 'a' => '\x07'
  | 'b' => '\x08'
  | 'f' => '\x0C'
  | 'v' => '\x0B'
  | c => c

/-- What a numeric escape stands for: its character, or its own spelling if there is none. -/
def numericEscape (marker : Char) (digits : List Char) : List Char :=
  match digits, charOf? (hexNumber digits) with
  | _ :: _, some c => [c]
  | _, _ => '\\' :: marker :: digits

/-- The value of the body of a regular literal, after leaving out `skip` characters that belong to
the escape just read. -/
def unescapeAfter : Nat → List Char → List Char
  | _, [] => []
  | skip + 1, _ :: rest => unescapeAfter skip rest
  | 0, '\\' :: c :: rest =>
    match escapeWidth? c with
    | some width =>
      let digits := (rest.take width).takeWhile isHexDigit
      numericEscape c digits ++ unescapeAfter (digits.length + 1) (c :: rest)
    | none => simpleEscape c :: unescapeAfter 0 rest
  | 0, c :: rest => c :: unescapeAfter 0 rest

/-- The value of the body of a regular literal. -/
def unescape (cs : List Char) : List Char :=
  unescapeAfter 0 cs

/-- The marks around a raw literal. -/
def rawQuotes : List Char :=
  ['"', '"', '"']

/-- Whether a literal is a raw one. -/
def isRaw (cs : List Char) : Bool :=
  6 ≤ cs.length && rawQuotes.isPrefixOf cs && rawQuotes.isSuffixOf cs

/-- The value of a raw literal: what is left without quotation marks and white space around it. -/
def rawValue (cs : List Char) : List Char :=
  trim (dropEndWhile (· == '"') (cs.dropWhile (· == '"')))

/-- The value of a literal in any of three spellings: a plain one after an at-sign, a raw one, or a
regular one. -/
def unquoteEscaped? : List Char → Option (List Char)
  | '@' :: rest => unquotePlain? rest
  | cs => if isRaw cs then some (rawValue cs) else (betweenQuotes? cs).map unescape

end Text
end TreeLint
