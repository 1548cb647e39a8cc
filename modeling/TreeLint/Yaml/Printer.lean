import TreeLint.Yaml.Cursor
import TreeLint.Yaml.Plain

/-!
# Writing strings in YAML

A string is written plain if it reads back as itself, else in single quotes; in double quotes if it
holds characters that are not written as they are; and as a literal block if it has several lines.
-/

namespace TreeLint
namespace Yaml

/-- How a string is written. -/
inductive Style where
  | plain
  | single
  | double
  | literal
deriving DecidableEq, Repr

/-- Words that other readers take for truth values. -/
def oldTruthWords : List String :=
  ["y", "Y", "yes", "Yes", "YES", "n", "N", "no", "No", "NO", "on", "On", "ON", "off", "Off", "OFF"]

/-- Whether a plain scalar with this text would not be read as the text. -/
def isAmbiguous (s : String) : Bool :=
  oldTruthWords.contains s || plainValue s != .text || hasLeadingZero s.toList

/-- A character that is written as it is. -/
def isWritable (c : Char) : Bool :=
  let n := c.toNat
  n == 0x0A || (0x20 ≤ n && n ≤ 0x7E) || (0xA0 ≤ n && n ≤ 0xFFFD && n != 0xFEFF) || 0x10000 ≤ n

/-- Whether a place inside a plain scalar starts something else: a value, or a comment. -/
def hasInnerMark : List Char → Bool
  | [] => false
  | c :: rest =>
    (c = ':' && endsWord rest) ||
      ((isBlank c || isBreak c) && rest.head? = some '#') ||
      hasInnerMark rest

/-- Whether a text starts with something else than a plain scalar. -/
def hasOuterMark (cs : List Char) : Bool :=
  match cs with
  | [] => false
  | c :: rest =>
    "#,[]{}&*!|>'\"%@`".contains c || ((c = '?' || c = '-') && endsWord rest) ||
      ['-', '-', '-'].isPrefixOf cs || ['.', '.', '.'].isPrefixOf cs

/-- Whether a text on one line may be written plain. -/
def mayBePlain (cs : List Char) : Bool :=
  cs.head? != some ' ' && cs.getLast? != some ' ' && !hasOuterMark cs && !hasInnerMark cs

/-- Whether a text of several lines may be written as a literal block. -/
def mayBeLiteral : List Char → Bool
  | [] => true
  | [c] => c != ' '
  | c :: d :: rest => !(c = ' ' && d = '\n') && mayBeLiteral (d :: rest)

/-- How a string is written. As a key, it has to stay on one line. -/
def styleOf (isKey : Bool) (s : String) : Style :=
  let cs := s.toList
  if !cs.all isWritable then .double
  else if cs.contains '\n' then
    (if isKey || !mayBeLiteral cs then .double else .literal)
  else if isAmbiguous s || !mayBePlain cs then .single
  else .plain

/-- The escapes of one letter in double quotes. -/
def shortEscapes : List (Char × Char) :=
  [('\x00', '0'), ('\x07', 'a'), ('\x08', 'b'), ('\t', 't'), ('\n', 'n'), ('\x0B', 'v'),
    ('\x0C', 'f'), ('\r', 'r'), ('\x1B', 'e'), ('"', '"'), ('\\', '\\'), ('\u0085', 'N'),
    ('\u00A0', '_'), ('\u2028', 'L'), ('\u2029', 'P')]

/-- A number in a given number of hexadecimal digits. -/
def hexDigits (width n : Nat) : List Char :=
  let digits := (Nat.toDigits 16 n).map Char.toUpper
  List.replicate (width - digits.length) '0' ++ digits

/-- A character in double quotes. -/
def escapeDouble (c : Char) : List Char :=
  if isWritable c && !isBreak c && c != '"' && c != '\\' then [c]
  else
    match shortEscapes.lookup c with
    | some letter => ['\\', letter]
    | none =>
      let n := c.toNat
      if n ≤ 0xFF then '\\' :: 'x' :: hexDigits 2 n
      else if n ≤ 0xFFFF then '\\' :: 'u' :: hexDigits 4 n
      else '\\' :: 'U' :: hexDigits 8 n

/-- The sign of a literal block: how it is indented if that is not plain to see, and what happens
to the line ends at its end. -/
def literalSign (cs : List Char) : List Char :=
  let indented := if cs.head?.any fun c => c = ' ' || c = '\n' then ['2'] else []
  let chomped :=
    match cs.reverse with
    | '\n' :: '\n' :: _ => ['+']
    | ['\n'] => ['+']
    | '\n' :: _ => []
    | _ => ['-']
  '|' :: indented ++ chomped

/-- The lines of a literal block. Empty lines are not indented. -/
def literalLines (indent : Nat) : List Char → List Char
  | [] => []
  | '\n' :: rest => '\n' :: literalLines indent rest
  | c :: rest =>
    List.replicate indent ' ' ++ c :: rest.takeWhile (· != '\n') ++
      literalLines indent (rest.dropWhile (· != '\n'))
termination_by cs => cs.length
decreasing_by
  · simp
  · have := (List.dropWhile_sublist (fun c : Char => c != '\n') (l := rest)).length_le
    simp only [List.length_cons]
    omega

/-- A string written behind something indented by a number of columns. -/
def writeString (isKey : Bool) (indent : Nat) (s : String) : List Char :=
  let cs := s.toList
  match styleOf isKey s with
  | .plain => cs
  | .single => '\'' :: cs.flatMap (fun c => if c = '\'' then ['\'', '\''] else [c]) ++ ['\'']
  | .double => '"' :: cs.flatMap escapeDouble ++ ['"']
  | .literal =>
    let body := if cs.getLast? = some '\n' then cs.dropLast else cs
    literalSign cs ++ '\n' :: literalLines (indent + 2) body

end Yaml
end TreeLint
