/-!
# Cursors in YAML texts

A cursor is a place in a text: what is left of it, and the line, column and index of the place, all
counted from zero. Several characters end a line; they are read as line feeds, except the line and
paragraph separators, which stay as they are.
-/

namespace TreeLint
namespace Yaml

/-- A place in a text. -/
structure Cursor where
  rest : List Char
  line : Nat
  column : Nat
  index : Nat

def isBreak (c : Char) : Bool :=
  c = '\n' || c = '\r' || c = '\u0085' || c = '\u2028' || c = '\u2029'

def isBlank (c : Char) : Bool :=
  c = ' ' || c = '\t'

/-- Whether a text is at its end, or starts with a line end or a blank. -/
def endsWord : List Char → Bool
  | [] => true
  | c :: _ => isBreak c || isBlank c

/-- A character that may stand in a YAML text. -/
def isPrintable (c : Char) : Bool :=
  let n := c.toNat
  n == 0x09 || n == 0x0A || n == 0x0D || (0x20 ≤ n && n ≤ 0x7E) || n == 0x85 ||
    (0xA0 ≤ n && n ≤ 0xFFFD) || 0x10000 ≤ n

namespace Cursor

/-- The start of a text. -/
def start (text : List Char) : Cursor :=
  ⟨text, 0, 0, 0⟩

/-- The place a number of characters further on the same line. -/
def skip (c : Cursor) (n : Nat) : Cursor :=
  ⟨c.rest.drop n, c.line, c.column + n, c.index + n⟩

/-- The line end at a place, as it is read, and the start of the next line. -/
def lineEnd (c : Cursor) : List Char × Cursor :=
  match c.rest with
  | '\r' :: '\n' :: rest => (['\n'], ⟨rest, c.line + 1, 0, c.index + 2⟩)
  | b :: rest =>
    (if b = '\u2028' || b = '\u2029' then [b] else ['\n'], ⟨rest, c.line + 1, 0, c.index + 1⟩)
  | [] => ([], c)

/-- The characters of a class at a place, and the place behind them. -/
def takeWhile (c : Cursor) (p : Char → Bool) : List Char × Cursor :=
  let run := c.rest.takeWhile p
  (run, c.skip run.length)

/-- Whether a place is at the end of a line. -/
def atBreak (c : Cursor) : Bool :=
  c.rest.head?.any isBreak

def atBlank (c : Cursor) : Bool :=
  c.rest.head?.any isBlank

/-- Whether a place is at the end of the text. -/
def atEnd (c : Cursor) : Bool :=
  c.rest.isEmpty

/-- Whether three given marks at the start of a line stand by themselves. -/
def atMarks (c : Cursor) (mark : Char) : Bool :=
  c.column == 0 && [mark, mark, mark].isPrefixOf c.rest && endsWord (c.rest.drop 3)

/-- Whether a document starts or ends at a place. -/
def atDocumentMark (c : Cursor) : Bool :=
  c.atMarks '-' || c.atMarks '.'

end Cursor
end Yaml
end TreeLint
