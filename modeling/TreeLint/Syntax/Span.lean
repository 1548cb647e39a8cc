/-!
# Positions and spans

A position is a line and a column, both counted from one; a span runs from a position to another,
its end excluded. Positions are ordered by line, then by column.
-/

namespace TreeLint
namespace Syntax

/-- A line and a column. -/
structure Position where
  line : Nat
  column : Nat
deriving DecidableEq, Repr, Inhabited

namespace Position

/-- The first position of a text. -/
def start : Position :=
  ⟨1, 1⟩

/-- Whether a position comes before another. -/
def before (a b : Position) : Bool :=
  a.line < b.line || (a.line == b.line && a.column < b.column)

/-- The earlier of two positions. -/
def earlier (a b : Position) : Position :=
  if b.before a then b else a

/-- The later of two positions. -/
def later (a b : Position) : Position :=
  if b.before a then a else b

/-- The position after a character: a line feed starts the next line. -/
def afterChar (p : Position) (c : Char) : Position :=
  if c = '\n' then ⟨p.line + 1, 1⟩ else ⟨p.line, p.column + 1⟩

/-- The position after a text. -/
def after (p : Position) (text : List Char) : Position :=
  text.foldl afterChar p

end Position

/-- A region of a source text. -/
structure Span where
  start : Position
  stop : Position
deriving DecidableEq, Repr, Inhabited

namespace Span

/-- The empty span at a position. -/
def point (p : Position) : Span :=
  ⟨p, p⟩

/-- The smallest span over two spans. -/
def cover (a b : Span) : Span :=
  ⟨a.start.earlier b.start, a.stop.later b.stop⟩

/-- The smallest span over a sequence of spans, if there are any. -/
def coverAll? : List Span → Option Span
  | [] => none
  | s :: rest => some (rest.foldl cover s)

/-- The number of columns, for a span on one line. -/
def length (s : Span) : Nat :=
  if s.start.line = s.stop.line then s.stop.column - s.start.column else 0

/-- The four numbers of a span: start line, start column, end line, end column. -/
def numbers (s : Span) : List Nat :=
  [s.start.line, s.start.column, s.stop.line, s.stop.column]

end Span
end Syntax
end TreeLint
