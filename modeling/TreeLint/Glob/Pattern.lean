/-!
# Glob patterns

A pattern is a sequence of parts: characters, wildcards, classes and alternatives. Two stars next to
separators stand for any number of directories. Parsing keeps a stack of the alternatives that are
open, each with the branches read so far.
-/

namespace TreeLint
namespace Glob

/-- A part of a pattern. -/
inductive Part where
  /-- A character itself. -/
  | literal (c : Char)
  /-- Any single byte. -/
  | anyOne
  /-- Any text. -/
  | anyText
  /-- Any directories at the start of a path, with the separator behind them. -/
  | leadingDirs
  /-- A separator and anything below it. -/
  | belowDir
  /-- A separator, with any directories behind it. -/
  | innerDirs
  /-- A byte in one of some ranges, or outside all of them. -/
  | oneOf (negated : Bool) (ranges : List (Char × Char))
  /-- One of several sequences of parts. -/
  | alternatives (branches : List (List Part))

/-- Why a pattern is not valid. -/
inductive PatternError where
  | unclosedClass
  | reversedRange (low high : Char)
  | unopenedGroup
  | unclosedGroup
  | danglingEscape
deriving DecidableEq, Repr

/-- The text of an error. -/
def PatternError.message : PatternError → String
  | unclosedClass => "unclosed character class; missing ']'"
  | reversedRange low high => "invalid range; '" ++ low.toString ++ "' > '" ++ high.toString ++ "'"
  | unopenedGroup =>
    "unopened alternate group; missing '\x7b' (maybe escape '\x7d' with '[\x7d]'?)"
  | unclosedGroup =>
    "unclosed alternate group; missing '\x7d' (maybe escape '\x7b' with '[\x7b]'?)"
  | danglingEscape => "dangling '\\'"

/-- Open alternatives: the complete branches, the last one first, and the parts of the branch before
them that goes on behind them, the last one first. -/
structure Group where
  branches : List (List Part)
  outer : List Part

/-- A pattern that is being read: the parts of the branch that is being read, the last one first,
and the open alternatives around it, innermost first. -/
structure Parse where
  parts : List Part
  groups : List Group

namespace Parse

def push (p : Parse) (part : Part) : Parse :=
  { p with parts := part :: p.parts }

/-- Opens alternatives. -/
def openGroup (p : Parse) : Parse :=
  ⟨[], ⟨[], p.parts⟩ :: p.groups⟩

/-- Ends a branch; outside alternatives a comma is a character like any other. -/
def nextBranch (p : Parse) : Parse :=
  match p.groups with
  | [] => p.push (.literal ',')
  | g :: rest => ⟨[], { g with branches := p.parts.reverse :: g.branches } :: rest⟩

/-- Closes alternatives, if some are open. -/
def closeGroup (p : Parse) : Except PatternError Parse :=
  match p.groups with
  | [] => .error .unopenedGroup
  | g :: rest =>
    .ok ⟨.alternatives (p.parts.reverse :: g.branches).reverse :: g.outer, rest⟩

/-- Makes the last part one that stands for directories. -/
def replaceLast (p : Parse) (new : Part) : Parse :=
  match p.parts with
  | .leadingDirs :: _ => p
  | .belowDir :: _ => p
  | _ :: rest => { p with parts := new :: rest }
  | [] => { p with parts := [new] }

/-- Two stars without a meaning of their own. -/
def pushStars (p : Parse) : Parse :=
  (p.push .anyText).push .anyText

end Parse

def isSeparator (c : Char) : Bool :=
  c = '/'

/-- Adds a character to a class, as the end of a range if one is open. -/
def addToClass (ranges : List (Char × Char)) (inRange : Bool) (c : Char) :
    Except PatternError (List (Char × Char)) :=
  match inRange, ranges with
  | true, (low, _) :: rest =>
    if c < low then .error (.reversedRange low c) else .ok ((low, c) :: rest)
  | _, _ => .ok ((c, c) :: ranges)

/-- Reads the inside of a class up to its closing bracket. A bracket or a dash at the start stands
for itself, and so does a dash at the end. -/
def classBody (ranges : List (Char × Char)) (first inRange : Bool) :
    List Char → Except PatternError (List (Char × Char) × List Char)
  | [] => .error .unclosedClass
  | c :: cs =>
    if c = ']' && !first then
      .ok ((if inRange then ('-', '-') :: ranges else ranges).reverse, cs)
    else if c = '-' && !first && !inRange then
      classBody ranges false true cs
    else
      match addToClass ranges inRange c with
      | .error e => .error e
      | .ok more => classBody more false false cs

/-- Reads a class behind its opening bracket. -/
def classPart : List Char → Except PatternError (Part × List Char)
  | '!' :: cs => (classBody [] true false cs).map fun (rs, rest) => (.oneOf true rs, rest)
  | '^' :: cs => (classBody [] true false cs).map fun (rs, rest) => (.oneOf true rs, rest)
  | cs => (classBody [] true false cs).map fun (rs, rest) => (.oneOf false rs, rest)

/-- Whether two stars may stand for directories behind a character. -/
def opensDirs (p : Parse) (before : Option Char) : Bool :=
  before.any isSeparator || (!p.groups.isEmpty && (before == some ',' || before == some '{'))

/-- Two stars behind the character `before`, with `rest` behind them: the parse, and how many
characters of the rest belong to the stars. -/
def twoStars (p : Parse) (before : Option Char) (rest : List Char) : Parse × Nat :=
  if p.parts.isEmpty then
    match rest.head? with
    | none => (p.push .leadingDirs, 0)
    | some c => if isSeparator c then (p.push .leadingDirs, 1) else (p.pushStars, 0)
  else if !opensDirs p before then (p.pushStars, 0)
  else
    match rest.head? with
    | none => (p.replaceLast .belowDir, 0)
    | some c =>
      if !p.groups.isEmpty && (c = ',' || c = '}') then (p.replaceLast .belowDir, 0)
      else if isSeparator c then (p.replaceLast .innerDirs, 1)
      else (p.pushStars, 0)

/-- Reads a pattern; `fuel` bounds the number of parts. -/
def parseFrom (fuel : Nat) (p : Parse) (before : Option Char) (cs : List Char) :
    Except PatternError Parse :=
  match fuel, cs with
  | 0, _ => .ok p
  | _ + 1, [] => .ok p
  | fuel + 1, c :: rest =>
    if c = '?' then parseFrom fuel (p.push .anyOne) (some c) rest
    else if c = '*' then
      match rest with
      | '*' :: more =>
        let (q, used) := twoStars p before more
        let last := if used = 0 then '*' else '/'
        parseFrom fuel q (some last) (more.drop used)
      | _ => parseFrom fuel (p.push .anyText) (some c) rest
    else if c = '[' then
      match classPart rest with
      | .error e => .error e
      | .ok (part, more) => parseFrom fuel (p.push part) (some ']') more
    else if c = '{' then parseFrom fuel p.openGroup (some c) rest
    else if c = '}' then
      match p.closeGroup with
      | .error e => .error e
      | .ok q => parseFrom fuel q (some c) rest
    else if c = ',' then parseFrom fuel p.nextBranch (some c) rest
    else if c = '\\' then
      match rest with
      | [] => .error .danglingEscape
      | d :: more => parseFrom fuel (p.push (.literal d)) (some d) more
    else parseFrom fuel (p.push (.literal c)) (some c) rest

/-- The parts of a pattern. -/
def parse (pattern : String) : Except PatternError (List Part) :=
  match parseFrom (pattern.toList.length + 1) ⟨[], []⟩ none pattern.toList with
  | .error e => .error e
  | .ok ⟨parts, []⟩ => .ok parts.reverse
  | .ok _ => .error .unclosedGroup

end Glob
end TreeLint
