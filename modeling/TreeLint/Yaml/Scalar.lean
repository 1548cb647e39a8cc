import TreeLint.Yaml.Cursor
import TreeLint.Text.Hex

/-!
# Scalars in YAML texts

The texts of the five spellings of a scalar: plain, in single quotes, in double quotes, and the
literal and folded blocks. Line ends inside a scalar are folded: one becomes a blank, and of more
than one the first is dropped.
-/

namespace TreeLint
namespace Yaml

/-- What stands between two words of a scalar: blanks on one line, or a first line end with the
further ones behind it. -/
structure Gap where
  blanks : List Char
  firstBreak : List Char
  moreBreaks : List Char
  /-- Whether there is a line end, or one that is taken out by a backslash. -/
  crossed : Bool

def Gap.none : Gap :=
  ⟨[], [], [], false⟩

/-- The folded text of a gap. -/
def Gap.fold (g : Gap) : List Char :=
  if g.crossed then
    if g.firstBreak = ['\n'] then
      (if g.moreBreaks.isEmpty then [' '] else g.moreBreaks)
    else g.firstBreak ++ g.moreBreaks
  else g.blanks

/-- Adds a line end to a gap. -/
def Gap.addBreak (g : Gap) (b : List Char) : Gap :=
  if g.crossed then { g with moreBreaks := g.moreBreaks ++ b }
  else { g with blanks := [], firstBreak := b, crossed := true }

/-- Reads the blanks and line ends at a place. Behind a line end, a tab to the left of the column
`least` is an error. -/
def readGap (fuel : Nat) (least : Nat) (g : Gap) (c : Cursor) : Option (Gap × Cursor) :=
  match fuel with
  | 0 => none
  | fuel + 1 =>
    match c.rest with
    | [] => some (g, c)
    | ch :: _ =>
      if isBlank ch then
        if g.crossed && c.column < least && ch = '\t' then none
        else
          readGap fuel least (if g.crossed then g else { g with blanks := g.blanks ++ [ch] })
            (c.skip 1)
      else if isBreak ch then
        let (b, next) := c.lineEnd
        readGap fuel least (g.addBreak b) next
      else some (g, c)

/-! ## Plain scalars -/

/-- Whether a character may follow a colon that would end a plain scalar inside brackets. -/
def isFlowMark (c : Char) : Bool :=
  [',', '?', '[', ']', '{', '}'].contains c

/-- The word of a plain scalar at the front of a text, and how many characters it has; inside
brackets more characters end it, and some may not follow a colon. -/
def plainWord (inFlow : Bool) : List Char → Option (List Char)
  | [] => some []
  | c :: cs =>
    if isBlank c || isBreak c then some []
    else if inFlow && c = ':' && cs.head?.any isFlowMark then none
    else if c = ':' && endsWord cs then some []
    else if inFlow && c != '?' && isFlowMark c then some []
    else (plainWord inFlow cs).map (c :: ·)

/-- A scalar that was read: its text, the place behind it, and whether it ends behind a line end. -/
structure ScalarText where
  text : List Char
  next : Cursor
  crossed : Bool

/-- Reads the words of a plain scalar. Outside brackets it goes on only on lines that are indented
by `least` columns. -/
def plainWords (fuel : Nat) (inFlow : Bool) (least : Nat) (text : List Char) (g : Gap)
    (c : Cursor) : Option ScalarText :=
  match fuel with
  | 0 => none
  | fuel + 1 =>
    if c.atDocumentMark || c.rest.head? = some '#' then some ⟨text, c, g.crossed⟩
    else
      match plainWord inFlow c.rest with
      | none => none
      | some word =>
        let (text, g) := if word.isEmpty then (text, g) else (text ++ g.fold ++ word, Gap.none)
        let c := c.skip word.length
        if !c.atBlank && !c.atBreak then some ⟨text, c, g.crossed⟩
        else
          match readGap (c.rest.length + 1) least g c with
          | none => none
          | some (g, c) =>
            if !inFlow && c.column < least then some ⟨text, c, g.crossed⟩
            else plainWords fuel inFlow least text g c

/-- Reads a plain scalar. -/
def plainScalar (inFlow : Bool) (least : Nat) (c : Cursor) : Option ScalarText :=
  plainWords (c.rest.length + 1) inFlow least [] Gap.none c

/-! ## Quoted scalars -/

/-- The character of a one-letter escape in double quotes. -/
def escapeChar? : Char → Option Char
  | '0' => some '\x00'
  | 'a' => some '\x07'
  | 'b' => some '\x08'
  | 't' => some '\t'
  | '\t' => some '\t'
  | 'n' => some '\n'
  | 'v' => some '\x0B'
  | 'f' => some '\x0C'
  | 'r' => some '\r'
  | 'e' => some '\x1B'
  | ' ' => some ' '
  | '"' => some '"'
  | '/' => some '/'
  | '\\' => some '\\'
  | 'N' => some '\u0085'
  | '_' => some '\u00A0'
  | 'L' => some '\u2028'
  | 'P' => some '\u2029'
  | _ => none

/-- How many digits a numeric escape in double quotes has. -/
def escapeDigits? : Char → Option Nat
  | 'x' => some 2
  | 'u' => some 4
  | 'U' => some 8
  | _ => none

/-- The escape behind a backslash: its character, and how many characters it takes. -/
def escape? : List Char → Option (Char × Nat)
  | [] => none
  | c :: cs =>
    match escapeDigits? c with
    | some n =>
      let digits := cs.take n
      if digits.length = n && digits.all Text.isHexDigit then
        (Text.charOf? (Text.hexNumber digits)).map fun d => (d, n + 1)
      else none
    | none => (escapeChar? c).map fun d => (d, 1)

/-- Reads a scalar behind its opening quote. -/
def quotedWords (fuel : Nat) (quote : Char) (text : List Char) (c : Cursor) :
    Option ScalarText :=
  match fuel with
  | 0 => none
  | fuel + 1 =>
    if c.atDocumentMark then none
    else
      match c.rest with
      | [] => none
      | ch :: rest =>
        if ch = quote then
          if quote = '\'' && rest.head? = some '\'' then
            quotedWords fuel quote (text ++ ['\'']) (c.skip 2)
          else some ⟨text, c.skip 1, false⟩
        else if isBlank ch || isBreak ch then
          match readGap (c.rest.length + 1) 0 Gap.none c with
          | none => none
          | some (g, next) => quotedWords fuel quote (text ++ g.fold) next
        else if quote = '"' && ch = '\\' then
          if rest.head?.any isBreak then
            let (_, next) := (c.skip 1).lineEnd
            match readGap (next.rest.length + 1) 0 ⟨[], [], [], true⟩ next with
            | none => none
            | some (g, next) => quotedWords fuel quote (text ++ g.fold) next
          else
            match escape? rest with
            | none => none
            | some (d, n) => quotedWords fuel quote (text ++ [d]) (c.skip (n + 1))
        else quotedWords fuel quote (text ++ [ch]) (c.skip 1)

/-- Reads a scalar that starts with its opening quote. -/
def quotedScalar (quote : Char) (c : Cursor) : Option ScalarText :=
  quotedWords (c.rest.length + 1) quote [] (c.skip 1)

/-! ## Block scalars -/

/-- What happens to the line ends at the end of a block: they are stripped, clipped to one, or all
kept. -/
inductive Chomping where
  | strip
  | clip
  | keep
deriving DecidableEq, Repr

def chompingOf? : Char → Option Chomping
  | '+' => some .keep
  | '-' => some .strip
  | _ => none

/-- The digit that gives the indentation of a block. -/
def indentationOf? (c : Char) : Option Nat :=
  if c.isDigit && c != '0' then some (c.toNat - '0'.toNat) else none

/-- Reads the header of a block: chomping and indentation in either order. -/
def blockHeader : List Char → Option (Chomping × Option Nat × Nat)
  | [] => some (.clip, none, 0)
  | a :: rest =>
    match chompingOf? a with
    | some k =>
      match rest.head? with
      | some d =>
        if d.isDigit then (indentationOf? d).map fun n => (k, some n, 2) else some (k, none, 1)
      | none => some (k, none, 1)
    | none =>
      if a.isDigit then
        (indentationOf? a).map fun n =>
          match rest.head?.bind chompingOf? with
          | some k => (k, some n, 2)
          | none => (.clip, some n, 1)
      else some (.clip, none, 0)

/-- Reads the indentation and the empty lines in front of a line of a block. Without a known
indentation the blanks of all lines are skipped, and the widest line counts. -/
def blockBreaks (fuel : Nat) (indent : Option Nat) (widest : Nat) (breaks : List Char)
    (c : Cursor) : Option (Nat × List Char × Cursor) :=
  match fuel with
  | 0 => none
  | fuel + 1 =>
    let blanks := (c.rest.takeWhile (· == ' ')).length
    let c :=
      match indent with
      | some n => c.skip (min blanks (n - c.column))
      | none => c.skip blanks
    let widest := max widest c.column
    let tabHere := c.rest.head? = some '\t'
    if tabHere && (match indent with | some n => decide (c.column < n) | none => true) then none
    else if c.atBreak then
      let (b, next) := c.lineEnd
      blockBreaks fuel indent widest (breaks ++ b) next
    else some (widest, breaks, c)

/-- Reads the lines of a block that are indented by `indent` columns. -/
def blockLines (fuel : Nat) (literal : Bool) (indent : Nat) (text leadingBreak breaks : List Char)
    (afterBlank : Bool) (c : Cursor) : Option (List Char × List Char × List Char × Cursor) :=
  match fuel with
  | 0 => none
  | fuel + 1 =>
    if c.column == indent && !c.atEnd then
      let blank := c.atBlank
      let join :=
        if !literal && leadingBreak = ['\n'] && !afterBlank && !blank then
          (if breaks.isEmpty then [' '] else [])
        else leadingBreak
      let (line, c) := c.takeWhile fun ch => !isBreak ch
      let (b, c) := c.lineEnd
      match blockBreaks (c.rest.length + 1) (some indent) 0 [] c with
      | none => none
      | some (_, more, c) =>
        blockLines fuel literal indent (text ++ join ++ breaks ++ line) b more blank c
    else some (text, leadingBreak, breaks, c)

/-- Reads a block that starts with its indicator, inside a collection that is indented by
`parent` columns, if it is inside one. -/
def blockScalar (literal : Bool) (parent : Option Nat) (c : Cursor) : Option ScalarText := do
  let (chomping, increment, used) ← blockHeader (c.rest.drop 1)
  let c := c.skip (1 + used)
  let (_, c) := c.takeWhile isBlank
  let (_, c) := if c.rest.head? = some '#' then c.takeWhile (fun ch => !isBreak ch) else ([], c)
  if !c.atEnd && !c.atBreak then
    none
  let (_, c) := c.lineEnd
  let fuel := c.rest.length + 1
  let least := (parent.map (· + 1)).getD 0
  let given := increment.map fun n => (parent.getD 0) + n
  let (widest, breaks, c) ← blockBreaks fuel given 0 [] c
  let indent := given.getD (max (max widest least) 1)
  let (text, leadingBreak, breaks, c) ← blockLines fuel literal indent [] [] breaks false c
  let kept :=
    match chomping with
    | .strip => []
    | .clip => leadingBreak
    | .keep => leadingBreak ++ breaks
  some ⟨text ++ kept, c, true⟩

end Yaml
end TreeLint
