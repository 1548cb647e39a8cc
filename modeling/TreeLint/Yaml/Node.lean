import TreeLint.Yaml.Token

/-!
# YAML documents

A document is a tree of scalars, sequences and mappings, read from the tokens of a text. What is
left out where a value may stand is an empty plain scalar; so is an empty document.
-/

namespace TreeLint
namespace Yaml

/-- A node of a document. -/
inductive Node where
  | scalar (plain : Bool) (text : String)
  | sequence (items : List Node)
  | mapping (entries : List (Node × Node))

namespace Node

/-- What stands for a value that is left out. -/
def empty : Node :=
  scalar true ""

mutual

/-- How many collections are nested in each other. -/
def depth : Node → Nat
  | scalar _ _ => 0
  | sequence items => depthOfItems items + 1
  | mapping entries => depthOfEntries entries + 1

def depthOfItems : List Node → Nat
  | [] => 0
  | n :: ns => max n.depth (depthOfItems ns)

def depthOfEntries : List (Node × Node) → Nat
  | [] => 0
  | (k, v) :: rest => max (max k.depth v.depth) (depthOfEntries rest)

end

/-- The tokens in front of which an item of a block sequence may be left out. -/
def itemEnds : List Token := [.item, .blockEnd]

/-- The tokens in front of which a key or value of a block mapping may be left out. -/
def entryEnds : List Token := [.key, .value, .blockEnd]

/-- The tokens in front of which an item may be left out in a sequence that is not indented. -/
def looseItemEnds : List Token := [.item, .key, .value, .blockEnd]

/-- The tokens in front of which a value may be left out in brackets that a token closes. -/
def flowEnds (close : Token) : List Token := [.comma, close]

/-- The tokens in front of which a key may be left out in brackets that a token closes. -/
def flowKeyEnds (close : Token) : List Token := [.value, .comma, close]

/-- Whether one of some tokens comes first. -/
def comesFirst (ends : List Token) (ts : List Token) : Bool :=
  ts.head?.any ends.contains

/-- The tokens behind a comma, or behind the opening bracket. -/
def afterComma? (first : Bool) (ts : List Token) : Option (List Token) :=
  if first then some ts
  else
    match ts with
    | .comma :: rest => some rest
    | _ => none

mutual

/-- Reads a node. Block collections stand only inside block collections, and one kind of sequence
only where it need not be indented. -/
def read : Nat → Bool → Bool → List Token → Option (Node × List Token)
  | 0, _, _, _ => none
  | fuel + 1, block, loose, ts =>
    match ts with
    | .scalar plain text :: rest => some (scalar plain text, rest)
    | .openBracket :: rest =>
      (readFlowItems fuel true rest).map fun (items, rest) => (sequence items, rest)
    | .openBrace :: rest =>
      (readFlowEntries fuel true rest).map fun (entries, rest) => (mapping entries, rest)
    | .sequenceStart :: rest =>
      if block then (readItems fuel rest).map fun (items, rest) => (sequence items, rest)
      else none
    | .mappingStart :: rest =>
      if block then (readEntries fuel rest).map fun (entries, rest) => (mapping entries, rest)
      else none
    | .item :: _ =>
      if loose then (readLooseItems fuel ts).map fun (items, rest) => (sequence items, rest)
      else none
    | _ => none

/-- Reads a node that may be left out in front of certain tokens. -/
def readUnless : Nat → Bool → Bool → List Token → List Token → Option (Node × List Token)
  | 0, _, _, _, _ => none
  | fuel + 1, block, loose, ends, ts =>
    if comesFirst ends ts then some (empty, ts) else read fuel block loose ts

/-- Reads the value of an entry, with its colon. Both may be left out. -/
def readValue : Nat → Bool → List Token → List Token → Option (Node × List Token)
  | 0, _, _, _ => none
  | fuel + 1, block, ends, ts =>
    match ts with
    | .value :: rest => readUnless fuel block block ends rest
    | _ => some (empty, ts)

def readItems : Nat → List Token → Option (List Node × List Token)
  | 0, _ => none
  | fuel + 1, ts =>
    match ts with
    | .item :: rest => do
      let (n, rest) ← readUnless fuel true false itemEnds rest
      let (ns, rest) ← readItems fuel rest
      return (n :: ns, rest)
    | .blockEnd :: rest => some ([], rest)
    | _ => none

def readLooseItems : Nat → List Token → Option (List Node × List Token)
  | 0, _ => none
  | fuel + 1, ts =>
    match ts with
    | .item :: rest => do
      let (n, rest) ← readUnless fuel true false looseItemEnds rest
      let (ns, rest) ← readLooseItems fuel rest
      return (n :: ns, rest)
    | _ => some ([], ts)

def readEntries : Nat → List Token → Option (List (Node × Node) × List Token)
  | 0, _ => none
  | fuel + 1, ts =>
    match ts with
    | .key :: rest => do
      let (k, rest) ← readUnless fuel true true entryEnds rest
      let (v, rest) ← readValue fuel true entryEnds rest
      let (more, rest) ← readEntries fuel rest
      return ((k, v) :: more, rest)
    | .blockEnd :: rest => some ([], rest)
    | _ => none

/-- Reads the items in brackets. An item may be a single entry; where its key is left out, the
token that shows so is skipped. -/
def readFlowItems : Nat → Bool → List Token → Option (List Node × List Token)
  | 0, _, _ => none
  | fuel + 1, first, ts =>
    match ts with
    | .closeBracket :: rest => some ([], rest)
    | _ => do
      match ← afterComma? first ts with
      | .closeBracket :: rest => some ([], rest)
      | .key :: rest =>
        let (k, rest) ←
          if comesFirst (flowKeyEnds .closeBracket) rest then some (empty, rest.tail)
          else read fuel false false rest
        let (v, rest) ← readValue fuel false (flowEnds .closeBracket) rest
        let (ns, rest) ← readFlowItems fuel false rest
        return (mapping [(k, v)] :: ns, rest)
      | rest =>
        let (n, rest) ← read fuel false false rest
        let (ns, rest) ← readFlowItems fuel false rest
        return (n :: ns, rest)

/-- Reads the entries in braces. An entry without a sign in front of it has no value. -/
def readFlowEntries : Nat → Bool → List Token → Option (List (Node × Node) × List Token)
  | 0, _, _ => none
  | fuel + 1, first, ts =>
    match ts with
    | .closeBrace :: rest => some ([], rest)
    | _ => do
      match ← afterComma? first ts with
      | .closeBrace :: rest => some ([], rest)
      | .key :: rest =>
        let (k, rest) ← readUnless fuel false false (flowKeyEnds .closeBrace) rest
        let (v, rest) ← readValue fuel false (flowEnds .closeBrace) rest
        let (more, rest) ← readFlowEntries fuel false rest
        return ((k, v) :: more, rest)
      | rest =>
        let (k, rest) ← read fuel false false rest
        let (more, rest) ← readFlowEntries fuel false rest
        return ((k, empty) :: more, rest)

end

/-- Reads the node of a document. -/
def readRoot (ts : List Token) : Option (Node × List Token) :=
  read (4 * ts.length + 4) true false ts

/-- Reads a document, with the mark at its start if it has one. -/
def readDocument : List Token → Option (Node × List Token)
  | [] => some (empty, [])
  | .documentStart :: rest =>
    if rest.isEmpty || comesFirst [.documentStart, .documentEnd] rest then some (empty, rest)
    else readRoot rest
  | ts => readRoot ts

/-- The only document of a text. -/
def ofText? (text : List Char) : Option Node := do
  let (n, rest) ← readDocument (← tokens? text)
  if rest.all (· == .documentEnd) then some n else none

end Node
end Yaml
end TreeLint
