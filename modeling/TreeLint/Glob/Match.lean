import TreeLint.Glob.Pattern
import Std.Data.TreeMap

/-!
# Matching glob patterns

A pattern is matched against the bytes of a path. Reading a part leaves a set of rests of the path;
the pattern matches if the empty rest is left at its end.
-/

namespace TreeLint
namespace Glob

/-- The bytes of a text. -/
def bytes (s : String) : List UInt8 :=
  s.toUTF8.toList

def charBytes (c : Char) : List UInt8 :=
  bytes (String.ofList [c])

def separatorByte : UInt8 := 0x2F

/-- The ranges of bytes that a range of characters stands for: the last byte of its first character
up to the first byte of its last one, and all the other bytes of both by themselves. -/
def byteRanges (range : Char × Char) : List (UInt8 × UInt8) :=
  let low := charBytes range.1
  let high := charBytes range.2
  if range.1 = range.2 then low.map fun b => (b, b)
  else
    (low.dropLast.map fun b => (b, b)) ++
      [((low.getLast?).getD 0, (high.head?).getD 0)] ++ (high.drop 1).map fun b => (b, b)

/-- Whether a byte belongs to a class. -/
def inClass (negated : Bool) (ranges : List (Char × Char)) (b : UInt8) : Bool :=
  (ranges.flatMap byteRanges).any (fun r => r.1 ≤ b && b ≤ r.2) != negated

/-- All rests of a text, the whole text first. -/
def rests : List UInt8 → List (List UInt8)
  | [] => [[]]
  | b :: bs => (b :: bs) :: rests bs

/-- The rests behind the separators of a text. -/
def behindSeparators : List UInt8 → List (List UInt8)
  | [] => []
  | b :: bs => if b = separatorByte then bs :: behindSeparators bs else behindSeparators bs

/-- The rest behind some bytes that a text starts with. -/
def behind : List UInt8 → List UInt8 → List (List UInt8)
  | [], bs => [bs]
  | _ :: _, [] => []
  | p :: ps, b :: bs => if p = b then behind ps bs else []

/-- Rests of one text, each once; rests of one length are the same. -/
def distinctRests (found : List (List UInt8)) : List (List UInt8) :=
  (found.foldl (fun m r => m.insert r.length r) (∅ : Std.TreeMap Nat (List UInt8))).values

mutual

/-- Whether a part never reads anything. -/
def isSilent : Part → Bool
  | .alternatives branches => allSilent branches
  | _ => false

def allSilent : List (List Part) → Bool
  | [] => true
  | branch :: rest => branchSilent branch && allSilent rest

def branchSilent : List Part → Bool
  | [] => true
  | p :: ps => isSilent p && branchSilent ps

end

mutual

/-- What is left of a text behind a part. Branches that never read anything do not count, unless
there is no other. -/
def readPart (text : List UInt8) : Part → List (List UInt8)
  | .literal c => behind (charBytes c) text
  | .anyOne =>
    match text with
    | _ :: bs => [bs]
    | [] => []
  | .anyText => rests text
  | .leadingDirs => text :: behindSeparators text
  | .belowDir =>
    match text with
    | b :: bs => if b = separatorByte then rests bs else []
    | [] => []
  | .innerDirs =>
    match text with
    | b :: bs => if b = separatorByte then bs :: behindSeparators bs else []
    | [] => []
  | .oneOf negated ranges =>
    match text with
    | b :: bs => if inClass negated ranges b then [bs] else []
    | [] => []
  | .alternatives branches =>
    if allSilent branches then [text] else readBranches text branches

def readBranches (text : List UInt8) : List (List Part) → List (List UInt8)
  | [] => []
  | branch :: rest =>
    (if branchSilent branch then [] else readParts [text] branch) ++ readBranches text rest

/-- What is left of some texts behind a sequence of parts. -/
def readParts (texts : List (List UInt8)) : List Part → List (List UInt8)
  | [] => texts
  | p :: ps => readParts (distinctRests (texts.flatMap fun t => readPart t p)) ps

end

/-- Whether parts match a path as a whole. Two stars alone match everything. -/
def partsMatch (parts : List Part) (path : String) : Bool :=
  match parts with
  | [.leadingDirs] => true
  | _ => (readParts [bytes path] parts).any List.isEmpty

/-- Whether a pattern is valid and matches a path. -/
def isMatch (pattern path : String) : Bool :=
  match parse pattern with
  | .ok parts => partsMatch parts path
  | .error _ => false

end Glob
end TreeLint
