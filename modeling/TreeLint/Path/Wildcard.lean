/-!
# Wildcards in names

A name in a pattern of paths may hold a question mark for any character, a star for any text, and a
class for a choice of characters. Two stars may only stand for whole directories. A mistake is
reported with its place in the pattern.
-/

namespace TreeLint
namespace Path

/-- A part of a name. -/
inductive NamePart where
  | char (c : Char)
  | anyOne
  | anyText
  /-- Two stars. -/
  | anyDirectories
  /-- A character in one of some ranges, or outside all of them. -/
  | oneOf (negated : Bool) (ranges : List (Char × Char))
deriving DecidableEq, Repr

/-- A mistake in a pattern. -/
inductive WildcardError where
  | tooManyStars (place : Nat)
  | misplacedStars (place : Nat)
  | invalidClass (place : Nat)
deriving DecidableEq, Repr

namespace WildcardError

def place : WildcardError → Nat
  | tooManyStars n => n
  | misplacedStars n => n
  | invalidClass n => n

def cause : WildcardError → String
  | tooManyStars _ => "wildcards are either regular `*` or recursive `**`"
  | misplacedStars _ => "recursive wildcards must form a single path component"
  | invalidClass _ => "invalid range pattern"

/-- The text of a mistake. -/
def message (e : WildcardError) : String :=
  "Pattern syntax error near position " ++ toString e.place ++ ": " ++ e.cause

end WildcardError

/-- The ranges in a class. -/
def classRanges : List Char → List (Char × Char)
  | low :: '-' :: high :: rest => (low, high) :: classRanges rest
  | c :: rest => (c, c) :: classRanges rest
  | [] => []

/-- A class behind its opening bracket: the part, and how many characters it has. A closing bracket
may be the first character of a class. -/
def classAt? : List Char → Option (NamePart × Nat)
  | '!' :: c :: rest =>
    if rest.contains ']' then
      let body := rest.takeWhile (· != ']')
      some (.oneOf true (classRanges (c :: body)), body.length + 3)
    else none
  | '!' :: [] => none
  | c :: rest =>
    if rest.contains ']' then
      let body := rest.takeWhile (· != ']')
      some (.oneOf false (classRanges (c :: body)), body.length + 2)
    else none
  | [] => none

/-- Reads the parts of a pattern from a place on, behind the character `before`. -/
def partsFrom (place : Nat) (before : Option Char) (cs : List Char) :
    Except WildcardError (List NamePart) :=
  match cs with
  | [] => .ok []
  | '?' :: rest => (partsFrom (place + 1) (some '?') rest).map (.anyOne :: ·)
  | '*' :: '*' :: '*' :: _ => .error (.tooManyStars (place + 2))
  | '*' :: '*' :: rest =>
    if !before.all (· == '/') then .error (.misplacedStars (place - 1))
    else
      match rest with
      | [] => .ok [.anyDirectories]
      | '/' :: more => (partsFrom (place + 3) (some '/') more).map (.anyDirectories :: ·)
      | _ :: _ => .error (.misplacedStars (place + 2))
  | '*' :: rest => (partsFrom (place + 1) (some '*') rest).map (.anyText :: ·)
  | '[' :: rest =>
    match classAt? rest with
    | none => .error (.invalidClass place)
    | some (part, n) =>
      (partsFrom (place + n + 1) (some ']') (rest.drop n)).map (part :: ·)
  | c :: rest => (partsFrom (place + 1) (some c) rest).map (.char c :: ·)
termination_by cs.length
decreasing_by all_goals simp_wf <;> omega

/-- The parts of a pattern. -/
def parts (pattern : String) : Except WildcardError (List NamePart) :=
  partsFrom 0 none pattern.toList

/-- Whether parts match a text as a whole. -/
def partsMatch : List NamePart → List Char → Bool
  | [], cs => cs.isEmpty
  | .char d :: ps, c :: cs => c == d && partsMatch ps cs
  | .anyOne :: ps, _ :: cs => partsMatch ps cs
  | .oneOf negated ranges :: ps, c :: cs =>
    (ranges.any (fun r => r.1 ≤ c && c ≤ r.2) != negated) && partsMatch ps cs
  | .anyText :: ps, cs => textMatch ps cs
  | .anyDirectories :: ps, cs => textMatch ps cs
  | _ :: _, [] => false
where
  /-- Whether parts match some end of a text. -/
  textMatch (ps : List NamePart) : List Char → Bool
    | [] => partsMatch ps []
    | c :: cs => partsMatch ps (c :: cs) || textMatch ps cs

/-- The name that parts stand for, if they hold no wildcard. -/
def plainName? : List NamePart → Option String
  | [] => some ""
  | .char c :: ps => (plainName? ps).map fun s => String.ofList [c] ++ s
  | _ :: _ => none

end Path
end TreeLint
