/-!
# Tables of code points

A set of code points is a list of runs in increasing order, and a case map a list of shifted runs.
Membership stops at the first run that starts above the code point.
-/

namespace TreeLint
namespace Text

/-- The code points `first`, `first + step`, and so on up to `last`. -/
structure Run where
  first : Nat
  last : Nat
  step : Nat
deriving DecidableEq, Repr

/-- Whether a code point lies in a run. -/
def Run.has
    (r : Run)
    (n : Nat) :
    Bool :=
  r.first ≤ n && n ≤ r.last && (n - r.first) % r.step == 0

/-- Whether a code point lies in one of the runs of a table in increasing order. -/
def inRuns : List Run → Nat → Bool
  | [], _ => false
  | r :: rs, n => if n < r.first then false else r.has n || inRuns rs n

/-- A run together with the code point its first member is mapped to. -/
structure Shift where
  run : Run
  target : Nat
deriving DecidableEq, Repr

/-- The image of a code point under a table of shifted runs; one outside them stays as it is. -/
def shift : List Shift → Nat → Nat
  | [], n => n
  | s :: rest, n =>
    if n < s.run.first then n
    else if s.run.has n then s.target + (n - s.run.first)
    else shift rest n

/-- A table of shifted runs applied to a character. -/
def shiftChar
    (table : List Shift)
    (c : Char) :
    Char :=
  Char.ofNat (shift table c.toNat)

end Text
end TreeLint
