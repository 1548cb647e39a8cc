import TreeLint.Json.Value
import TreeLint.Decimal.Layout

/-!
# JSON numbers

Reading and writing of JSON numbers. An integer text in the range of 64 bits is an integer. Any
other number is a double: its first digits are taken as a 64-bit significand, further digits are
dropped, and the significand is scaled by one power of ten. A number too large for a double has
no value.
-/

namespace TreeLint
namespace Json

/-- The largest unsigned integer of 64 bits. -/
def maxNatural : Nat :=
  Nat.pow 2 64 - 1

/-- The largest exponent that is read; further digits make a number zero or too large. -/
def maxExponent : Nat :=
  Nat.pow 2 31 - 1

/-- A power of ten as a double. -/
def powerOfTen (k : Nat) : Float :=
  Float.ofScientific 1 false k

/-- A double divided by a power of ten, in steps that stay in the range of doubles. -/
def scaleDown
    (x : Float)
    (k : Nat) :
    Float :=
  if k ≤ 308 then x / powerOfTen k
  else if x == 0.0 then x
  else scaleDown (x / powerOfTen 308) (k - 308)
termination_by k

/-- A double multiplied by a power of ten, if the product is finite. -/
def scaleUp?
    (x : Float)
    (k : Nat) :
    Option Float :=
  if k ≤ 308 then
    let y := x * powerOfTen k
    if y.isInf then none else some y
  else if x == 0.0 then some x
  else none

/-- The double with a given sign, significand and decimal exponent. -/
def doubleOfParts
    (positive : Bool)
    (significand : Nat)
    (exponent : Int) :
    Option Number :=
  let x := significand.toUInt64.toFloat
  let scaled :=
    if 0 ≤ exponent then scaleUp? x exponent.toNat else some (scaleDown x exponent.natAbs)
  scaled.map fun y => .double (if positive then y else -y).toBits

/-- A number text taken apart; the digits are character digits. -/
structure NumberText where
  positive : Bool
  whole : List Char
  fraction : Option (List Char)
  exponent : Option (Bool × List Char)

def digitValue (c : Char) : Nat :=
  c.toNat - '0'.toNat

/-- Reads digits into a significand as long as it fits; the rest is returned. -/
def significandOf
    (acc : Nat) :
    List Char → Nat × List Char
  | [] => (acc, [])
  | d :: ds =>
    if acc * 10 + digitValue d ≤ maxNatural then
      significandOf (acc * 10 + digitValue d) ds
    else
      (acc, d :: ds)

/-- The value of a sequence of digits. -/
def digitsValue (ds : List Char) : Nat :=
  ds.foldl (fun n d => n * 10 + digitValue d) 0

/-- The number a text denotes, if it has one. -/
def NumberText.value?
    (t : NumberText) :
    Option Number :=
  let (whole, excess) := significandOf 0 t.whole
  if t.fraction.isNone && t.exponent.isNone && excess.isEmpty then
    if t.positive then some (.natural whole)
    else if 0 < whole && decide (whole ≤ Nat.pow 2 63) then some (.negative whole)
    else doubleOfParts false whole 0
  else
    let (significand, used) :=
      match t.fraction with
      | none => (whole, 0)
      | some ds =>
        let (s, rest) := significandOf whole ds
        (s, ds.length - rest.length)
    let start := (excess.length : Int) - used
    match t.exponent with
    | none => doubleOfParts t.positive significand start
    | some (up, ds) =>
      let e := digitsValue ds
      if maxExponent < e then
        if up && significand != 0 then none
        else some (.double (if t.positive then 0.0 else -0.0 : Float).toBits)
      else
        doubleOfParts t.positive significand (if up then start + e else start - e)

/-- The text of a number; a double that is not finite is written `null`. -/
def Number.text : Number → List Char
  | .natural n => Nat.toDigits 10 n
  | .negative n => '-' :: Nat.toDigits 10 n
  | .double bits =>
    if Decimal.isNonFinite bits then ['n', 'u', 'l', 'l'] else Decimal.writeBits bits

/-- Takes the digits at the front of a text, at least one. -/
def someDigits (cs : List Char) : Option (List Char × List Char) :=
  match cs.takeWhile Char.isDigit with
  | [] => none
  | ds => some (ds, cs.dropWhile Char.isDigit)

/-- Takes an optional fraction apart. -/
def splitFraction : List Char → Option (Option (List Char) × List Char)
  | '.' :: cs => (someDigits cs).map fun (ds, rest) => (some ds, rest)
  | cs => some (none, cs)

/-- Takes an optional sign apart; `true` is plus. -/
def splitSign : List Char → Bool × List Char
  | '-' :: cs => (false, cs)
  | '+' :: cs => (true, cs)
  | cs => (true, cs)

/-- Takes an optional exponent apart. -/
def splitExponent : List Char → Option (Option (Bool × List Char) × List Char)
  | [] => some (none, [])
  | c :: cs =>
    if c = 'e' || c = 'E' then
      let (up, rest) := splitSign cs
      (someDigits rest).map fun (ds, rest) => (some (up, ds), rest)
    else
      some (none, c :: cs)

/-- Takes a number text apart: no leading zeros, digits on both sides of the point. -/
def NumberText.ofText?
    (cs : List Char) :
    Option NumberText := do
  let (positive, cs) := match cs with
    | '-' :: rest => (false, rest)
    | rest => (true, rest)
  let (whole, cs) ← someDigits cs
  if whole.head? = some '0' && 1 < whole.length then
    none
  let (fraction, cs) ← splitFraction cs
  let (exponent, cs) ← splitExponent cs
  if cs.isEmpty then some ⟨positive, whole, fraction, exponent⟩ else none

end Json
end TreeLint
