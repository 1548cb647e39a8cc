import TreeLint.Decimal.Layout
import TreeLint.Decimal.Nearest
import TreeLint.Json.Number
import TreeLint.Text.Hex

/-!
# The values of plain scalars

A plain scalar stands for null, a truth value, an integer, a double, or its own text. A leading
zero in front of further digits makes a text of a number, and so does a value that is too large for
a double.
-/

namespace TreeLint
namespace Yaml

/-- The value of a plain scalar. -/
inductive PlainValue where
  | null
  | bool (b : Bool)
  | number (n : Json.Number)
  /-- An integer that does not fit 64 bits, but fits 128. -/
  | wide
  | text
deriving DecidableEq, Repr

/-- Whether a scalar stands for null. -/
def isNull (s : String) : Bool :=
  ["", "null", "Null", "NULL", "~"].contains s

/-- The truth value a scalar stands for. -/
def bool? (s : String) : Option Bool :=
  if ["true", "True", "TRUE"].contains s then some true
  else if ["false", "False", "FALSE"].contains s then some false
  else none

/-- The number that digits of a base denote, at least one. -/
def digits? (base : Nat) (cs : List Char) : Option Nat :=
  if cs.isEmpty then none
  else
    cs.foldlM
      (fun n c =>
        match Text.hexValue? c with
        | some d => if d < base then some (n * base + d) else none
        | none => none)
      0

/-- Whether a text consists of digits behind a leading zero, with or without a sign. -/
def hasLeadingZero (cs : List Char) : Bool :=
  let unsigned :=
    match cs with
    | '+' :: rest => rest
    | '-' :: rest => rest
    | _ => cs
  match unsigned with
  | '0' :: d :: rest => (d :: rest).all Char.isDigit
  | _ => false

/-- The number that a text without a sign denotes, in any of the four bases. -/
def unsigned? (cs : List Char) : Option Nat :=
  match cs with
  | '0' :: 'x' :: ds => digits? 16 ds
  | '0' :: 'o' :: ds => digits? 8 ds
  | '0' :: 'b' :: ds => digits? 2 ds
  | _ => if hasLeadingZero cs then none else digits? 10 cs

/-- The natural number that a text denotes; a plus sign may stand in front. -/
def natural? : List Char → Option Nat
  | '+' :: cs => unsigned? cs
  | cs => unsigned? cs

/-- The unsigned integer of 64 bits that a text denotes. -/
def natural64? (s : String) : Option Nat :=
  (natural? s.toList).filter (· < Nat.pow 2 64)

/-- The value of an integer, unless it is too large even for 128 bits. -/
def integerValue? : List Char → Option PlainValue
  | '-' :: cs => do
    let n ← unsigned? cs
    if n = 0 then some (.number (.natural 0))
    else if n ≤ Nat.pow 2 63 then some (.number (.negative n))
    else if n ≤ Nat.pow 2 127 then some .wide
    else none
  | cs => do
    let n ← natural? cs
    if n < Nat.pow 2 64 then some (.number (.natural n))
    else if n < Nat.pow 2 128 then some .wide
    else none

/-- The exponent at the end of a decimal; left out, it is zero. -/
def exponent? : List Char → Option Int
  | [] => some 0
  | c :: cs =>
    if c = 'e' || c = 'E' then
      let (up, ds) := Json.splitSign cs
      (digits? 10 ds).map fun n => if up then (n : Int) else -(n : Int)
    else none

/-- The decimal that a text without a sign denotes: digits with or without a point, and with or
without an exponent. -/
def decimal? (cs : List Char) : Option Decimal.Scaled := do
  let whole := cs.takeWhile Char.isDigit
  let rest := cs.dropWhile Char.isDigit
  let (fraction, rest) :=
    match rest with
    | '.' :: more => (more.takeWhile Char.isDigit, more.dropWhile Char.isDigit)
    | _ => ([], rest)
  let digits ← digits? 10 (whole ++ fraction)
  let e ← exponent? rest
  return ⟨digits, e - fraction.length⟩

/-- The bits of the finite double that a text without a sign denotes. -/
def finiteBits? (cs : List Char) : Option UInt64 :=
  ((decimal? cs).map Decimal.nearestBits).filter fun bits => !Decimal.isNonFinite bits

def infinityBits : UInt64 := 0x7ff0000000000000

/-- The bits that stand for no number. -/
def nanBits : UInt64 := 0x7ff8000000000000

/-- The bits of the double that a text denotes. -/
def doubleBits? (s : String) : Option UInt64 :=
  if [".inf", ".Inf", ".INF", "+.inf", "+.Inf", "+.INF"].contains s then some infinityBits
  else if ["-.inf", "-.Inf", "-.INF"].contains s then some (Decimal.negateBits infinityBits)
  else if [".nan", ".NaN", ".NAN"].contains s then some nanBits
  else
    match s.toList with
    | '-' :: cs => (finiteBits? cs).map Decimal.negateBits
    | '+' :: cs => finiteBits? cs
    | cs => finiteBits? cs

/-- The value of a plain scalar. -/
def plainValue (s : String) : PlainValue :=
  if isNull s then .null
  else
    match bool? s with
    | some b => .bool b
    | none =>
      match integerValue? s.toList with
      | some v => v
      | none =>
        if hasLeadingZero s.toList then .text
        else
          match doubleBits? s with
          | some bits => .number (.double bits)
          | none => .text

end Yaml
end TreeLint
