/-!
# Shortest decimals

The decimal with the fewest digits that reads back as a given double. A double stands for the
interval of reals that round to it; the digits are searched on decimal grids of growing fineness,
in exact natural-number arithmetic, and of two hits on a grid the nearer one is taken.
-/

namespace TreeLint
namespace Decimal

/-- The positive rational `num / den`. -/
structure Ratio where
  num : Nat
  den : Nat
deriving DecidableEq, Repr

namespace Ratio

def le (a b : Ratio) : Bool :=
  a.num * b.den ≤ b.num * a.den

def lt (a b : Ratio) : Bool :=
  a.num * b.den < b.num * a.den

/-- The distance of two rationals. -/
def distance (a b : Ratio) : Ratio :=
  ⟨(a.num * b.den - b.num * a.den) + (b.num * a.den - a.num * b.den), a.den * b.den⟩

/-- The exponent of the leading decimal digit: the largest `p` with `10 ^ p ≤ a`. -/
def leading (a : Ratio) : Int :=
  if a.den ≤ a.num then
    ((Nat.toDigits 10 (a.num / a.den)).length : Int) - 1
  else
    let width := (Nat.toDigits 10 (a.den / a.num)).length
    if a.num * Nat.pow 10 (width - 1) = a.den then 1 - (width : Int) else -(width : Int)

end Ratio

/-- The decimal `digits * 10 ^ exponent`. -/
structure Scaled where
  digits : Nat
  exponent : Int
deriving DecidableEq, Repr

/-- The value of a decimal. -/
def Scaled.ratio
    (s : Scaled) :
    Ratio :=
  if 0 ≤ s.exponent then
    ⟨s.digits * Nat.pow 10 s.exponent.toNat, 1⟩
  else
    ⟨s.digits, Nat.pow 10 (-s.exponent).toNat⟩

/-- The reals that round to a double: both ends belong to it when `closed` holds. -/
structure Rounding where
  low : Ratio
  value : Ratio
  high : Ratio
  closed : Bool

def Rounding.has
    (r : Rounding)
    (a : Ratio) :
    Bool :=
  if r.closed then r.low.le a && a.le r.high else r.low.lt a && a.lt r.high

/-- The interval of the finite double with significand `m`, exponent `e`, both as decoded from
its bits; below a power of two the neighbour is half as far away. -/
def Rounding.ofBinary
    (m : Nat)
    (e : Int) :
    Rounding :=
  let below := if m = Nat.pow 2 52 && decide (-1074 < e) then 1 else 2
  let up := Nat.pow 2 e.toNat
  let den := 4 * Nat.pow 2 (-e).toNat
  ⟨⟨(4 * m - below) * up, den⟩, ⟨4 * m * up, den⟩, ⟨(4 * m + 2) * up, den⟩, m % 2 == 0⟩

/-- The grid point of an interval on the grid of `10 ^ k`, the nearer of the value's two
neighbours; of two equally near ones the even one. -/
def gridPoint?
    (r : Rounding)
    (k : Int) :
    Option Scaled :=
  let floor :=
    if 0 ≤ k then
      r.value.num / (r.value.den * Nat.pow 10 k.toNat)
    else
      r.value.num * Nat.pow 10 (-k).toNat / r.value.den
  let a : Scaled := ⟨floor, k⟩
  let b : Scaled := ⟨floor + 1, k⟩
  let da := a.ratio.distance r.value
  let db := b.ratio.distance r.value
  match r.has a.ratio, r.has b.ratio with
  | true, true => some (if da.lt db then a else if db.lt da then b
      else if floor % 2 == 0 then a else b)
  | true, false => some a
  | false, true => some b
  | false, false => none

/-- The shortest decimal of the interval; seventeen digits always suffice. -/
def Rounding.shortest
    (r : Rounding) :
    Scaled :=
  let p := r.value.leading
  ((List.range 17).findSome? fun (n : Nat) => gridPoint? r (p - n)).getD ⟨0, 0⟩

/-- A decimal without zeros at its end. -/
def Scaled.trimmed
    (s : Scaled) :
    Scaled :=
  let text := (Nat.toDigits 10 s.digits).reverse
  let zeros := (text.takeWhile (· == '0')).length
  if s.digits = 0 then s else ⟨s.digits / Nat.pow 10 zeros, s.exponent + (zeros : Int)⟩

/-- The shortest decimal of a positive finite double given by its bits without the sign. -/
def shortestOfBits
    (bits : Nat) :
    Scaled :=
  let fraction : Nat := bits % Nat.pow 2 52
  let field : Nat := bits / Nat.pow 2 52
  let r :=
    if field = 0 then Rounding.ofBinary fraction (-1074)
    else Rounding.ofBinary (Nat.pow 2 52 + fraction) ((field : Int) - 1075)
  r.shortest.trimmed

end Decimal
end TreeLint
