import TreeLint.Decimal.Shortest

/-!
# Decimal layout

How a double is written: positional between `1e-5` and `1e16`, with an exponent elsewhere, always
with a fraction or an exponent.
-/

namespace TreeLint
namespace Decimal

/-- Which numbers are written without an exponent: the decimal point stands after at most `widest`
digits, and at most `zeros` zeros follow it when no digit stands before it. -/
structure Layout where
  widest : Int
  zeros : Int

/-- The layout of the numbers in documents and settings. -/
def documentLayout : Layout :=
  ⟨16, 4⟩

def exponentText (e : Int) : List Char :=
  if e < 0 then '-' :: Nat.toDigits 10 e.natAbs else Nat.toDigits 10 e.natAbs

/-- The text of a positive decimal. -/
def Layout.write
    (layout : Layout)
    (s : Scaled) :
    List Char :=
  let digits := Nat.toDigits 10 s.digits
  let point := (digits.length : Int) + s.exponent
  if 0 ≤ s.exponent && decide (point ≤ layout.widest) then
    digits ++ List.replicate s.exponent.toNat '0' ++ ['.', '0']
  else if 0 < point && decide (point ≤ layout.widest) then
    digits.take point.toNat ++ '.' :: digits.drop point.toNat
  else if -layout.zeros ≤ point && decide (point ≤ 0) then
    ['0', '.'] ++ List.replicate (-point).toNat '0' ++ digits
  else
    match digits with
    | [d] => d :: 'e' :: exponentText (point - 1)
    | ds => ds.take 1 ++ '.' :: ds.drop 1 ++ 'e' :: exponentText (point - 1)

/-- The text of a finite double given by its bits. -/
def writeBits
    (bits : UInt64) :
    List Char :=
  let magnitude := bits.toNat % Nat.pow 2 63
  let sign := if Nat.pow 2 63 ≤ bits.toNat then ['-'] else []
  sign ++
    if magnitude = 0 then ['0', '.', '0'] else documentLayout.write (shortestOfBits magnitude)

/-- Whether the bits are those of an infinity or of no number. -/
def isNonFinite (bits : UInt64) : Bool :=
  bits.toNat % Nat.pow 2 63 / Nat.pow 2 52 == 2047

end Decimal
end TreeLint
