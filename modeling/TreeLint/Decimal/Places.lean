import TreeLint.Decimal.Shortest

/-!
# Decimals with fixed places

A double written with a fixed number of digits behind the point: the exact value is rounded to the
nearest such decimal, and a tie goes to the even one.
-/

namespace TreeLint
namespace Decimal

/-- The natural number nearest to a quotient; a tie goes to the even one. -/
def roundDiv (num den : Nat) : Nat :=
  let q := num / den
  let twice := 2 * (num % den)
  if twice < den || (twice = den && q % 2 = 0) then q else q + 1

/-- The exact value of a finite double given by its bits without the sign. -/
def ratioOfBits (bits : Nat) : Ratio :=
  let fraction := bits % Nat.pow 2 52
  let field := bits / Nat.pow 2 52
  if field = 0 then ⟨fraction, Nat.pow 2 1074⟩
  else ⟨(Nat.pow 2 52 + fraction) * Nat.pow 2 (field - 1075), Nat.pow 2 (1075 - field)⟩

/-- A number of hundredths, or other parts, with a point in front of its last digits. -/
def withPoint (places n : Nat) : List Char :=
  let digits := Nat.toDigits 10 n
  let padded := List.replicate (places + 1 - digits.length) '0' ++ digits
  padded.take (padded.length - places) ++ '.' :: padded.drop (padded.length - places)

/-- A double with a fixed number of places, given by its bits without the sign. -/
def writePlaces (places : Nat) (bits : Nat) : List Char :=
  let r := ratioOfBits bits
  withPoint places (roundDiv (r.num * Nat.pow 10 places) r.den)

end Decimal
end TreeLint
