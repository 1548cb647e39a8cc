import TreeLint.Decimal.Shortest

/-!
# Nearest doubles

The double nearest to a decimal. Decimals far out of the range of doubles are told apart by the
place of their leading digit before any power of ten is computed.
-/

namespace TreeLint
namespace Decimal

/-- The bits of the double nearest to a decimal; an infinity if it is too large. -/
def nearestBits (s : Scaled) : UInt64 :=
  let place := (Nat.toDigits 10 s.digits).length + s.exponent
  if s.digits = 0 || place < -400 then (0.0 : Float).toBits
  else if 400 < place then (1.0 / 0.0 : Float).toBits
  else (Float.ofScientific s.digits (decide (s.exponent < 0)) s.exponent.natAbs).toBits

/-- The bits of a double with its sign turned. -/
def negateBits (bits : UInt64) : UInt64 :=
  bits ^^^ ((1 : UInt64) <<< 63)

end Decimal
end TreeLint
