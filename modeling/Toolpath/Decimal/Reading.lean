import Toolpath.Decimal.Basic

/-!
# The binary64 number nearest to a decimal

Very long exponents are settled by size alone: from `10 ^ 310` on every decimal is beyond
the greatest binary64 number, and below `10 ^ -330` it is nearer to zero than to the least
positive one.
-/

namespace Toolpath.Decimal

/-- Nearest binary64 number to a decimal, infinite beyond the range. -/
def toFloat (value : Decimal) : Float :=
  let size := value.exponent + (Nat.toDigits 10 value.coefficient).length
  if value.coefficient = 0 ∨ size < -330 then 0.0
  else if size > 310 then 1.0 / 0.0
  else Float.ofScientific value.coefficient (value.exponent < 0) value.exponent.natAbs

end Toolpath.Decimal
