import SpatialComputer.Binary64.Rounding

/-!
# Fused multiplication and addition

A product and a sum that are rounded once, at the end.
-/

namespace SpatialComputer.Binary64

def signed (negative : Bool) (magnitude : Nat) : Int :=
  if negative then -magnitude else magnitude

/-- The double nearest to `numerator * 2 ^ exponent`; zero is positive. -/
def ofDyadic (numerator : Int) (exponent : Int) : Float :=
  let (num, den) := ratio numerator.natAbs exponent
  ofRatio (decide (numerator < 0)) num den

/-- The double nearest to `x * y + z`. When the exact result is zero, or an operand is not finite, rounding twice makes no difference. -/
def fusedMulAdd (x y z : Float) : Float :=
  match value x, value y, value z with
  | .finite xNegative xMantissa xExponent, .finite yNegative yMantissa yExponent,
      .finite zNegative zMantissa zExponent =>
    let exponent := min (xExponent + yExponent) zExponent
    let product := signed (xNegative != yNegative)
      (xMantissa * yMantissa * Nat.pow 2 (xExponent + yExponent - exponent).toNat)
    let total := product + signed zNegative (zMantissa * Nat.pow 2 (zExponent - exponent).toNat)
    if total = 0 then x * y + z else ofDyadic total exponent
  | _, _, _ => x * y + z

end SpatialComputer.Binary64
