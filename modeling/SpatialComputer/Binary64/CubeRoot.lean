import SpatialComputer.Binary64.Rounding

/-!
# Cube roots

The cube root of a double, rounded to the nearest double. It is computed on integers: the mantissa is scaled until its cube root has more digits than a double holds, the root is taken digit by digit, and what is left over only decides on which side of a halfway point the root lies.
-/

namespace SpatialComputer.Binary64

/-- Improves a lower bound of the cube root of `n` by the binary digits below `2 ^ digits`. -/
def refineCubeRoot (n : Nat) : Nat → Nat → Nat
  | 0, root => root
  | digit + 1, root =>
    let next := root + Nat.pow 2 digit
    refineCubeRoot n digit (if next * next * next ≤ n then next else root)

/-- The greatest number whose cube is at most `n`, if that number is below `2 ^ 56`. -/
def floorCubeRoot (n : Nat) : Nat := refineCubeRoot n 56 0

/-- The bits, below the sign, of the double nearest to the cube root of `mantissa * 2 ^ exponent`. The mantissa, which is positive, is scaled by the power of `8` that brings it to between `2 ^ 165` and `2 ^ 168`, so the root has 56 digits. A root that is not exact is moved up by half its last digit, which changes neither the nearest double nor a tie. -/
def cubeRootBits (mantissa : Nat) (exponent : Int) : Nat :=
  let shift := (167 - (mantissa.log2 + exponent)) / 3
  let scaled := mantissa * Nat.pow 2 (exponent + 3 * shift).toNat
  let root := floorCubeRoot scaled
  let twice := if root * root * root = scaled then 2 * root else 2 * root + 1
  let (num, den) := ratio twice (-shift - 1)
  nearestBits num den

/-- The double nearest to the cube root of `x`. NaN, infinities and zeros are their own. -/
def cubeRoot (x : Float) : Float :=
  match value x with
  | .finite negative mantissa exponent =>
    if mantissa = 0 then x else ofMagnitude negative (cubeRootBits mantissa exponent)
  | _ => x

end SpatialComputer.Binary64
