import SpatialComputer.Binary64.Value

/-!
# Rounding between ratios, doubles and integers

A ratio becomes a double by rounding to the nearest one, a half going to the even neighbour; a double becomes an integer by `floor`, `ceil` or truncation. All of it is exact integer arithmetic.
-/

namespace SpatialComputer.Binary64

/-- The integer nearest to `num / den`, a half going to the even neighbour. -/
def roundHalfEven (num den : Nat) : Nat :=
  let quotient := num / den
  let twice := 2 * (num % den)
  if twice < den then quotient
  else if den < twice then quotient + 1
  else quotient + quotient % 2

/-- The bits of positive infinity, just above those of every finite positive double. -/
def infinityBits : Nat := 0x7ff0000000000000

/-- The bits of the double nearest to `num / den`. With the mantissa rounded to a multiple of `2 ^ (shift - 1074)`, the bits of both subnormal and normal doubles are `shift * 2 ^ 52` plus the mantissa, and a mantissa rounded up to `2 ^ 53` carries into the exponent by itself. -/
def nearestBits (num den : Nat) : Nat :=
  let scaled := num * Nat.pow 2 1074
  let shift := Nat.log2 (scaled / den) - 52
  min (shift * fractionBound + roundHalfEven scaled (den * Nat.pow 2 shift)) infinityBits

/-- The double with the given sign and the given bits below the sign. -/
def ofMagnitude (negative : Bool) (bits : Nat) : Float :=
  .ofBits (.ofNat ((if negative then signBit else 0) + bits))

/-- The double nearest to `± num / den`. -/
def ofRatio (negative : Bool) (num den : Nat) : Float :=
  ofMagnitude negative (nearestBits num den)

def ofNat (n : Nat) : Float :=
  ofRatio false n 1

/-- The double nearest to an integer; zero is positive. -/
def ofInt (n : Int) : Float :=
  ofRatio (decide (n < 0)) n.natAbs 1

/-- The greatest integer at most `± mantissa * 2 ^ exponent`. -/
def floorInt (negative : Bool) (mantissa : Nat) (exponent : Int) : Int :=
  let signed : Int := if negative then -mantissa else mantissa
  if 0 ≤ exponent then signed * Nat.pow 2 exponent.toNat
  else signed / Nat.pow 2 (-exponent).toNat

/-- The least integer at least `± mantissa * 2 ^ exponent`. -/
def ceilInt (negative : Bool) (mantissa : Nat) (exponent : Int) : Int :=
  -floorInt (!negative) mantissa exponent

/-- The greatest integral double at most `x`. NaN, infinities and zeros are kept. -/
def floor (x : Float) : Float :=
  match value x with
  | .finite negative mantissa exponent =>
    if 0 ≤ exponent then x
    else ofRatio negative (floorInt negative mantissa exponent).natAbs 1
  | _ => x

/-- The least integral double at least `x`. A negative number above `-1` goes to negative zero. -/
def ceil (x : Float) : Float :=
  match value x with
  | .finite negative mantissa exponent =>
    if 0 ≤ exponent then x
    else ofRatio negative (ceilInt negative mantissa exponent).natAbs 1
  | _ => x

/-- Truncation towards zero into the range from `least` to `greatest`: what lies beyond goes to the nearer end, and NaN to zero. -/
def truncateInto (least greatest : Int) (x : Float) : Int :=
  match value x with
  | .nan => 0
  | .infinite negative => if negative then least else greatest
  | .finite negative mantissa exponent =>
    let truncated :=
      if negative then ceilInt negative mantissa exponent else floorInt negative mantissa exponent
    max least (min greatest truncated)

/-- The larger of two doubles; a NaN gives way to the other. -/
def maxNum (x y : Float) : Float :=
  if x.isNaN then y else if x < y then y else x

/-- The smaller of two doubles; a NaN gives way to the other. -/
def minNum (x y : Float) : Float :=
  if x.isNaN then y else if y < x then y else x

end SpatialComputer.Binary64
