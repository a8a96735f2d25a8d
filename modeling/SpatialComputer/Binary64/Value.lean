/-!
# The exact value of a double

A finite double is a sign, a mantissa below `2 ^ 53` and a power of two. Everything that has to be exact about doubles (rounding to integers, decimal digits, reading decimal text) is computed on these parts in integer arithmetic.
-/

namespace SpatialComputer.Binary64

inductive Value where
  | nan
  | infinite (negative : Bool)
  /-- The number `± mantissa * 2 ^ exponent`; a zero keeps its sign. -/
  | finite (negative : Bool) (mantissa : Nat) (exponent : Int)
deriving DecidableEq, Repr

def signBit : Nat := 0x8000000000000000

/-- The fractions of doubles, which have 52 bits, lie below this number. -/
def fractionBound : Nat := 0x10000000000000

def Value.ofBits (bits : Nat) : Value :=
  let negative := decide (signBit ≤ bits)
  let field : Nat := bits / fractionBound % 2048
  let fraction : Nat := bits % fractionBound
  if field = 2047 then
    if fraction = 0 then .infinite negative else .nan
  else if field = 0 then .finite negative fraction (-1074)
  else .finite negative (fractionBound + fraction) ((field : Int) - 1075)

def value (x : Float) : Value :=
  .ofBits x.toBits.toNat

/-- Numerator and denominator of `mantissa * 2 ^ exponent`. -/
def ratio (mantissa : Nat) (exponent : Int) : Nat × Nat :=
  if 0 ≤ exponent then (mantissa * Nat.pow 2 exponent.toNat, 1)
  else (mantissa, Nat.pow 2 (-exponent).toNat)

end SpatialComputer.Binary64
