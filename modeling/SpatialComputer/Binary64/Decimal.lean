import SpatialComputer.Binary64.Rounding

/-!
# Decimals and the doubles they denote

A decimal is a coefficient and a power of ten. `Decimal.toFloat` rounds it to the nearest double; `shortest` finds the decimal with the fewest digits that rounds to a given double, and of two such the nearer one. Each candidate is kept only if it reads back, so the outcome reads back by construction; the exact decimal expansion, which every finite double has, stands at the end of the list.
-/

namespace SpatialComputer.Binary64

/-- The number `coefficient * 10 ^ exponent`. -/
structure Decimal where
  coefficient : Nat
  exponent : Int
deriving DecidableEq, Repr

inductive Tie where
  | toEven
  | up
deriving DecidableEq, Repr

namespace Decimal

/-- The bits, below the sign, of the double nearest to the decimal. Powers of ten that could only overflow or vanish are not computed. -/
def bits (d : Decimal) : Nat :=
  if d.coefficient = 0 then 0
  else if 0 ≤ d.exponent then
    if 400 < d.exponent then infinityBits
    else nearestBits (d.coefficient * Nat.pow 10 d.exponent.toNat) 1
  else
    let places := (-d.exponent).toNat
    if d.coefficient.log2 + 1100 < 3 * places then 0
    else nearestBits d.coefficient (Nat.pow 10 places)

def toFloat (negative : Bool) (d : Decimal) : Float :=
  ofMagnitude negative d.bits

/-- The same number without zeros at the end of the coefficient; `fuel` bounds their count. -/
def strip (fuel : Nat) (d : Decimal) : Decimal :=
  match fuel with
  | 0 => d
  | fuel + 1 =>
    if d.coefficient ≠ 0 ∧ d.coefficient % 10 = 0 then
      strip fuel ⟨d.coefficient / 10, d.exponent + 1⟩
    else d

/-- The decimal expansion of `mantissa * 2 ^ exponent`, exactly. -/
def exact (mantissa : Nat) (exponent : Int) : Decimal :=
  if 0 ≤ exponent then ⟨mantissa * Nat.pow 2 exponent.toNat, 0⟩
  else ⟨mantissa * Nat.pow 5 (-exponent).toNat, exponent⟩

end Decimal

def digitCount (n : Nat) : Nat :=
  (Nat.toDigits 10 n).length

/-- The exponent of the leading decimal digit of `num / den`, both positive. -/
def leadingExponent (num den : Nat) : Int :=
  if den ≤ num then (digitCount (num / den) : Int) - 1
  else -(digitCount ((den - 1) / num) : Int)

/-- The two multiples of `10 ^ exponent` around `num / den`, the nearer one first, without zeros at the end. -/
def neighbours (tie : Tie) (num den : Nat) (exponent : Int) : List Decimal :=
  let top := if 0 ≤ exponent then num else num * Nat.pow 10 (-exponent).toNat
  let bottom := if 0 ≤ exponent then den * Nat.pow 10 exponent.toNat else den
  let below := top / bottom
  let twice := 2 * (top % bottom)
  let upFirst :=
    bottom < twice ∨ (bottom = twice ∧ (tie = .up ∨ below % 2 = 1))
  let lower := Decimal.strip 20 ⟨below, exponent⟩
  let upper := Decimal.strip 20 ⟨below + 1, exponent⟩
  if upFirst then [upper, lower] else [lower, upper]

/-- The decimal with the fewest digits that rounds to `mantissa * 2 ^ exponent`; of two such the nearer one, and `tie` decides when both are equally near. -/
def shortest (tie : Tie) (mantissa : Nat) (exponent : Int) : Decimal :=
  if mantissa = 0 then ⟨0, 0⟩
  else
    let (num, den) := ratio mantissa exponent
    let leading := leadingExponent num den
    let target := nearestBits num den
    let found := (List.range 17).findSome? fun (more : Nat) =>
      (neighbours tie num den (leading - more)).find? fun d => d.bits == target
    found.getD (.exact mantissa exponent)

end SpatialComputer.Binary64
