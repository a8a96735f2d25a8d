import SpatialComputer.Binary64.Fused

/-!
# Sine and cosine

The sine and cosine of angles within a full turn, by a fixed algorithm, so that they are the same to the last bit everywhere. An angle is brought to within a quarter turn around zero, as a double and a small correction to it. There the functions are polynomials around the nearest multiple of 1/128, whose own sine and cosine are known to twice the precision of a double.
-/

namespace SpatialComputer.Binary64

/-! ### Knots -/

/-- The sine and the cosine of an angle, each as a double and a correction to it. -/
structure Knot where
  sine : Float
  sineRest : Float
  cosine : Float
  cosineRest : Float

/-- The denominator of the fixed-point numbers in which knots are computed. -/
def knotScale : Nat := Nat.pow 2 160

/-- Terms of the power series of sine and cosine in fixed point, from the one with the given index on. Each follows from the one before by the square of the angle. -/
def seriesFrom (square : Int) : Nat → Nat → Int → Int
  | 0, _, _ => 0
  | count + 1, index, term =>
    let next := -(term * square / knotScale / ((index + 1) * (index + 2) : Nat))
    term + seriesFrom square count (index + 2) next

def ofFixed (v : Int) : Float :=
  ofRatio (decide (v < 0)) v.natAbs knotScale

def toFixed (x : Float) : Int :=
  match value x with
  | .finite negative mantissa exponent => floorInt negative mantissa (exponent + 160)
  | _ => 0

def splitFixed (v : Int) : Float × Float :=
  let head := ofFixed v
  (head, ofFixed (v - toFixed head))

/-- The knot at `k / 128`, for angles below one. After 24 terms nothing is left of the series. -/
def knot (k : Nat) : Knot :=
  let angle : Int := k * knotScale / 128
  let square := angle * angle / knotScale
  let (sine, sineRest) := splitFixed (seriesFrom square 24 1 angle)
  let (cosine, cosineRest) := splitFixed (seriesFrom square 24 0 knotScale)
  ⟨sine, sineRest, cosine, cosineRest⟩

/-- The number of the knot nearest to a number that is not negative, and the distance from it. -/
def nearestKnot (x : Float) : Nat × Float :=
  let shift := Float.ofBits 0x42c8000000000000
  let place := (x + shift) - shift
  ((truncateInto 0 128 (place * 128)).toNat, x - place)

/-! ### Around zero -/

/-- A polynomial in Horner's form. The first coefficient is the leading one. -/
def horner (x : Float) (leading : Float) (others : List Float) : Float :=
  others.foldl (fun sum coefficient => fusedMulAdd sum x coefficient) leading

/-- The sine of a small angle, less the angle and divided by its cube. -/
def sinePart (square : Float) : Float :=
  horner square (.ofBits 0x3f811110e829872f) [.ofBits 0xbfc5555555555515]

/-- One less the cosine of a small angle, divided by the square of the angle. -/
def cosinePart (square : Float) : Float :=
  horner square (.ofBits 0x3f56c16bedd9e239)
    [.ofBits 0xbfa5555555555535, .ofBits 0x3fe0000000000000]

/-- Like `sinePart`, for angles that are used without a knot. -/
def sineSeries (square : Float) : Float :=
  horner square (.ofBits 0xbe5addffc2fcdf59)
    [.ofBits 0x3ec71de27b9a7ed9, .ofBits 0xbf2a01a019db08b8, .ofBits 0x3f81111111110ece,
      .ofBits 0xbfc5555555555555]

def magnitude (x : Float) : Float := if x < 0 then -x else x

/-- The sine of `x + dx`, for `x` within a quarter turn around zero and a small correction. -/
def sineAround (x dx : Float) : Float :=
  if magnitude x < 0.126 then
    let square := x * x
    x + fusedMulAdd (fusedMulAdd (sineSeries square) x (-(0.5 * dx))) square dx
  else
    let dx := if x ≤ 0 then -dx else dx
    let (k, x') := nearestKnot (magnitude x)
    let near := knot k
    let square := x' * x'
    let s := x' + fusedMulAdd (x' * square) (sinePart square) dx
    let c := fusedMulAdd x' dx (square * cosinePart square)
    let rest := fusedMulAdd (-near.sine) c (fusedMulAdd s near.cosineRest near.sineRest)
    let result := near.sine + fusedMulAdd near.cosine s rest
    if x < 0 then -result else result

/-- The cosine of `x + dx`, for `x` within a quarter turn around zero and a small correction. -/
def cosineAround (x dx : Float) : Float :=
  let dx := if x < 0 then -dx else dx
  let (k, distance) := nearestKnot (magnitude x)
  let near := knot k
  let x' := distance + dx
  let square := x' * x'
  let s := fusedMulAdd (x' * square) (sinePart square) x'
  let c := square * cosinePart square
  let rest := fusedMulAdd (-near.cosine) c (fusedMulAdd (-s) near.sineRest near.cosineRest)
  near.cosine + fusedMulAdd (-near.sine) s rest

/-! ### Around the circle -/

/-- A quarter turn as a double and a correction to it. -/
def quarterTurn : Float := .ofBits 0x3ff921fb54442d18

@[inherit_doc quarterTurn]
def quarterTurnRest : Float := .ofBits 0x3c91a62633145c07

/-- An angle as a number of quarter turns and what is left, which is at most half of one. -/
structure Reduced where
  quarters : Nat
  angle : Float
  rest : Float

/-- Takes the nearest number of quarter turns from an angle. A quarter turn is the sum of four doubles, so short that their multiples are exact or nearly so. -/
def reduce (x : Float) : Reduced :=
  let shift := Float.ofBits 0x4338000000000000
  let quarters := fusedMulAdd x (.ofBits 0x3fe45f306dc9c883) shift - shift
  let less (y part : Float) : Float := fusedMulAdd (-part) quarters y
  let third := Float.ofBits 0xbc8cb3b398000000
  let fourth := Float.ofBits 0xbacd747f23e32ed7
  let y := less (less x (.ofBits 0x3ff921fb58000000)) (.ofBits 0xbe4dde973c000000)
  let z := less y third
  let angle := less z fourth
  { quarters := (truncateInto 0 4 quarters).toNat
    angle := angle
    rest := less (y - z) third + less (z - angle) fourth }

def sineOfReduced (quarters : Nat) (angle rest : Float) : Float :=
  let result := if quarters % 2 = 0 then sineAround angle rest else cosineAround angle rest
  if quarters % 4 < 2 then result else -result

def nearEnd : Float := .ofBits 0x3feb600000000000

/-- The end of the angles that are reduced by one quarter turn at once. -/
def middleEnd : Float := .ofBits 0x400368fd00000000

def sine (x : Float) : Float :=
  if x < .ofBits 0x3e50000000000000 then x
  else if x < nearEnd then sineAround x 0
  else if x < middleEnd then cosineAround (quarterTurn - x) quarterTurnRest
  else
    let r := reduce x
    sineOfReduced r.quarters r.angle r.rest

def cosine (x : Float) : Float :=
  if x < .ofBits 0x3e40000000000000 then 1
  else if x < nearEnd then cosineAround x 0
  else if x < middleEnd then
    let y := quarterTurn - x
    let angle := y + quarterTurnRest
    sineAround angle ((y - angle) + quarterTurnRest)
  else
    let r := reduce x
    sineOfReduced (r.quarters + 1) r.angle r.rest

end SpatialComputer.Binary64
