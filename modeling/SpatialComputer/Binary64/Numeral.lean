import SpatialComputer.Binary64.Decimal

/-!
# Numerals

A numeral is decimal text taken apart: sign, digits, how many of them stand after the point, and the written exponent. Three layouts say how a double is written as a numeral: `message` in sentences for people, `literal` in the text that identifies a configuration, and `dump` in state dumps.
-/

namespace SpatialComputer.Binary64

/-- Decimal text: the digits of `coefficient` with `places` of them after the point, and the exponent if one is written. -/
structure Numeral where
  negative : Bool
  coefficient : Nat
  places : Nat
  exponent : Option Int
deriving DecidableEq, Repr

structure Layout where
  /-- The exponents of the leading digit, from the first up to but not including the second, for which no exponent is written; `none` if it never is. -/
  positional : Option (Int × Int)
  /-- Whether a number without a fraction is written with a zero after the point. -/
  keepsPoint : Bool
  plusSign : Bool
  tie : Tie
deriving DecidableEq, Repr

def Layout.message : Layout := ⟨none, false, false, .up⟩

/-- Positional from `0.0001` to below `1e16`, always with a point there. -/
def Layout.literal : Layout := ⟨some (-4, 16), true, false, .up⟩

/-- Positional from `0.00001` to below `1e16`, always with a point there, and with a signed exponent elsewhere. -/
def Layout.dump : Layout := ⟨some (-5, 16), true, true, .toEven⟩

namespace Numeral

/-- Digits of `n`, padded on the left with zeros to at least `width`. -/
def padded (width n : Nat) : List Char :=
  let digits := Nat.toDigits 10 n
  List.replicate (width - digits.length) '0' ++ digits

def exponentText (plusSign : Bool) (e : Int) : List Char :=
  let sign := if e < 0 then ['-'] else if plusSign then ['+'] else []
  'e' :: sign ++ Nat.toDigits 10 e.natAbs

def text (plusSign : Bool) (n : Numeral) : List Char :=
  let scale := Nat.pow 10 n.places
  let sign := if n.negative then ['-'] else []
  let fraction := if n.places = 0 then [] else '.' :: padded n.places (n.coefficient % scale)
  let exponent := match n.exponent with
    | none => []
    | some e => exponentText plusSign e
  sign ++ Nat.toDigits 10 (n.coefficient / scale) ++ fraction ++ exponent

def decimal (n : Numeral) : Decimal :=
  ⟨n.coefficient, n.exponent.getD 0 - n.places⟩

def isIntegral (n : Numeral) : Bool :=
  n.places == 0 && n.exponent.isNone

/-- The double nearest to the number that the numeral denotes, or `none` if it lies beyond every finite double. -/
def toFloat? (n : Numeral) : Option Float :=
  if n.decimal.bits < infinityBits then some (n.decimal.toFloat n.negative) else none

end Numeral

/-- The numeral of a decimal without zeros at the end of its coefficient. -/
def Layout.numeral (layout : Layout) (negative : Bool) (d : Decimal) : Numeral :=
  let leading : Int := if d.coefficient = 0 then 0 else digitCount d.coefficient - 1 + d.exponent
  let isPositional := match layout.positional with
    | none => true
    | some (least, bound) => decide (least ≤ leading ∧ leading < bound)
  if isPositional then
    if 0 ≤ d.exponent then
      let whole := d.coefficient * Nat.pow 10 d.exponent.toNat
      if layout.keepsPoint then ⟨negative, whole * 10, 1, none⟩ else ⟨negative, whole, 0, none⟩
    else ⟨negative, d.coefficient, (-d.exponent).toNat, none⟩
  else ⟨negative, d.coefficient, digitCount d.coefficient - 1, some leading⟩

/-- The text of a double. Beyond the finite ones it is `NaN`, `inf` or `-inf`. -/
def Layout.text (layout : Layout) (x : Float) : String :=
  match value x with
  | .nan => "NaN"
  | .infinite negative => if negative then "-inf" else "inf"
  | .finite negative mantissa exponent =>
    let numeral := layout.numeral negative (shortest layout.tie mantissa exponent)
    .ofList (numeral.text layout.plusSign)

/-- The text of a double rounded to `places` digits after the point, a half going to the even digit. -/
def fixedText (places : Nat) (x : Float) : String :=
  match value x with
  | .nan => "NaN"
  | .infinite negative => if negative then "-inf" else "inf"
  | .finite negative mantissa exponent =>
    let (num, den) := ratio mantissa exponent
    let rounded : Numeral := ⟨negative, roundHalfEven (num * Nat.pow 10 places) den, places, none⟩
    .ofList (rounded.text false)

end SpatialComputer.Binary64
