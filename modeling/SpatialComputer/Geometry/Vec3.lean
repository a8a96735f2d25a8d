import SpatialComputer.Binary64.Numeral

/-!
# Points and displacements

Vectors of three doubles. Sums of squares are taken from left to right, so lengths and distances are fixed to the last bit.
-/

namespace SpatialComputer

open Binary64

@[ext]
structure Vec3 where
  x : Float
  y : Float
  z : Float
deriving DecidableEq

namespace Vec3

def zero : Vec3 := ⟨0, 0, 0⟩

instance : Inhabited Vec3 := ⟨zero⟩

instance : Add Vec3 where
  add a b := ⟨a.x + b.x, a.y + b.y, a.z + b.z⟩

instance : Sub Vec3 where
  sub a b := ⟨a.x - b.x, a.y - b.y, a.z - b.z⟩

instance : HMul Vec3 Float Vec3 where
  hMul a k := ⟨a.x * k, a.y * k, a.z * k⟩

/-- Equality of coordinates as numbers: zeros of either sign agree, and a NaN agrees with nothing. -/
instance : BEq Vec3 where
  beq a b := a.x == b.x && a.y == b.y && a.z == b.z

def isZero (a : Vec3) : Bool :=
  a.x == 0 && a.y == 0 && a.z == 0

@[simp] theorem isZero_zero : zero.isZero = true := by decide

def isFinite (a : Vec3) : Bool :=
  a.x.isFinite && a.y.isFinite && a.z.isFinite

theorem isFinite_iff (a : Vec3) :
    a.isFinite = true ↔ a.x.isFinite = true ∧ a.y.isFinite = true ∧ a.z.isFinite = true := by
  simp only [isFinite, Bool.and_eq_true, and_assoc]

def lengthSquared (a : Vec3) : Float :=
  a.x * a.x + a.y * a.y + a.z * a.z

def length (a : Vec3) : Float :=
  a.lengthSquared.sqrt

def distanceSquared (a b : Vec3) : Float :=
  (a - b).lengthSquared

def distance (a b : Vec3) : Float :=
  (a.distanceSquared b).sqrt

/-- The vector as it stands in messages and in the text that identifies a configuration. -/
def literal (a : Vec3) : String :=
  "Vec3 \x7b x: " ++ Layout.literal.text a.x ++ ", y: " ++ Layout.literal.text a.y ++
    ", z: " ++ Layout.literal.text a.z ++ " \x7d"

end Vec3

end SpatialComputer
