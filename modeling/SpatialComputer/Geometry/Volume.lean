import SpatialComputer.Geometry.Vec3

/-!
# Volumes

An axis-aligned box in which devices are placed. A box of depth zero is a flat arena at the height of its lower corner.
-/

namespace SpatialComputer

structure Volume where
  min : Vec3 := .zero
  max : Vec3 := ⟨100, 100, 100⟩
deriving DecidableEq

namespace Volume

def centered (width height depth : Float) : Volume where
  min := ⟨-width / 2, -height / 2, -depth / 2⟩
  max := ⟨width / 2, height / 2, depth / 2⟩

def width (v : Volume) : Float := v.max.x - v.min.x

def height (v : Volume) : Float := v.max.y - v.min.y

def depth (v : Volume) : Float := v.max.z - v.min.z

def extent (v : Volume) : Vec3 := ⟨v.width, v.height, v.depth⟩

def is3d (v : Volume) : Bool := decide (0 < v.depth)

def contains (v : Volume) (p : Vec3) : Bool :=
  decide (v.min.x ≤ p.x) && decide (p.x ≤ v.max.x) &&
  decide (v.min.y ≤ p.y) && decide (p.y ≤ v.max.y) &&
  decide (v.min.z ≤ p.z) && decide (p.z ≤ v.max.z)

/-- The point of the interval from `low` to `high` nearest to `x`. A NaN stays one. -/
def clampAxis (low high x : Float) : Float :=
  let raised := if x < low then low else x
  if high < raised then high else raised

/-- The point of the box nearest to `p`. -/
def clamp (v : Volume) (p : Vec3) : Vec3 :=
  ⟨clampAxis v.min.x v.max.x p.x, clampAxis v.min.y v.max.y p.y, clampAxis v.min.z v.max.z p.z⟩

/-- Whether the corners are in order on each axis; a NaN is out of order. -/
def isOrdered (v : Volume) : Bool :=
  decide (v.min.x ≤ v.max.x) && decide (v.min.y ≤ v.max.y) && decide (v.min.z ≤ v.max.z)

/-- The point of the box nearest to `p`, or `none` if the corners are out of order. -/
def clamp? (v : Volume) (p : Vec3) : Option Vec3 :=
  if v.isOrdered then some (v.clamp p) else none

/-- The box as it stands in the text that identifies a configuration. -/
def literal (v : Volume) : String :=
  "Volume \x7b min: " ++ v.min.literal ++ ", max: " ++ v.max.literal ++ " \x7d"

end Volume

end SpatialComputer
