import SpatialComputer.Binary64.Sine
import SpatialComputer.Placement.Lattice
import SpatialComputer.Settings.Rejection

/-!
# Distributions

How the initial devices are spread over the volume. The order of the draws is part of a distribution: a point is drawn z first, then x, then y, and a place on the cylinder takes its angle before its x.
-/

namespace SpatialComputer

open Binary64 Sampling

inductive Distribution where
  /-- Uniformly in the volume; a flat volume holds every device at its lower corner's height. -/
  | uniformRandom
  | fixedPoints (points : List Vec3)
  | grid
  | xGrid
  /-- On the curved surface of a cylinder along x through the middle of the volume. -/
  | cylinder
  /-- At the listed points, of which there must be enough. -/
  | explicit (points : List Vec3)
deriving DecidableEq

namespace Distribution

/-- Checks that a volume has a finite extent that devices can be placed in. -/
def validateVolume (volume : Volume) : Except Rejection Unit :=
  let extent := volume.extent
  if !volume.min.isFinite || !volume.max.isFinite then .error (.distribution .boundsNotFinite)
  else if !extent.isFinite then .error (.distribution (.extentOverflows extent))
  else if extent.x ≤ 0 || extent.y ≤ 0 || extent.z < 0 then
    .error (.distribution (.extentNotPositive extent))
  else .ok ()

/-- Checks that listed points are finite, and reports the first that is not. -/
def checkPoints (points : List Vec3) : Except Rejection Unit :=
  match points.zipIdx.find? fun (point, _) => !point.isFinite with
  | some (point, index) => .error (.distribution (.pointNotFinite index point))
  | none => .ok ()

/-- Checks that a population of the given size can be placed in the volume. -/
def validate (distribution : Distribution) (volume : Volume) (population : Nat) :
    Except Rejection Unit := do
  validateVolume volume
  match distribution with
  | uniformRandom | grid | xGrid => return
  | cylinder => unless volume.is3d do throw (.distribution .flatCylinder)
  | fixedPoints points => checkPoints points
  | explicit points =>
    checkPoints points
    if points.length < population then
      throw (.distribution (.tooFewPoints points.length population))

def uniformIn (volume : Volume) : Draw Vec3 := do
  let z ← if volume.is3d then uniform volume.min.z volume.max.z else pure volume.min.z
  let x ← uniform volume.min.x volume.max.x
  let y ← uniform volume.min.y volume.max.y
  return ⟨x, y, z⟩

def onCylinder (volume : Volume) : Draw Vec3 := do
  let radius := minNum volume.height volume.depth / 2
  let centerY := volume.min.y + volume.height / 2
  let centerZ := volume.min.z + volume.depth / 2
  let theta ← modifyGet angle
  let x ← uniform volume.min.x volume.max.x
  return ⟨x, centerY + radius * cosine theta, centerZ + radius * sine theta⟩

/-- The position of the device with the given index out of a population. -/
def place (distribution : Distribution) (volume : Volume) (population index : Nat) : Draw Vec3 :=
  match distribution with
  | uniformRandom => uniformIn volume
  | fixedPoints points | explicit points =>
    match points[index]? with
    | some point => return point
    | none => uniformIn volume
  | grid => liftExcept ((Lattice.forPopulation population volume).position volume index)
  | xGrid => do
    let seat ← liftExcept ((Lattice.forPopulation population volume).position volume index)
    let y ← uniform volume.min.y volume.max.y
    return ⟨seat.x, y, seat.z⟩
  | cylinder => onCylinder volume
where
  liftExcept (result : Except Fault Vec3) : Draw Vec3 :=
    fun s => (result, s)

end Distribution

end SpatialComputer
