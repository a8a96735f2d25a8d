import SpatialComputer.Binary64.CubeRoot
import SpatialComputer.Geometry.Volume
import SpatialComputer.Sampling.Draw
import SpatialComputer.Word

/-!
# Lattices

A regular lattice over a volume with a seat for every device of a population. Rows, columns and layers follow the proportions of the volume; seats are numbered along the layers first, then along the rows.
-/

namespace SpatialComputer

open Binary64 Sampling

/-- The greatest number that the dimensions of a lattice may reach. -/
def maxCount : Nat := wordBound - 1

/-- A count from a double: truncated, and kept between zero and `maxCount`. -/
def countOf (x : Float) : Nat :=
  (truncateInto 0 maxCount x).toNat

structure Lattice where
  rows : Nat
  columns : Nat
  layers : Nat
deriving DecidableEq, Repr

structure Seat where
  row : Nat
  column : Nat
  layer : Nat
deriving DecidableEq, Repr

namespace Lattice

/-- The least integral double at least `x`, and at least one. -/
def ceilOne (x : Float) : Float := maxNum (ceil x) 1

def forPopulation (population : Nat) (volume : Volume) : Lattice :=
  let n := ofNat (max population 1)
  let w := volume.width
  let h := volume.height
  let d := volume.depth
  let layers := if volume.is3d then ceilOne (cubeRoot (n * d * d / (w * h))) else 1
  let rows := if volume.is3d then ceilOne (layers * h / d) else ceilOne (n.sqrt * (h / w).sqrt)
  let columns := ceilOne (n / (rows * layers))
  { rows := countOf rows, columns := countOf columns, layers := countOf layers }

def seat (lattice : Lattice) (index : Nat) : Seat where
  layer := index % lattice.layers
  row := index / lattice.layers % lattice.rows
  column := index / (lattice.layers * lattice.rows)

/-- The distance of place `k` of `count` from the lower end of an extent. -/
def offset (k : Nat) (extent : Float) (count : Nat) : Float :=
  ofNat k * extent / ofNat count

def seatPosition (lattice : Lattice) (volume : Volume) (seat : Seat) : Vec3 where
  x := volume.min.x + offset seat.column volume.width lattice.columns
  y := volume.min.y + offset seat.row volume.height lattice.rows
  z := volume.min.z + offset seat.layer volume.depth lattice.layers

/-- The position of the device with the given index, if the seats of a column can be counted. -/
def position (lattice : Lattice) (volume : Volume) (index : Nat) : Except Fault Vec3 :=
  if lattice.layers * lattice.rows ≤ maxCount then
    .ok (lattice.seatPosition volume (lattice.seat index))
  else .error .crowdedLattice

end Lattice

end SpatialComputer
