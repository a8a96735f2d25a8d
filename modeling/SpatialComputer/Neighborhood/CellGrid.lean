import Std.Data.HashMap
import SpatialComputer.Geometry.Vec3

/-!
# The cell grid

Space is cut into cubic cells of one size, and every entity is filed under the cell of its position. A query takes the box of cells around a sphere and answers with every entity filed in it; whoever asks applies the exact distance test. Coordinates that are not finite, or whose cell number does not fit in 32 bits, have no cell.
-/

namespace SpatialComputer

open Binary64

@[ext]
structure Cell where
  x : Int
  y : Int
  z : Int
deriving DecidableEq, Hashable, Repr

/-- A box of cells between two corners, both included. -/
structure CellBox where
  low : Cell
  high : Cell
deriving DecidableEq, Repr

def CellBox.contains (box : CellBox) (c : Cell) : Bool :=
  decide (box.low.x ≤ c.x) && decide (c.x ≤ box.high.x) &&
  decide (box.low.y ≤ c.y) && decide (c.y ≤ box.high.y) &&
  decide (box.low.z ≤ c.z) && decide (c.z ≤ box.high.z)

def intRange (low high : Int) : List Int :=
  (List.range (high + 1 - low).toNat).map fun (k : Nat) => low + k

def CellBox.cells (box : CellBox) : List Cell :=
  (intRange box.low.z box.high.z).flatMap fun z =>
    (intRange box.low.y box.high.y).flatMap fun y =>
      (intRange box.low.x box.high.x).map fun x => ⟨x, y, z⟩

/-- The least number that does not fit in 128 bits, in which the cells of a box are counted. -/
def countBound : Nat := 0x100000000000000000000000000000000

/-- The length of a box along one axis. A box is never longer than the range of cell numbers, but corners in reverse order count as a length just below `countBound`. -/
def span (low high : Int) : Nat :=
  ((high - low + 1) % countBound).toNat

/-- The number of cells of a box, or `none` if it does not fit in 128 bits. -/
def CellBox.size? (box : CellBox) : Option Nat :=
  let plane := span box.low.x box.high.x * span box.low.y box.high.y
  if plane < countBound then
    let size := plane * span box.low.z box.high.z
    if size < countBound then some size else none
  else none

structure CellGrid where
  cellSize : Float
  cells : Std.HashMap Cell (List Nat) := {}
  filed : Nat := 0

namespace CellGrid

/-- The least and the greatest number of a cell along an axis. -/
def leastCell : Int := -0x80000000

@[inherit_doc leastCell]
def greatestCell : Int := 0x7fffffff

/-- The cell number of a coordinate. A quotient that is not a number, as of a zero by a zero, counts as cell zero. -/
def axisCell (cellSize v : Float) : Option Int :=
  if !v.isFinite then none
  else match value (v / cellSize) with
    | .nan => some 0
    | .infinite _ => none
    | .finite negative mantissa exponent =>
      let number := floorInt negative mantissa exponent
      if leastCell ≤ number ∧ number ≤ greatestCell then some number else none

def cellOf (cellSize : Float) (p : Vec3) : Option Cell := do
  let x ← axisCell cellSize p.x
  let y ← axisCell cellSize p.y
  let z ← axisCell cellSize p.z
  return ⟨x, y, z⟩

/-- Files an entity under its cell. Entities are filed in descending order, so the lists ascend. -/
def file (cellSize : Float) (cells : Std.HashMap Cell (List Nat)) (entry : Vec3 × Nat) :
    Std.HashMap Cell (List Nat) :=
  match cellOf cellSize entry.1 with
  | none => cells
  | some cell => cells.insert cell (entry.2 :: cells.getD cell [])

/-- The grid with the given positions filed in place of whatever it held; entity `i` is at position `i`. -/
def build (grid : CellGrid) (positions : List Vec3) : CellGrid where
  cellSize := grid.cellSize
  cells := positions.zipIdx.reverse.foldl (file grid.cellSize) {}
  filed := positions.countP fun p => (cellOf grid.cellSize p).isSome

/-- The box of cells around a sphere, or `none` if a corner has no cell. -/
def queryBox (grid : CellGrid) (center : Vec3) (radius : Float) : Option CellBox := do
  let extent : Vec3 := ⟨radius, radius, radius⟩
  let low ← cellOf grid.cellSize (center - extent)
  let high ← cellOf grid.cellSize (center + extent)
  return ⟨low, high⟩

/-- The entities in a box, found by looking at every occupied cell. -/
def scan (grid : CellGrid) (box : CellBox) : List Nat :=
  grid.cells.toList.flatMap fun (cell, entities) => if box.contains cell then entities else []

/-- The entities in a box, found by looking up every cell of the box. -/
def enumerate (grid : CellGrid) (box : CellBox) : List Nat :=
  box.cells.flatMap fun cell => grid.cells.getD cell []

/-- The entities around a sphere, cell by cell. A box with more cells than are occupied is answered by scanning the occupied ones. The answer is `none` when the size of the box cannot be counted. -/
def candidates? (grid : CellGrid) (center : Vec3) (radius : Float) : Option (List Nat) :=
  match grid.queryBox center radius with
  | none => some []
  | some box => do
    let size ← box.size?
    return if grid.cells.size < size then grid.scan box else grid.enumerate box

def query? (grid : CellGrid) (center : Vec3) (radius : Float) : Option (List Nat) :=
  (grid.candidates? center radius).map List.mergeSort

end CellGrid

end SpatialComputer
