import SpatialComputer.Neighborhood.CellGrid
import SpatialComputer.Neighborhood.Radius

/-!
# The neighbour index

Neighbours are cached on the devices and stay valid until the topology changes. The flag that records a change is raised by whatever moves, adds or re-equips a device, and the next tick lowers it and drops every cache. While the flag is up, answers are computed afresh and not stored.
-/

namespace SpatialComputer

inductive IndexStrategy where
  | bruteForce
  /-- By testing the devices in nearby cells of a grid that is built when the topology has changed. -/
  | grid
deriving DecidableEq, Repr

structure NeighborIndex where
  strategy : IndexStrategy
  grid : CellGrid
  gridValid : Bool := false
  /-- Whether the topology has changed since the caches were last dropped. -/
  dirty : Bool := false

namespace NeighborIndex

variable {U : Type}

def create (strategy : IndexStrategy) (cellSize : Float) : NeighborIndex where
  strategy := strategy
  grid := { cellSize := cellSize }

def markDirty (index : NeighborIndex) : NeighborIndex :=
  { index with dirty := true, gridValid := false }

def markDirtyIf (changed : Bool) (index : NeighborIndex) : NeighborIndex :=
  if changed then index.markDirty else index

/-- Lowers the flag at the start of a tick. If it was up every cache is dropped, and the first result is true. -/
def beginTick (index : NeighborIndex) (devices : Array (Device U)) :
    Bool × NeighborIndex × Array (Device U) :=
  if index.dirty then
    (true, { index with dirty := false, gridValid := false },
      devices.map fun d => { d with neighborCache := none })
  else (false, index, devices)

def ensureGrid (index : NeighborIndex) (devices : Array (Device U)) : NeighborIndex :=
  if index.gridValid then index
  else { index with
    grid := index.grid.build (devices.toList.map Device.position)
    gridValid := true }

/-- The neighbours of the device at `i` by way of a grid. If some device has no cell, or the sphere around the device reaches beyond the cells, every device is tested instead. -/
def gridNeighbors (grid : CellGrid) (devices : Array (Device U)) (i : Nat) : List DeviceId :=
  match devices[i]? with
  | none => []
  | some d =>
    if grid.filed ≠ devices.size ∨ (grid.queryBox d.position d.radius).isNone then
      neighborsWithin devices i
    else
      let candidates := (grid.query? d.position d.radius).getD []
      idsAt devices (candidates.filter (isNeighbor devices i))

def compute (index : NeighborIndex) (devices : Array (Device U)) (i : Nat) :
    List DeviceId × NeighborIndex :=
  match index.strategy with
  | .bruteForce => (neighborsWithin devices i, index)
  | .grid =>
    let index := index.ensureGrid devices
    (gridNeighbors index.grid devices i, index)

/-- Neighbours of the device at `i`, from its cache if there is one. What had to be computed is cached unless the topology flag is up. -/
def neighborsOf (index : NeighborIndex) (devices : Array (Device U)) (i : Nat) :
    List DeviceId × NeighborIndex × Array (Device U) :=
  if index.dirty then (neighborsWithin devices i, index, devices)
  else match (devices[i]?).bind Device.neighborCache with
    | some cached => (cached, index, devices)
    | none =>
      let (found, index) := index.compute devices i
      (found, index, devices.modify i fun d => { d with neighborCache := some found })

end NeighborIndex

end SpatialComputer
