import SpatialComputer.Proofs.Neighborhood.CellOrder
import SpatialComputer.Proofs.Neighborhood.Coherence

/-!
# Queries with their checks

A query looks devices up by their places and counts the cells of a box, and each of these could fail. Here a query is a partial function that has no result as soon as one of them does. If the index is coherent with the devices, and the cells and the radius of the device in question are of positive size, then none of them fails, and the result is that of the query without checks.
-/

namespace SpatialComputer

open Binary64

namespace NeighborIndex

variable {U : Type}

/-- Neighbours by way of a grid, if the cells around the device can be counted and the grid names places of devices only. -/
def gridNeighbors? (grid : CellGrid) (devices : Array (Device U)) (i : Nat) :
    Option (List DeviceId) := do
  let d ← devices[i]?
  if grid.filed ≠ devices.size ∨ (grid.queryBox d.position d.radius).isNone then
    return neighborsWithin devices i
  else
    let candidates ← grid.query? d.position d.radius
    if candidates.all (· < devices.size) then
      return idsAt devices (candidates.filter (isNeighbor devices i))
    else none

def compute? (index : NeighborIndex) (devices : Array (Device U)) (i : Nat) :
    Option (List DeviceId × NeighborIndex) :=
  match index.strategy with
  | .bruteForce => devices[i]?.map fun _ => (neighborsWithin devices i, index)
  | .grid =>
    let index := index.ensureGrid devices
    (gridNeighbors? index.grid devices i).map fun found => (found, index)

/-- A query about the device at `i`, if there is one. -/
def neighborsOf? (index : NeighborIndex) (devices : Array (Device U)) (i : Nat) :
    Option (List DeviceId × NeighborIndex × Array (Device U)) := do
  let d ← devices[i]?
  if index.dirty then return (neighborsWithin devices i, index, devices)
  else match d.neighborCache with
    | some cached => return (cached, index, devices)
    | none =>
      let (found, index) ← index.compute? devices i
      return (found, index, devices.modify i fun d => { d with neighborCache := some found })

variable {index : NeighborIndex} {devices : Array (Device U)} {i : Nat} {d : Device U}

/-- No check fails around a device whose box of cells, if it has one, has its corners in order. -/
theorem gridNeighbors?_eq {cellSize : Float} (hd : devices[i]? = some d)
    (hordered : ∀ box, (currentGrid cellSize devices).queryBox d.position d.radius = some box →
      box.Ordered) :
    gridNeighbors? (currentGrid cellSize devices) devices i =
      some (gridNeighbors (currentGrid cellSize devices) devices i) := by
  unfold gridNeighbors? gridNeighbors
  simp only [hd, Option.bind_eq_bind, Option.bind_some]
  split
  · rfl
  · rename_i hgrid
    rw [not_or, Option.isNone_iff_eq_none] at hgrid
    obtain ⟨box, hbox⟩ := Option.ne_none_iff_exists'.mp hgrid.2
    have hordered := hordered box hbox
    have hbox : ({ cellSize := cellSize } : CellGrid).queryBox d.position d.radius = some box := hbox
    obtain ⟨found, hfound, hplaces⟩ :=
      CellGrid.exists_query?_build (devices.toList.map Device.position) hbox hordered
    have hquery : (currentGrid cellSize devices).query? d.position d.radius = some found := hfound
    have hall : found.all (· < devices.size) = true := by
      rw [List.length_map, Array.length_toList] at hplaces
      exact List.all_eq_true.mpr fun j hj => decide_eq_true (hplaces j hj)
    rw [hquery, Option.bind_some, if_pos hall, Option.getD_some]
    rfl

private theorem compute?_eq (coherent : index.Coherent devices)
    (hcell : FinitePositive index.grid.cellSize) (hd : devices[i]? = some d)
    (hradius : FinitePositive d.radius) : index.compute? devices i = some (index.compute devices i) := by
  unfold compute? compute
  cases index.strategy with
  | bruteForce => simp only [hd, Option.map_some]
  | grid =>
    have hordered : ∀ box, (currentGrid index.grid.cellSize devices).queryBox d.position d.radius =
        some box → box.Ordered := fun _ hbox => CellGrid.queryBox_ordered hcell hradius hbox
    simp only [ensureGrid_grid coherent, gridNeighbors?_eq hd hordered, Option.map_some]

theorem neighborsOf?_eq (coherent : index.Coherent devices)
    (hcell : FinitePositive index.grid.cellSize) (hd : devices[i]? = some d)
    (hradius : FinitePositive d.radius) :
    index.neighborsOf? devices i = some (index.neighborsOf devices i) := by
  unfold neighborsOf? neighborsOf
  simp only [hd, Option.bind_eq_bind, Option.bind_some]
  cases index.dirty with
  | true => rfl
  | false =>
    simp only [Bool.false_eq_true, if_false]
    cases d.neighborCache with
    | some cached => rfl
    | none =>
      simp only [compute?_eq coherent hcell hd hradius, Option.bind_some]
      rfl

end NeighborIndex

end SpatialComputer
