import SpatialComputer.Program.Scripted
import SpatialComputer.Proofs.Neighborhood.CheckedQuery

/-!
# What the cells answer

Neighbours by way of the cells are the neighbours by distance that are filed in the box around the device, or all of them where some device has no cell or the box lacks a corner. So the cells can leave a neighbour out, but they add none, repeat none and keep the order, whatever the grid held before it was built from the current positions.
-/

namespace SpatialComputer

open CellGrid

variable {U : Type} {devices : Array (Device U)} {cellSize : Float} {i : Nat} {d : Device U}

/-- Whether a device has a cell of its own in a box. -/
def Device.filedIn (cellSize : Float) (box : CellBox) (d : Device U) : Bool :=
  (cellOf cellSize d.position).any box.contains

private theorem inBox_eq_filedIn (cellSize : Float) (box : CellBox) (devices : Array (Device U)) (j : Nat) :
    inBox cellSize (devices.toList.map Device.position) box j =
      devices[j]?.any (Device.filedIn cellSize box) := by
  rw [inBox, List.getElem?_map, Array.getElem?_toList]
  cases devices[j]? <;> rfl

private theorem pairwise_idsAt (hids : (devices.toList.map Device.id).Pairwise (· < ·)) {places : List Nat}
    (hplaces : places.Pairwise (· < ·)) : (idsAt devices places).Pairwise (· < ·) := by
  refine hplaces.filterMap _ fun j k hjk id hid id' hid' => ?_
  obtain ⟨e, he, rfl⟩ := Option.map_eq_some_iff.mp hid
  obtain ⟨e', he', rfl⟩ := Option.map_eq_some_iff.mp hid'
  have hget : ∀ {l : Nat} {f : Device U}, devices[l]? = some f →
      (devices.toList.map Device.id)[l]? = some f.id := by
    intro l f hf
    rw [List.getElem?_map, Array.getElem?_toList, hf, Option.map_some]
  obtain ⟨hj, hid⟩ := List.getElem?_eq_some_iff.mp (hget he)
  obtain ⟨hk, hid'⟩ := List.getElem?_eq_some_iff.mp (hget he')
  rw [← hid, ← hid']
  exact List.pairwise_iff_getElem.mp hids j k hj hk hjk

/-- The neighbours by distance of the device at `i` that are filed in a box, in the order of the population. -/
def neighborsFiledIn (cellSize : Float) (box : CellBox) (devices : Array (Device U)) (i : Nat) :
    List DeviceId :=
  idsAt devices (((List.range devices.size).filter (isNeighbor devices i)).filter
    fun j => devices[j]?.any (Device.filedIn cellSize box))

theorem neighborsFiledIn_sublist (cellSize : Float) (box : CellBox) (devices : Array (Device U)) (i : Nat) :
    (neighborsFiledIn cellSize box devices i).Sublist (neighborsWithin devices i) :=
  List.filter_sublist.filterMap _

private theorem pairwise_neighborsWithin (hids : (devices.toList.map Device.id).Pairwise (· < ·)) (i : Nat) :
    (neighborsWithin devices i).Pairwise (· < ·) :=
  pairwise_idsAt hids (List.pairwise_lt_range.filter _)

private theorem gridNeighbors_eq_filed (hd : devices[i]? = some d) :
    NeighborIndex.gridNeighbors (currentGrid cellSize devices) devices i =
      match searchBox? cellSize devices d with
      | none => neighborsWithin devices i
      | some box => neighborsFiledIn cellSize box devices i := by
  rw [gridNeighbors_currentGrid hd]
  cases searchBox? cellSize devices d with
  | none => rfl
  | some box =>
    dsimp only
    rw [neighborsFiledIn, List.filter_filter]
    refine congrArg (idsAt devices) (List.filter_congr fun j _ => ?_)
    rw [inBox_eq_filedIn, Bool.and_comm]

namespace NeighborIndex

variable {index : NeighborIndex}

/-- Whether a grid that counts as valid was built from the positions the devices have now, in place of whatever it held. -/
def GridIsCurrent (index : NeighborIndex) (devices : Array (Device U)) : Prop :=
  index.gridValid = true →
    ∃ older : CellGrid, index.grid = older.build (devices.toList.map Device.position)

private theorem GridIsCurrent.grid_ensureGrid (current : index.GridIsCurrent devices) :
    (index.ensureGrid devices).grid = currentGrid index.grid.cellSize devices := by
  unfold ensureGrid
  cases hvalid : index.gridValid with
  | false => rfl
  | true =>
    obtain ⟨older, hbuilt⟩ := current hvalid
    rw [if_pos rfl, hbuilt]
    rfl

/-- By way of the cells, a device whose box has its corners in order gets an answer, and no check on the way fails. If every device has a cell and the box has both corners, the answer is the list of the neighbours by distance that are filed in the box; otherwise it is the list of all of them. Either way it leaves the list of all neighbours in its order, and it ascends if the ids of the population do. -/
theorem compute_by_cells (hstrategy : index.strategy = .grid) (hd : devices[i]? = some d)
    (current : index.GridIsCurrent devices)
    (hordered : ∀ box, index.grid.queryBox d.position d.radius = some box → box.Ordered) :
    ∃ found, index.compute devices i = (found, index.ensureGrid devices) ∧
      index.compute? devices i = some (found, index.ensureGrid devices) ∧
      (∀ box, (∀ e ∈ devices, (cellOf index.grid.cellSize e.position).isSome = true) →
        index.grid.queryBox d.position d.radius = some box →
          found = neighborsFiledIn index.grid.cellSize box devices i) ∧
      ((∃ e ∈ devices, cellOf index.grid.cellSize e.position = none) ∨
          index.grid.queryBox d.position d.radius = none →
        found = neighborsWithin devices i) ∧
      found.Sublist (neighborsWithin devices i) ∧
      ((devices.toList.map Device.id).Pairwise (· < ·) → found.Pairwise (· < ·)) := by
  have hgrid := current.grid_ensureGrid
  have hbox : ({ cellSize := index.grid.cellSize } : CellGrid).queryBox d.position d.radius =
      index.grid.queryBox d.position d.radius := rfl
  -- In every case the answer is the list of all neighbours with some left out.
  have hsublist : (gridNeighbors (currentGrid index.grid.cellSize devices) devices i).Sublist
      (neighborsWithin devices i) := by
    rw [gridNeighbors_eq_filed hd]
    split
    · exact List.Sublist.refl _
    · exact neighborsFiledIn_sublist _ _ _ _
  refine ⟨gridNeighbors (currentGrid index.grid.cellSize devices) devices i, ?_, ?_, ?_, ?_, hsublist,
    fun hids => (pairwise_neighborsWithin hids i).sublist hsublist⟩
  · simp only [compute, hstrategy, hgrid]
  · simp only [compute?, hstrategy, hgrid, gridNeighbors?_eq hd hordered, Option.map_some]
  · intro box hall hsome
    have hall : (devices.toList.all fun e => (cellOf index.grid.cellSize e.position).isSome) = true :=
      List.all_eq_true.mpr fun e he => hall e (Array.mem_toList_iff.mp he)
    rw [gridNeighbors_eq_filed hd, searchBox?, if_pos hall, hbox, hsome]
  · intro hnone
    have hsearch : searchBox? index.grid.cellSize devices d = none := by
      rw [searchBox?, hbox]
      rcases hnone with ⟨e, he, hcell⟩ | hcorner
      · rw [if_neg]
        intro hall
        simpa [hcell] using List.all_eq_true.mp hall e (Array.mem_toList_iff.mpr he)
      · rw [hcorner, ite_self]
    rw [gridNeighbors_eq_filed hd, hsearch]

/-- Three idle devices in a row. The first is in reach of both others, but the second is filed left of its box. -/
private def edgeTrio : Array (Device ScriptedProcessor) :=
  #[⟨1, 0, 0⟩, ⟨-1e-20, 0, 0⟩, ⟨1.5, 0, 0⟩].mapIdx fun k p =>
    .create (P := Program) (k + 1) none p 1 (ScriptedProcessor.fresh p .idle) ⟨.interval 1, .interval 1⟩ 0 0

/-- In a row of three the first device finds the third and misses the second, also in a grid that held other positions before. -/
theorem compute_by_cells_edgeTrio : ∃ (index : NeighborIndex) (devices : Array (Device ScriptedProcessor)),
    index.strategy = .grid ∧ index.GridIsCurrent devices ∧ neighborsWithin devices 0 = [2, 3] ∧
      (index.compute devices 0).1 = [3] := by
  let stale : CellGrid := ({ cellSize := 1 } : CellGrid).build [.zero, ⟨7, 7, 7⟩]
  let index : NeighborIndex :=
    { strategy := .grid, grid := stale.build (edgeTrio.toList.map Device.position), gridValid := true }
  have current : index.GridIsCurrent edgeTrio := fun _ => ⟨stale, rfl⟩
  have hfacts : (edgeTrio[0]?.map fun d => (index.grid.queryBox d.position d.radius,
      edgeTrio.all fun e => (cellOf index.grid.cellSize e.position).isSome)) =
        some (some ⟨⟨0, -1, -1⟩, ⟨2, 1, 1⟩⟩, true) ∧
      neighborsWithin edgeTrio 0 = [2, 3] ∧
      neighborsFiledIn index.grid.cellSize ⟨⟨0, -1, -1⟩, ⟨2, 1, 1⟩⟩ edgeTrio 0 = [3] := by
    decide +kernel
  obtain ⟨hfirst, hwithin, hfiled⟩ := hfacts
  obtain ⟨d, hd, hseen⟩ := Option.map_eq_some_iff.mp hfirst
  obtain ⟨hbox, hall⟩ := Prod.mk.inj hseen
  have hall : ∀ e ∈ edgeTrio, (cellOf index.grid.cellSize e.position).isSome = true :=
    Array.all_eq_true_iff_forall_mem.mp hall
  have hordered : ∀ box, index.grid.queryBox d.position d.radius = some box → box.Ordered := by
    intro box hbox'
    obtain rfl := Option.some.inj (hbox.symm.trans hbox')
    exact ⟨by decide, by decide, by decide⟩
  obtain ⟨found, hcompute, -, hcells, -⟩ := compute_by_cells rfl hd current hordered
  exact ⟨index, edgeTrio, rfl, current, hwithin, by rw [hcompute, hcells _ hall hbox, hfiled]⟩

end NeighborIndex

end SpatialComputer
