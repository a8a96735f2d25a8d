import SpatialComputer.Proofs.Neighborhood.CellOrder
import SpatialComputer.Proofs.Neighborhood.Coherence
import SpatialComputer.Proofs.Population.Lookup

/-!
# Lists of neighbours

Whatever the strategy, the neighbours of a device are those of the devices it looks at that pass the distance test, in the order of the population. In a numbered population such a list ascends strictly, names registered devices only, and never the device itself.
-/

namespace SpatialComputer

open CellGrid NeighborIndex

variable {U : Type} {devices : Array (Device U)} {strategy : IndexStrategy} {cellSize : Float}
  {i j : Nat} {d other : Device U}

/-- Whether a strategy looks at a device when it is asked for the neighbours of `d`. -/
def looksAt (strategy : IndexStrategy) (cellSize : Float) (devices : Array (Device U))
    (d other : Device U) : Bool :=
  match strategy with
  | .bruteForce => true
  | .grid => match searchBox? cellSize devices d with
    | none => true
    | some box => (cellOf cellSize other.position).any box.contains

/-- Every strategy looks at the devices in the cube around a device. -/
theorem looksAt_of_inCube (hcell : Binary64.FinitePositive cellSize) (hradius : d.radius.isFinite = true)
    (hother : other ∈ devices) (hnear : other.position.InCube d.position d.radius) :
    looksAt strategy cellSize devices d other = true := by
  unfold looksAt
  cases strategy with
  | bruteForce => rfl
  | grid =>
    cases hbox : searchBox? cellSize devices d with
    | none => rfl
    | some box =>
      obtain ⟨hfiled, hbox⟩ := Option.ite_none_right_eq_some.mp hbox
      obtain ⟨cell, hcellOf⟩ :=
        Option.isSome_iff_exists.mp (List.all_eq_true.mp hfiled other (Array.mem_toList_iff.mpr hother))
      simp only [hcellOf, Option.any_some]
      exact queryBox_contains_of_inCube hcell hradius hbox hcellOf hnear

theorem isNeighbor_of_some (hd : devices[i]? = some d) (hother : devices[j]? = some other) :
    isNeighbor devices i j = (i != j && withinRadius d.position other.position d.radius) := by
  simp only [isNeighbor, hd, hother]

private theorem filter_isNeighbor (i : Nat) (keep keep' : Nat → Bool)
    (h : ∀ j other, devices[j]? = some other → keep j = keep' j) :
    (List.range devices.size).filter (fun j => isNeighbor devices i j && keep j) =
      (List.range devices.size).filter fun j => isNeighbor devices i j && keep' j := by
  refine List.filter_congr fun j hj => ?_
  rw [h j _ (Array.getElem?_eq_getElem (List.mem_range.mp hj))]

theorem findNeighbors_eq (strategy : IndexStrategy) (cellSize : Float) (hd : devices[i]? = some d) :
    findNeighbors strategy cellSize devices i =
      idsAt devices ((List.range devices.size).filter fun j =>
        isNeighbor devices i j && devices[j]?.any (looksAt strategy cellSize devices d)) := by
  have hall : neighborsWithin devices i =
      idsAt devices ((List.range devices.size).filter fun j =>
        isNeighbor devices i j && devices[j]?.any fun _ => true) := by
    have hsame := filter_isNeighbor i (fun _ => true) (fun j => devices[j]?.any fun _ => true)
      fun j other hother => by rw [hother]; rfl
    rw [← hsame]
    simp only [Bool.and_true, neighborsWithin]
  cases strategy with
  | bruteForce => exact hall
  | grid =>
    rw [findNeighbors, gridNeighbors_currentGrid hd]
    unfold looksAt
    cases searchBox? cellSize devices d with
    | none => exact hall
    | some box =>
      refine congrArg (idsAt devices) (filter_isNeighbor i _ _ fun j other hother => ?_)
      rw [inBox, List.getElem?_map, Array.getElem?_toList, hother]
      rfl

/-! ### In a numbered population -/

theorem idsAt_numbered (numbered : Numbered devices) {indices : List Nat}
    (hlt : ∀ j ∈ indices, j < devices.size) : idsAt devices indices = indices.map (· + 1) := by
  unfold idsAt
  rw [← List.filterMap_eq_map]
  refine List.filterMap_congr fun j hj => ?_
  have hget := Array.getElem?_eq_getElem (hlt j hj)
  rw [hget, Option.map_some, numbered j _ hget]
  rfl

private theorem findNeighbors_numbered (numbered : Numbered devices) (strategy : IndexStrategy)
    (cellSize : Float) (hd : devices[i]? = some d) :
    findNeighbors strategy cellSize devices i =
      ((List.range devices.size).filter fun j =>
        isNeighbor devices i j && devices[j]?.any (looksAt strategy cellSize devices d)).map (· + 1) := by
  rw [findNeighbors_eq strategy cellSize hd]
  exact idsAt_numbered numbered fun j hj => List.mem_range.mp (List.mem_filter.mp hj).1

theorem mem_findNeighbors_iff (numbered : Numbered devices) (hd : devices[i]? = some d)
    (hother : devices[j]? = some other) :
    other.id ∈ findNeighbors strategy cellSize devices i ↔
      i ≠ j ∧ withinRadius d.position other.position d.radius = true ∧
        looksAt strategy cellSize devices d other = true := by
  have hj : j < devices.size := (Array.getElem?_eq_some_iff.mp hother).1
  rw [findNeighbors_numbered numbered strategy cellSize hd, numbered j other hother,
    List.mem_map_of_injective Nat.succ_injective, List.mem_filter, List.mem_range,
    isNeighbor_of_some hd hother, hother]
  simp only [hj, true_and, Option.any_some, Bool.and_eq_true, bne_iff_ne, ne_eq, and_assoc]

theorem pairwise_findNeighbors (numbered : Numbered devices) (strategy : IndexStrategy)
    (cellSize : Float) (hd : devices[i]? = some d) :
    (findNeighbors strategy cellSize devices i).Pairwise (· < ·) := by
  rw [findNeighbors_numbered numbered strategy cellSize hd, List.pairwise_map]
  exact (List.pairwise_lt_range.filter _).imp Nat.succ_lt_succ

/-- A list of neighbours names registered devices other than the one it belongs to. -/
theorem exists_of_mem_findNeighbors (numbered : Numbered devices) (hd : devices[i]? = some d)
    {id : DeviceId} (hid : id ∈ findNeighbors strategy cellSize devices i) :
    ∃ j other, j ≠ i ∧ devices[j]? = some other ∧ other.id = id ∧
      Population.indexIn devices id = some j := by
  rw [findNeighbors_numbered numbered strategy cellSize hd] at hid
  obtain ⟨j, hj, rfl⟩ := List.mem_map.mp hid
  obtain ⟨hlt, htest⟩ := List.mem_filter.mp hj
  have hother := Array.getElem?_eq_getElem (List.mem_range.mp hlt)
  have hne : i ≠ j := by
    rw [isNeighbor_of_some hd hother, Bool.and_eq_true, Bool.and_eq_true, bne_iff_ne] at htest
    exact htest.1.1
  exact ⟨j, _, hne.symm, hother, numbered j _ hother,
    (Population.indexIn_eq_some_iff numbered).mpr ⟨List.mem_range.mp hlt, rfl⟩⟩

end SpatialComputer
