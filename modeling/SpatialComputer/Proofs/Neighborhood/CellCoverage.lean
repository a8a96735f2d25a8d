import SpatialComputer.Proofs.Neighborhood.CellQuery
import SpatialComputer.Proofs.Neighborhood.Sites

/-!
# What the cells leave out

The distance test and the cells round differently: the test compares a rounded sum of squares, while the cells of the box come from the rounded corners of a cube around the device. So a device can pass the test although its cell lies outside the box, and is then not found by way of the cells. Apart from such devices the cells find exactly the neighbours by distance, in the same order.
-/

namespace SpatialComputer

open CellGrid NeighborIndex

variable {U : Type}

/-- The grid over the positions that the devices have now. -/
def currentGrid (cellSize : Float) (devices : Array (Device U)) : CellGrid :=
  ({ cellSize := cellSize } : CellGrid).build (devices.toList.map Device.position)

/-- The box of cells in which neighbours of `d` are looked for, or `none` if every device is tested instead. -/
def searchBox? (cellSize : Float) (devices : Array (Device U)) (d : Device U) : Option CellBox :=
  if devices.toList.all fun e => (cellOf cellSize e.position).isSome then
    ({ cellSize := cellSize } : CellGrid).queryBox d.position d.radius
  else none

/-- Every device that passes the distance test from the device at `i` has its cell in the box in which neighbours are looked for. -/
def Covered (cellSize : Float) (devices : Array (Device U)) (i : Nat) : Prop :=
  ∀ (d : Device U) (box : CellBox), devices[i]? = some d → searchBox? cellSize devices d = some box →
    ∀ (j : Nat) (e : Device U), devices[j]? = some e → isNeighbor devices i j = true →
      ∃ cell, cellOf cellSize e.position = some cell ∧ box.contains cell = true

theorem Covered.congr {cellSize : Float} {devices devices' : Array (Device U)} {i : Nat}
    (same : sites devices' = sites devices) (h : Covered cellSize devices i) :
    Covered cellSize devices' i := by
  have hsite : ∀ (k : Nat) (d' : Device U), devices'[k]? = some d' →
      ∃ d, devices[k]? = some d ∧ d.position = d'.position ∧ d.radius = d'.radius := by
    intro k d' hd'
    have hk : (sites devices)[k]? = some d'.site := by
      rw [← same, getElem?_sites, hd']
      rfl
    rw [getElem?_sites, Option.map_eq_some_iff] at hk
    obtain ⟨d, hd, hsite⟩ := hk
    exact ⟨d, hd, congrArg Site.position hsite, congrArg Site.radius hsite⟩
  have hall : (devices'.toList.all fun e => (cellOf cellSize e.position).isSome) =
      devices.toList.all fun e => (cellOf cellSize e.position).isSome := by
    have hpositions := congrArg (List.all · fun p => (cellOf cellSize p).isSome) (positions_congr same)
    simpa only [List.all_map, Function.comp_def] using hpositions
  intro d' box hd' hbox j e' he' htest
  obtain ⟨d, hd, hposition, hradius⟩ := hsite i d' hd'
  obtain ⟨e, he, hcell, -⟩ := hsite j e' he'
  rw [← hcell]
  refine h d box hd ?_ j e he ?_
  · rw [← hbox, searchBox?, searchBox?, hall, hposition, hradius]
  · rw [← htest, isNeighbor_congr same]

variable {cellSize : Float} {devices : Array (Device U)} {i : Nat} {d : Device U}

private theorem filed_currentGrid :
    (currentGrid cellSize devices).filed = devices.size ↔
      (devices.toList.all fun e => (cellOf cellSize e.position).isSome) = true := by
  have hlength : (devices.toList.map Device.position).length = devices.size := by simp
  rw [currentGrid, build, ← hlength, List.countP_eq_length, List.all_eq_true]
  simp

/-- Neighbours by way of the cells are the neighbours by distance whose cell lies in the box, in the same order; without a box every device is tested. -/
theorem gridNeighbors_currentGrid (hd : devices[i]? = some d) :
    gridNeighbors (currentGrid cellSize devices) devices i =
      match searchBox? cellSize devices d with
      | none => neighborsWithin devices i
      | some box => idsAt devices ((List.range devices.size).filter fun j =>
          isNeighbor devices i j && inBox cellSize (devices.toList.map Device.position) box j) := by
  have hquery : (currentGrid cellSize devices).queryBox d.position d.radius =
      ({ cellSize := cellSize } : CellGrid).queryBox d.position d.radius := rfl
  unfold gridNeighbors
  simp only [hd]
  by_cases hall : (devices.toList.all fun e => (cellOf cellSize e.position).isSome) = true
  · rw [searchBox?, if_pos hall, hquery]
    cases hbox : ({ cellSize := cellSize } : CellGrid).queryBox d.position d.radius with
    | none => simp
    | some box =>
      have hfound := query?_build (devices.toList.map Device.position) hbox
      rw [List.length_map, Array.length_toList] at hfound
      rw [if_neg (by simp [filed_currentGrid.mpr hall]), currentGrid, hfound, List.filter_filter]
  · rw [searchBox?, if_neg hall, if_pos (Or.inl fun hfiled => hall (filed_currentGrid.mp hfiled))]

private theorem length_idsAt {indices : List Nat} (hlt : ∀ j ∈ indices, j < devices.size) :
    (idsAt devices indices).length = indices.length := by
  induction indices with
  | nil => rfl
  | cons j indices ih =>
    have hj : j < devices.size := hlt j List.mem_cons_self
    have hrest := ih fun k hk => hlt k (List.mem_cons_of_mem j hk)
    simp only [idsAt] at hrest
    simp [idsAt, hj, hrest]

private theorem idsAt_filter_eq_iff {keep keep' : Nat → Bool} :
    idsAt devices ((List.range devices.size).filter fun j => keep j && keep' j) =
        idsAt devices ((List.range devices.size).filter keep) ↔
      ∀ j < devices.size, keep j = true → keep' j = true := by
  have hboth : ((List.range devices.size).filter fun j => keep j && keep' j) =
      ((List.range devices.size).filter keep).filter keep' := by
    rw [List.filter_filter]
    exact List.filter_congr fun j _ => Bool.and_comm _ _
  have hlt : ∀ j ∈ (List.range devices.size).filter keep, j < devices.size := by
    intro j hj
    exact List.mem_range.mp (List.mem_filter.mp hj).1
  constructor
  · intro heq j hj hkeep
    have hlength := congrArg List.length heq
    rw [hboth, length_idsAt fun k hk => hlt k (List.mem_filter.mp hk).1, length_idsAt hlt,
      List.length_filter_eq_length_iff] at hlength
    exact hlength j (List.mem_filter.mpr ⟨List.mem_range.mpr hj, hkeep⟩)
  · intro himp
    rw [hboth, List.filter_eq_self.mpr]
    intro j hj
    exact himp j (hlt j hj) (List.mem_filter.mp hj).2

private theorem covered_iff (hd : devices[i]? = some d) :
    Covered cellSize devices i ↔ ∀ box, searchBox? cellSize devices d = some box →
      ∀ j < devices.size, isNeighbor devices i j = true →
        inBox cellSize (devices.toList.map Device.position) box j = true := by
  have hcell : ∀ (j : Nat) (e : Device U), devices[j]? = some e →
      (devices.toList.map Device.position)[j]?.bind (cellOf cellSize) = cellOf cellSize e.position := by
    intro j e he
    rw [List.getElem?_map, Array.getElem?_toList, he]
    rfl
  constructor
  · intro hcovered box hbox j hj htest
    obtain ⟨cell, he, hcontains⟩ :=
      hcovered d box hd hbox j _ (Array.getElem?_eq_getElem hj) htest
    exact inBox_iff.mpr ⟨cell, hcontains, (hcell j _ (Array.getElem?_eq_getElem hj)).trans he⟩
  · intro hin d' box hd' hbox j e he htest
    obtain rfl := Option.some.inj (hd.symm.trans hd')
    obtain ⟨cell, hcontains, hfiled⟩ :=
      inBox_iff.mp (hin box hbox j (Array.getElem?_eq_some_iff.mp he).1 htest)
    exact ⟨cell, (hcell j e he).symm.trans hfiled, hcontains⟩

/-- The cells find the neighbours by distance exactly where they cover them. -/
theorem gridNeighbors_eq_iff (cellSize : Float) (devices : Array (Device U)) (i : Nat) :
    gridNeighbors (currentGrid cellSize devices) devices i = neighborsWithin devices i ↔
      Covered cellSize devices i := by
  cases hd : devices[i]? with
  | none =>
    have htest : ∀ j, isNeighbor devices i j = false := by
      intro j
      simp [isNeighbor, hd]
    have hfilter : (List.range devices.size).filter (isNeighbor devices i) = [] :=
      List.filter_eq_nil_iff.mpr fun j _ => by simp [htest j]
    simp [gridNeighbors, Covered, neighborsWithin, hd, hfilter, idsAt]
  | some d =>
    rw [gridNeighbors_currentGrid hd, covered_iff hd]
    cases hbox : searchBox? cellSize devices d with
    | none => simp
    | some box => simp [neighborsWithin, idsAt_filter_eq_iff]

end SpatialComputer
