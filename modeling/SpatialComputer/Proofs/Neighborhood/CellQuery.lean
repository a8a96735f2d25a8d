import Mathlib.Data.List.Sort
import SpatialComputer.Neighborhood.CellGrid

/-!
# Queries on the cell grid

A grid that was built from a list of positions answers a query with the entities whose own cell lies in the box around the sphere, each once and in ascending order. Scanning the occupied cells and looking up every cell of the box come to the same, and a box whose cells cannot be counted holds no cell at all.
-/

namespace SpatialComputer

/-! ### The cells of a box -/

theorem mem_intRange {low high n : Int} : n ∈ intRange low high ↔ low ≤ n ∧ n ≤ high := by
  simp only [intRange, List.mem_map, List.mem_range]
  constructor
  · rintro ⟨k, hk, rfl⟩
    omega
  · rintro ⟨hlow, hhigh⟩
    exact ⟨(n - low).toNat, by omega, by omega⟩

theorem nodup_intRange (low high : Int) : (intRange low high).Nodup := by
  refine List.Nodup.map ?_ List.nodup_range
  intro j k hjk
  have hsum : low + (j : Int) = low + (k : Int) := hjk
  omega

namespace CellBox

theorem contains_iff {box : CellBox} {c : Cell} :
    box.contains c = true ↔ (box.low.x ≤ c.x ∧ c.x ≤ box.high.x) ∧
      (box.low.y ≤ c.y ∧ c.y ≤ box.high.y) ∧ (box.low.z ≤ c.z ∧ c.z ≤ box.high.z) := by
  simp only [contains, Bool.and_eq_true, decide_eq_true_eq]
  tauto

/-- Whether the corners of a box are in order along every axis. -/
structure Ordered (box : CellBox) : Prop where
  x : box.low.x ≤ box.high.x
  y : box.low.y ≤ box.high.y
  z : box.low.z ≤ box.high.z

theorem ordered_of_contains {box : CellBox} {c : Cell} (hc : box.contains c = true) : box.Ordered := by
  obtain ⟨hx, hy, hz⟩ := contains_iff.mp hc
  exact ⟨hx.1.trans hx.2, hy.1.trans hy.2, hz.1.trans hz.2⟩

theorem mem_cells {box : CellBox} {c : Cell} : c ∈ box.cells ↔ box.contains c = true := by
  simp only [cells, List.mem_flatMap, List.mem_map, mem_intRange, contains_iff]
  constructor
  · rintro ⟨z, hz, y, hy, x, hx, rfl⟩
    exact ⟨hx, hy, hz⟩
  · rintro ⟨hx, hy, hz⟩
    exact ⟨c.z, hz, c.y, hy, c.x, hx, rfl⟩

theorem nodup_cells (box : CellBox) : box.cells.Nodup := by
  have hrow : ∀ z y : Int, ((intRange box.low.x box.high.x).map fun x => (⟨x, y, z⟩ : Cell)).Nodup := by
    intro z y
    refine List.Nodup.map ?_ (nodup_intRange _ _)
    intro x x' h
    exact congrArg Cell.x h
  refine List.nodup_flatMap.mpr ⟨fun z _ => List.nodup_flatMap.mpr ⟨fun y _ => hrow z y, ?_⟩, ?_⟩
  · refine (nodup_intRange _ _).imp fun hne => ?_
    intro c hc hc'
    simp only [List.mem_map] at hc hc'
    obtain ⟨x, -, rfl⟩ := hc
    obtain ⟨x', -, h⟩ := hc'
    exact hne (congrArg Cell.y h).symm
  · refine (nodup_intRange _ _).imp fun hne => ?_
    intro c hc hc'
    simp only [List.mem_flatMap, List.mem_map] at hc hc'
    obtain ⟨y, -, x, -, rfl⟩ := hc
    obtain ⟨y', -, x', -, h⟩ := hc'
    exact hne (congrArg Cell.z h).symm

end CellBox

namespace CellGrid

/-- A cell whose numbers fit in 32 bits. -/
def Counted (c : Cell) : Prop :=
  (leastCell ≤ c.x ∧ c.x ≤ greatestCell) ∧ (leastCell ≤ c.y ∧ c.y ≤ greatestCell) ∧
    (leastCell ≤ c.z ∧ c.z ≤ greatestCell)

private theorem axisCell_counted {cellSize v : Float} {n : Int} (h : axisCell cellSize v = some n) :
    leastCell ≤ n ∧ n ≤ greatestCell := by
  unfold axisCell at h
  split at h
  · simp at h
  · split at h
    · obtain rfl := Option.some.inj h
      decide
    · simp at h
    · dsimp only at h
      split at h
      · obtain rfl := Option.some.inj h
        assumption
      · simp at h

theorem cellOf_eq_some_iff {cellSize : Float} {p : Vec3} {c : Cell} :
    cellOf cellSize p = some c ↔ axisCell cellSize p.x = some c.x ∧
      axisCell cellSize p.y = some c.y ∧ axisCell cellSize p.z = some c.z := by
  unfold cellOf
  cases axisCell cellSize p.x <;> cases axisCell cellSize p.y <;> cases axisCell cellSize p.z <;>
    simp [Cell.ext_iff]

theorem cellOf_counted {cellSize : Float} {p : Vec3} {c : Cell} (h : cellOf cellSize p = some c) :
    Counted c := by
  rw [cellOf_eq_some_iff] at h
  exact ⟨axisCell_counted h.1, axisCell_counted h.2.1, axisCell_counted h.2.2⟩

theorem queryBox_counted {grid : CellGrid} {center : Vec3} {radius : Float} {box : CellBox}
    (h : grid.queryBox center radius = some box) : Counted box.low ∧ Counted box.high := by
  simp only [queryBox, Option.bind_eq_bind, Option.pure_def, Option.bind_eq_some_iff,
    Option.some.injEq] at h
  obtain ⟨low, hlow, high, hhigh, rfl⟩ := h
  exact ⟨cellOf_counted hlow, cellOf_counted hhigh⟩

private theorem span_eq {low high : Int} (hlow : leastCell ≤ low) (horder : low ≤ high)
    (hhigh : high ≤ greatestCell) :
    span low high = (intRange low high).length ∧ span low high ≤ 0x100000000 := by
  simp only [leastCell, greatestCell] at hlow hhigh
  unfold span intRange
  rw [Int.emod_eq_of_lt (by omega) (by simp only [countBound]; omega), List.length_map,
    List.length_range]
  omega

private theorem length_cells (box : CellBox) : box.cells.length =
    (intRange box.low.x box.high.x).length * (intRange box.low.y box.high.y).length *
      (intRange box.low.z box.high.z).length := by
  simp only [CellBox.cells, List.length_flatMap, List.length_map, List.map_const', List.sum_replicate_nat]
  rw [Nat.mul_comm, Nat.mul_comm (intRange box.low.y box.high.y).length]

theorem size?_eq {box : CellBox} (hlow : Counted box.low) (hhigh : Counted box.high)
    (hordered : box.Ordered) : box.size? = some box.cells.length := by
  obtain ⟨hxs, hx⟩ := span_eq hlow.1.1 hordered.x hhigh.1.2
  obtain ⟨hys, hy⟩ := span_eq hlow.2.1.1 hordered.y hhigh.2.1.2
  obtain ⟨hzs, hz⟩ := span_eq hlow.2.2.1 hordered.z hhigh.2.2.2
  have hplane : span box.low.x box.high.x * span box.low.y box.high.y ≤ 0x100000000 * 0x100000000 :=
    Nat.mul_le_mul hx hy
  have hsize := Nat.mul_le_mul hplane hz
  unfold CellBox.size?
  simp only
  rw [if_pos (Nat.lt_of_le_of_lt hplane (by decide)),
    if_pos (Nat.lt_of_le_of_lt hsize (by decide)), length_cells, hxs, hys, hzs]

/-! ### What is filed where -/

/-- The entities of the given cell, in the order of the entries. -/
def filedAt (cellSize : Float) (entries : List (Vec3 × Nat)) (cell : Cell) : List Nat :=
  (entries.filter fun entry => cellOf cellSize entry.1 = some cell).map Prod.snd

private theorem getD_foldl_file (cellSize : Float) (cell : Cell) (entries : List (Vec3 × Nat)) :
    ∀ cells : Std.HashMap Cell (List Nat),
      (entries.foldl (file cellSize) cells).getD cell [] =
        (filedAt cellSize entries cell).reverse ++ cells.getD cell [] := by
  induction entries with
  | nil => intro cells; rfl
  | cons entry entries ih =>
    intro cells
    rw [List.foldl_cons, ih, file]
    cases hcell : cellOf cellSize entry.1 with
    | none => simp [filedAt, hcell]
    | some own =>
      rw [Std.HashMap.getD_insert]
      by_cases hown : own = cell
      · simp [filedAt, hcell, hown]
      · simp [filedAt, hcell, hown]

/-- Entities are filed in descending order, so each list of the grid ascends. -/
theorem getD_build (grid : CellGrid) (positions : List Vec3) (cell : Cell) :
    (grid.build positions).cells.getD cell [] = filedAt grid.cellSize positions.zipIdx cell := by
  have hfile := getD_foldl_file grid.cellSize cell positions.zipIdx.reverse {}
  rw [Std.HashMap.getD_empty, List.append_nil] at hfile
  rw [build, hfile, filedAt, filedAt, List.filter_reverse, List.map_reverse, List.reverse_reverse]

theorem mem_filedAt {cellSize : Float} {positions : List Vec3} {cell : Cell} {i : Nat} :
    i ∈ filedAt cellSize positions.zipIdx cell ↔
      positions[i]?.bind (cellOf cellSize) = some cell := by
  simp only [filedAt, List.mem_map, List.mem_filter, decide_eq_true_eq, Option.bind_eq_some_iff]
  constructor
  · rintro ⟨⟨p, k⟩, ⟨hp, hcell⟩, rfl⟩
    exact ⟨p, List.mem_zipIdx_iff_getElem?.mp hp, hcell⟩
  · rintro ⟨p, hp, hcell⟩
    exact ⟨(p, i), ⟨List.mem_zipIdx_iff_getElem?.mpr hp, hcell⟩, rfl⟩

theorem nodup_filedAt (cellSize : Float) (positions : List Vec3) (cell : Cell) :
    (filedAt cellSize positions.zipIdx cell).Nodup := by
  have hall : (positions.zipIdx.map Prod.snd).Nodup := by
    rw [List.zipIdx_map_snd]
    exact List.nodup_range'
  exact hall.sublist (List.filter_sublist.map Prod.snd)

/-! ### Both ways of answering -/

variable {grid : CellGrid} {positions : List Vec3} {box : CellBox}

/-- Whether the entity with the given number is filed under a cell of the box. -/
def inBox (cellSize : Float) (positions : List Vec3) (box : CellBox) (i : Nat) : Bool :=
  (positions[i]?.bind (cellOf cellSize)).any box.contains

theorem inBox_iff {cellSize : Float} {i : Nat} : inBox cellSize positions box i = true ↔
    ∃ cell, box.contains cell = true ∧ positions[i]?.bind (cellOf cellSize) = some cell := by
  simp only [inBox, Option.any_eq_true]
  constructor
  · rintro ⟨cell, hcell, hbox⟩
    exact ⟨cell, hbox, hcell⟩
  · rintro ⟨cell, hbox, hcell⟩
    exact ⟨cell, hcell, hbox⟩

private theorem disjoint_filedAt {cellSize : Float} {cell cell' : Cell} (hne : cell ≠ cell') :
    List.Disjoint (filedAt cellSize positions.zipIdx cell)
      (filedAt cellSize positions.zipIdx cell') := by
  intro i hi hi'
  rw [mem_filedAt] at hi hi'
  exact hne (Option.some.inj (hi.symm.trans hi'))

/-- A cell is occupied if some entity is filed under it. -/
def Occupied (cellSize : Float) (positions : List Vec3) (cell : Cell) : Prop :=
  ∃ i, i ∈ filedAt cellSize positions.zipIdx cell

/-- Whether a list of cells has no cell twice, and of the occupied cells just those in the box. -/
structure Visits (cellSize : Float) (positions : List Vec3) (box : CellBox) (cells : List Cell) : Prop where
  nodup : cells.Nodup
  mem_iff : ∀ cell, Occupied cellSize positions cell → (cell ∈ cells ↔ box.contains cell = true)

namespace Visits

variable {cellSize : Float} {cells : List Cell}

theorem nodup_flatMap (visits : Visits cellSize positions box cells) :
    (cells.flatMap (filedAt cellSize positions.zipIdx)).Nodup :=
  List.nodup_flatMap.mpr
    ⟨fun cell _ => nodup_filedAt cellSize positions cell, visits.nodup.imp fun hne => disjoint_filedAt hne⟩

theorem mem_flatMap (visits : Visits cellSize positions box cells) {i : Nat} :
    i ∈ cells.flatMap (filedAt cellSize positions.zipIdx) ↔ inBox cellSize positions box i = true := by
  rw [List.mem_flatMap, inBox_iff]
  refine exists_congr fun cell => ?_
  rw [mem_filedAt]
  exact and_congr_left fun hi => visits.mem_iff cell ⟨i, mem_filedAt.mpr hi⟩

end Visits

private theorem enumerate_build : (grid.build positions).enumerate box =
    box.cells.flatMap (filedAt grid.cellSize positions.zipIdx) := by
  simp only [enumerate, getD_build]

theorem visits_cells (cellSize : Float) (positions : List Vec3) (box : CellBox) :
    Visits cellSize positions box box.cells :=
  ⟨box.nodup_cells, fun _ _ => CellBox.mem_cells⟩

theorem flatMap_ite_contains {α : Type} (cellSize : Float) (positions : List Vec3) (box : CellBox)
    (entries : List (Cell × α)) : (entries.flatMap fun entry =>
        if box.contains entry.1 then filedAt cellSize positions.zipIdx entry.1 else []) =
      ((entries.map Prod.fst).filter box.contains).flatMap (filedAt cellSize positions.zipIdx) := by
  induction entries with
  | nil => rfl
  | cons entry entries ih =>
    rw [List.flatMap_cons, ih, List.map_cons, List.filter_cons]
    cases box.contains entry.1 <;> simp

theorem visits_filter {cellSize : Float} {cells : List Cell} (hnodup : cells.Nodup)
    (hall : ∀ cell, Occupied cellSize positions cell → cell ∈ cells) :
    Visits cellSize positions box (cells.filter box.contains) :=
  ⟨hnodup.filter _, fun cell hcell => by simp [hall cell hcell]⟩

private theorem scan_build : (grid.build positions).scan box =
    (((grid.build positions).cells.toList.map Prod.fst).filter box.contains).flatMap
      (filedAt grid.cellSize positions.zipIdx) := by
  rw [← flatMap_ite_contains, scan]
  refine List.flatMap_congr fun entry hentry => ?_
  have hentities : entry.2 = filedAt grid.cellSize positions.zipIdx entry.1 := by
    rw [Std.HashMap.mem_toList_iff_getElem?_eq_some] at hentry
    rw [← getD_build, Std.HashMap.getD_eq_getD_getElem?, hentry]
    rfl
  dsimp only
  rw [hentities]

private theorem visits_toList : Visits grid.cellSize positions box
    (((grid.build positions).cells.toList.map Prod.fst).filter box.contains) := by
  refine visits_filter ?_ fun cell ⟨i, hi⟩ => ?_
  · rw [Std.HashMap.map_fst_toList_eq_keys]
    exact Std.HashMap.nodup_keys
  · rw [Std.HashMap.map_fst_toList_eq_keys, Std.HashMap.mem_keys]
    by_contra hnone
    rw [← getD_build, Std.HashMap.getD_eq_fallback hnone] at hi
    cases hi

/-! ### The answer -/

private theorem mergeSort_eq_filter_range {found : List Nat} {n : Nat} {keep : Nat → Bool}
    (hnodup : found.Nodup) (hmem : ∀ i, i ∈ found ↔ keep i = true) (hlt : ∀ i, keep i = true → i < n) :
    found.mergeSort = (List.range n).filter keep := by
  have hsorted : found.mergeSort.Pairwise (· ≤ ·) := by
    have h : found.mergeSort.Pairwise fun a b => decide (a ≤ b) = true := List.pairwise_mergeSort
      (fun a b c hab hbc => by simp only [decide_eq_true_eq] at *; omega)
      (fun a b => by simp only [Bool.or_eq_true, decide_eq_true_eq]; omega) found
    exact h.imp fun hle => by simpa using hle
  have hstrict : found.mergeSort.Pairwise (· < ·) := by
    have hdistinct : found.mergeSort.Nodup := (List.mergeSort_perm found _).nodup_iff.mpr hnodup
    exact (hsorted.and hdistinct).imp fun h => Nat.lt_of_le_of_ne h.1 h.2
  have hrange : ((List.range n).filter keep).Pairwise (· < ·) :=
    List.pairwise_lt_range.filter keep
  refine hstrict.eq_of_mem_iff hrange fun i => ?_
  rw [List.mem_mergeSort, hmem, List.mem_filter, List.mem_range]
  exact ⟨fun hi => ⟨hlt i hi, hi⟩, fun hi => hi.2⟩

private theorem inBox_lt {cellSize : Float} {i : Nat}
    (hi : inBox cellSize positions box i = true) : i < positions.length := by
  rw [inBox_iff] at hi
  obtain ⟨cell, -, hcell⟩ := hi
  rw [Option.bind_eq_some_iff] at hcell
  obtain ⟨p, hp, -⟩ := hcell
  exact (List.getElem?_eq_some_iff.mp hp).1

/-- Sorted, the entities in the box are those that are found by asking each entity for its cell. -/
theorem Visits.mergeSort_flatMap {cellSize : Float} {cells : List Cell}
    (visits : Visits cellSize positions box cells) :
    (cells.flatMap (filedAt cellSize positions.zipIdx)).mergeSort =
      (List.range positions.length).filter (inBox cellSize positions box) :=
  mergeSort_eq_filter_range visits.nodup_flatMap (fun _ => visits.mem_flatMap) fun _ => inBox_lt

/-- A query finds the entities in the box, each once and in ascending order. Where the box cannot be counted it holds no cell. -/
theorem query?_build (positions : List Vec3) {center : Vec3} {radius : Float}
    (hbox : grid.queryBox center radius = some box) :
    ((grid.build positions).query? center radius).getD [] =
      (List.range positions.length).filter (inBox grid.cellSize positions box) := by
  have hbuilt : (grid.build positions).queryBox center radius = some box := hbox
  have hcorners := queryBox_counted hbox
  rw [query?, candidates?, hbuilt]
  cases hsize : box.size? with
  | none =>
    have hempty : ∀ i, ¬inBox grid.cellSize positions box i = true := by
      intro i hi
      obtain ⟨cell, hcell, -⟩ := inBox_iff.mp hi
      rw [size?_eq hcorners.1 hcorners.2 (CellBox.ordered_of_contains hcell)] at hsize
      cases hsize
    have hnone : (List.range positions.length).filter (inBox grid.cellSize positions box) = [] :=
      List.filter_eq_nil_iff.mpr fun i _ => hempty i
    simp only [hsize, hnone, Option.bind_eq_bind, Option.bind_none, Option.map_none,
      Option.getD_none]
  | some size =>
    simp only [hsize, Option.bind_eq_bind, Option.bind_some, Option.pure_def, Option.map_some,
      Option.getD_some]
    split
    · rw [scan_build]
      exact visits_toList.mergeSort_flatMap
    · rw [enumerate_build]
      exact (visits_cells _ _ _).mergeSort_flatMap

theorem query?_build_of_ordered (positions : List Vec3) {center : Vec3} {radius : Float}
    (hbox : grid.queryBox center radius = some box) (hordered : box.Ordered) :
    (grid.build positions).query? center radius =
      some ((List.range positions.length).filter (inBox grid.cellSize positions box)) := by
  obtain ⟨hlow, hhigh⟩ := queryBox_counted hbox
  have hbuilt : (grid.build positions).queryBox center radius = some box := hbox
  have hfound := query?_build positions hbox
  cases hquery : (grid.build positions).query? center radius with
  | none => simp [query?, candidates?, hbuilt, size?_eq hlow hhigh hordered] at hquery
  | some found =>
    rw [hquery, Option.getD_some] at hfound
    rw [hfound]

theorem exists_query?_build (positions : List Vec3) {center : Vec3} {radius : Float}
    (hbox : grid.queryBox center radius = some box) (hordered : box.Ordered) :
    ∃ found, (grid.build positions).query? center radius = some found ∧
      ∀ i ∈ found, i < positions.length :=
  ⟨_, query?_build_of_ordered positions hbox hordered, fun _ hi =>
    List.mem_range.mp (List.mem_filter.mp hi).1⟩

end CellGrid

end SpatialComputer
