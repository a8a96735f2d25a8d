import Mathlib.Data.Prod.Lex
import SpatialComputer.Proofs.Neighborhood.CellQuery

/-!
# How a cell grid is stored

The entities of a grid lie in one row, sorted by their cells, and each occupied cell has the range of the row that holds its entities. The ranges are kept in a map, which may list them in any order. In this form a query can fail: a range may not fit the row, and the cells of a box may be too many to count. After a build the range of a cell holds what is filed under it, whatever the store held before, so no query fails, and both ways of answering one come to the answer of the grid.
-/

namespace SpatialComputer

open Binary64 CellGrid

/-- A cell by its numbers, in the order in which cells are laid out. -/
def Cell.key (c : Cell) : Int ×ₗ Int ×ₗ Int := toLex (c.x, toLex (c.y, c.z))

theorem Cell.key_injective : Function.Injective Cell.key := by
  intro c c' h
  simp only [key, EmbeddingLike.apply_eq_iff_eq, Prod.mk.injEq] at h
  exact Cell.ext h.1 h.2.1 h.2.2

structure CellStore where
  cellSize : Float
  ranges : Std.HashMap Cell (Nat × Nat) := {}
  row : Array Nat := #[]

/-- The results of some visits in their order, if none of them fails. -/
def visitAll? {α : Type} (visit : α → Option (List Nat)) : List α → Option (List Nat)
  | [] => some []
  | place :: places => do
    let found ← visit place
    return found ++ (← visitAll? visit places)

theorem visitAll?_eq {α : Type} {visit : α → Option (List Nat)} {found : α → List Nat} {places : List α}
    (h : ∀ place ∈ places, visit place = some (found place)) :
    visitAll? visit places = some (places.flatMap found) := by
  induction places with
  | nil => rfl
  | cons place places ih =>
    rw [visitAll?, h place List.mem_cons_self, ih fun later hlater => h later (List.mem_cons_of_mem _ hlater)]
    rfl

namespace CellStore

/-! ### Building -/

def keyed (cellSize : Float) (positions : List Vec3) : List (Cell × Nat) :=
  positions.zipIdx.filterMap fun (p, i) => (cellOf cellSize p).map (·, i)

/-- Entries are sorted by their cells, and those of one cell by their entities. -/
def precedes (a b : Cell × Nat) : Bool :=
  decide (toLex (a.1.key, a.2) ≤ toLex (b.1.key, b.2))

/-- Lays out sorted entries behind those that are already there. The range of the cell at hand begins at `start`, and it is known at the last entry of the cell. -/
def layOut (store : CellStore) (start : Nat) : List (Cell × Nat) → CellStore
  | [] => store
  | (cell, i) :: rest =>
    let row := store.row.push i
    if rest.head?.all (·.1 ≠ cell) then
      layOut { store with row := row, ranges := store.ranges.insert cell (start, row.size) } row.size rest
    else layOut { store with row := row } start rest

def build (store : CellStore) (positions : List Vec3) : CellStore :=
  layOut { store with ranges := {}, row := #[] } 0
    ((keyed store.cellSize positions).mergeSort precedes)

/-! ### Queries -/

def queryBox (store : CellStore) (center : Vec3) (radius : Float) : Option CellBox :=
  ({ cellSize := store.cellSize } : CellGrid).queryBox center radius

def slice? (store : CellStore) (range : Nat × Nat) : Option (List Nat) :=
  if range.1 ≤ range.2 ∧ range.2 ≤ store.row.size then
    some (store.row.extract range.1 range.2).toList
  else none

/-- What a query visits in a box when it looks at every occupied cell, in the order in which the map lists them. -/
def scan? (store : CellStore) (listed : List (Cell × Nat × Nat)) (box : CellBox) : Option (List Nat) :=
  visitAll? (fun (cell, range) => if box.contains cell then store.slice? range else some []) listed

/-- What a query visits in a box when it looks up every cell of the box. -/
def enumerate? (store : CellStore) (box : CellBox) : Option (List Nat) :=
  visitAll? (fun cell =>
    match store.ranges[cell]? with
    | some range => store.slice? range
    | none => some []) box.cells

/-- What a query visits, one entity after another, if no check fails. -/
def visits? (store : CellStore) (listed : List (Cell × Nat × Nat)) (center : Vec3) (radius : Float) :
    Option (List Nat) :=
  match store.queryBox center radius with
  | none => some []
  | some box => do
    let size ← box.size?
    if store.ranges.size < size then store.scan? listed box else store.enumerate? box

def query? (store : CellStore) (listed : List (Cell × Nat × Nat)) (center : Vec3) (radius : Float) :
    Option (List Nat) :=
  (store.visits? listed center radius).map List.mergeSort

/-! ### The row and its ranges -/

def heldBy (cell : Cell) (entries : List (Cell × Nat)) : List Nat :=
  (entries.filter (·.1 = cell)).map Prod.snd

variable {store : CellStore} {start : Nat} {cell : Cell} {entries : List (Cell × Nat)}

theorem heldBy_eq_nil (h : cell ∉ entries.map Prod.fst) : heldBy cell entries = [] := by
  rw [heldBy, List.map_eq_nil_iff, List.filter_eq_nil_iff]
  intro entry hentry heq
  exact h (List.mem_map.mpr ⟨entry, hentry, of_decide_eq_true heq⟩)

theorem heldBy_cons (cell : Cell) (entry : Cell × Nat) (entries : List (Cell × Nat)) :
    heldBy cell (entry :: entries) =
      if entry.1 = cell then entry.2 :: heldBy cell entries else heldBy cell entries := by
  rw [heldBy, List.filter_cons]
  by_cases h : entry.1 = cell <;> simp [h, heldBy]

private theorem layOut_cellSize (entries : List (Cell × Nat)) : ∀ (store : CellStore) (start : Nat),
    (layOut store start entries).cellSize = store.cellSize := by
  induction entries with
  | nil => exact fun _ _ => rfl
  | cons entry rest ih =>
    intro store start
    rw [layOut]
    split
    · exact ih _ _
    · exact ih _ _

private theorem layOut_row (entries : List (Cell × Nat)) : ∀ (store : CellStore) (start : Nat),
    (layOut store start entries).row.toList = store.row.toList ++ entries.map Prod.snd := by
  induction entries with
  | nil => exact fun _ _ => (List.append_nil _).symm
  | cons entry rest ih =>
    intro store start
    rw [layOut]
    split
    · rw [ih, Array.toList_push, List.append_assoc]
      rfl
    · rw [ih, Array.toList_push, List.append_assoc]
      rfl

private theorem layOut_ranges_of_notMem (entries : List (Cell × Nat)) :
    ∀ (store : CellStore) (start : Nat), cell ∉ entries.map Prod.fst →
      (layOut store start entries).ranges[cell]? = store.ranges[cell]? := by
  induction entries with
  | nil => exact fun _ _ _ => rfl
  | cons entry rest ih =>
    intro store start hcell
    rw [List.map_cons, List.mem_cons, not_or] at hcell
    rw [layOut]
    split
    · rw [ih _ _ hcell.2, Std.HashMap.getElem?_insert]
      simp [Ne.symm hcell.1]
    · exact ih _ _ hcell.2

private theorem notMem_of_last {i : Nat} {rest : List (Cell × Nat)}
    (hsorted : ((cell, i) :: rest).Pairwise fun a b => a.1.key ≤ b.1.key)
    (hlast : rest.head?.all (·.1 ≠ cell) = true) : cell ∉ rest.map Prod.fst := by
  cases rest with
  | nil => exact List.not_mem_nil
  | cons next rest =>
    have hne : next.1 ≠ cell := of_decide_eq_true hlast
    obtain ⟨hfirst, hsorted⟩ := List.pairwise_cons.mp hsorted
    obtain ⟨hnext, -⟩ := List.pairwise_cons.mp hsorted
    rw [List.map_cons, List.mem_cons, not_or]
    refine ⟨hne.symm, fun hmem => ?_⟩
    obtain ⟨later, hlater, rfl⟩ := List.mem_map.mp hmem
    exact hne (Cell.key_injective (le_antisymm (hnext later hlater) (hfirst next List.mem_cons_self)))

private theorem slice?_of_row {front later : List Nat} {stop : Nat}
    (hrow : store.row.toList = front ++ later) (hstop : front.length = stop) (hstart : start ≤ stop) :
    store.slice? (start, stop) = some (front.drop start) := by
  have hsize : stop ≤ store.row.size := by
    rw [← Array.length_toList, hrow, List.length_append, hstop]
    exact Nat.le_add_right _ _
  have hlength : (front.drop start).length = stop - start := by rw [List.length_drop, hstop]
  rw [slice?, if_pos ⟨hstart, hsize⟩, Array.toList_extract, hrow, List.extract_eq_take_drop,
    List.drop_append_of_le_length (hstop ▸ hstart), List.take_left' hlength]

private theorem slice_layOut (entries : List (Cell × Nat)) : ∀ (store : CellStore) (start : Nat),
    (entries.Pairwise fun a b => a.1.key ≤ b.1.key) → start ≤ store.row.size →
    cell ∈ entries.map Prod.fst →
      (layOut store start entries).ranges[cell]?.bind (layOut store start entries).slice? =
        some ((if entries.head?.any (·.1 = cell) then store.row.toList.drop start else []) ++
          heldBy cell entries) := by
  -- `start` is where the range of the cell at hand began: its entities may have been laid out in earlier steps.
  induction entries with
  | nil => exact fun _ _ _ _ h => absurd h List.not_mem_nil
  | cons entry rest ih =>
    obtain ⟨own, i⟩ := entry
    intro store start hsorted hstart hcell
    obtain ⟨-, hrest⟩ := List.pairwise_cons.mp hsorted
    rw [layOut]
    have hpushed : (store.row.push i).toList = store.row.toList ++ [i] := Array.toList_push
    have hlength : (store.row.push i).toList.length = (store.row.push i).size := Array.length_toList
    have hstart' : start ≤ (store.row.push i).size := hstart.trans (by simp)
    have hdrop : (store.row.push i).toList.drop start = store.row.toList.drop start ++ [i] := by
      rw [hpushed, List.drop_append_of_le_length (by rwa [Array.length_toList])]
    by_cases hlast : rest.head?.all (·.1 ≠ own) = true
    · -- The range of the cell is complete, and the next one begins where it ends.
      have hown := notMem_of_last hsorted hlast
      rw [if_pos hlast]
      by_cases heq : own = cell
      · subst heq
        rw [layOut_ranges_of_notMem _ _ _ hown, Std.HashMap.getElem?_insert_self, Option.bind_some]
        refine (slice?_of_row (layOut_row rest _ _) hlength hstart').trans ?_
        rw [hdrop]
        simp [heldBy_cons, heldBy_eq_nil hown]
      · have hrestCell : cell ∈ rest.map Prod.fst := by simpa [Ne.symm heq] using hcell
        rw [ih _ _ hrest le_rfl hrestCell]
        simp [heldBy_cons, heq]
    · rw [if_neg hlast]
      obtain ⟨next, later, rfl, hnext⟩ : ∃ next later, rest = next :: later ∧ next.1 = own := by
        cases rest with
        | nil => exact absurd rfl hlast
        | cons next later => exact ⟨next, later, rfl, by simpa using hlast⟩
      have hrestCell : cell ∈ (next :: later).map Prod.fst := by
        rcases List.mem_cons.mp hcell with rfl | h
        · exact hnext ▸ List.mem_cons_self
        · exact h
      rw [ih _ start hrest hstart' hrestCell, hdrop]
      by_cases heq : own = cell <;> simp [heldBy_cons, hnext, heq]

/-! ### After a build -/

private theorem pairwise_sorted (entries : List (Cell × Nat)) :
    (entries.mergeSort precedes).Pairwise fun a b => toLex (a.1.key, a.2) ≤ toLex (b.1.key, b.2) := by
  have h : (entries.mergeSort precedes).Pairwise fun a b => precedes a b = true :=
    List.pairwise_mergeSort
      (fun a b c hab hbc => decide_eq_true ((of_decide_eq_true hab).trans (of_decide_eq_true hbc)))
      (fun a b => by simpa [precedes] using le_total _ _) entries
  exact h.imp of_decide_eq_true

private theorem heldBy_keyed (cellSize : Float) (positions : List Vec3) (cell : Cell) :
    heldBy cell (keyed cellSize positions) = filedAt cellSize positions.zipIdx cell := by
  unfold keyed filedAt
  induction positions.zipIdx with
  | nil => rfl
  | cons entry entries ih =>
    rw [List.filterMap_cons, List.filter_cons]
    cases hcell : cellOf cellSize entry.1 with
    | none => simpa [hcell] using ih
    | some own => by_cases heq : own = cell <;> simpa [hcell, heldBy_cons, heq] using ih

private theorem heldBy_sorted (cellSize : Float) (positions : List Vec3) (cell : Cell) :
    heldBy cell ((keyed cellSize positions).mergeSort precedes) =
      filedAt cellSize positions.zipIdx cell := by
  -- Two ascending lists with the same members are the same list.
  have hperm : (heldBy cell ((keyed cellSize positions).mergeSort precedes)).Perm
      (filedAt cellSize positions.zipIdx cell) := by
    rw [← heldBy_keyed]
    exact ((List.mergeSort_perm _ _).filter _).map _
  have hsorted : (heldBy cell ((keyed cellSize positions).mergeSort precedes)).Pairwise (· ≤ ·) := by
    refine List.pairwise_map.mpr (List.Pairwise.imp_of_mem ?_ ((pairwise_sorted _).filter _))
    intro a b ha hb hle
    have ha : a.1 = cell := of_decide_eq_true (List.mem_filter.mp ha).2
    have hb : b.1 = cell := of_decide_eq_true (List.mem_filter.mp hb).2
    rw [ha, hb, Prod.Lex.toLex_le_toLex] at hle
    exact (hle.resolve_left (lt_irrefl _)).2
  have hfiled : (filedAt cellSize positions.zipIdx cell).Pairwise (· ≤ ·) := by
    have hall : (positions.zipIdx.map Prod.snd).Pairwise (· ≤ ·) := by
      rw [List.zipIdx_map_snd]
      exact List.pairwise_le_range'
    exact hall.sublist (List.filter_sublist.map Prod.snd)
  exact hperm.eq_of_pairwise (fun _ _ _ _ => Nat.le_antisymm) hsorted hfiled

@[simp]
theorem cellSize_build (store : CellStore) (positions : List Vec3) :
    (store.build positions).cellSize = store.cellSize :=
  layOut_cellSize _ _ _

@[simp]
theorem cellSize_foldl_build (earlier : List (List Vec3)) : ∀ store : CellStore,
    (earlier.foldl build store).cellSize = store.cellSize := by
  induction earlier with
  | nil => exact fun _ => rfl
  | cons positions earlier ih => exact fun store => (ih _).trans (cellSize_build store positions)

/-- After a build a cell has a range that holds what is filed under it, or it has none and is not occupied. -/
theorem ranges_build (store : CellStore) (positions : List Vec3) (cell : Cell) :
    (∃ range, (store.build positions).ranges[cell]? = some range ∧
      (store.build positions).slice? range = some (filedAt store.cellSize positions.zipIdx cell)) ∨
    (store.build positions).ranges[cell]? = none ∧ ¬Occupied store.cellSize positions cell := by
  have hfiled := heldBy_sorted store.cellSize positions cell
  have hsorted := (pairwise_sorted (keyed store.cellSize positions)).imp fun {a b} hle =>
    show a.1.key ≤ b.1.key from Prod.Lex.monotone_fst _ _ hle
  unfold build
  by_cases hcell : cell ∈ ((keyed store.cellSize positions).mergeSort precedes).map Prod.fst
  · have hslice := slice_layOut _ { store with ranges := {}, row := #[] } 0 hsorted (Nat.zero_le _) hcell
    rw [hfiled] at hslice
    obtain ⟨range, hrange, hslice⟩ := Option.bind_eq_some_iff.mp hslice
    refine .inl ⟨range, hrange, hslice.trans ?_⟩
    simp
  · refine .inr ⟨?_, fun ⟨i, hi⟩ => ?_⟩
    · rw [layOut_ranges_of_notMem _ _ _ hcell]
      exact Std.HashMap.getElem?_empty
    · rw [← hfiled, heldBy_eq_nil hcell] at hi
      cases hi

theorem visits?_eq {listed : List (Cell × Nat × Nat)} {center : Vec3} {radius : Float} {box : CellBox}
    {size : Nat} {scanned enumerated : List Nat} (hbox : store.queryBox center radius = some box)
    (hsize : box.size? = some size) (hscan : store.scan? listed box = some scanned)
    (henumerate : store.enumerate? box = some enumerated) :
    store.visits? listed center radius =
      some (if store.ranges.size < size then scanned else enumerated) := by
  rw [visits?, hbox]
  simp only [hsize, Option.bind_eq_bind, Option.bind_some, hscan, henumerate]
  rw [← apply_ite some]

section

variable {positions : List Vec3} {listed : List (Cell × Nat × Nat)} {box : CellBox}

private theorem scan?_build (hlisted : listed.Perm (store.build positions).ranges.toList) :
    (store.build positions).scan? listed box = some
      (((listed.map Prod.fst).filter box.contains).flatMap
        (filedAt store.cellSize positions.zipIdx)) := by
  rw [← flatMap_ite_contains]
  refine visitAll?_eq fun entry hentry => ?_
  have hrange := Std.HashMap.mem_toList_iff_getElem?_eq_some.mp (hlisted.mem_iff.mp hentry)
  dsimp only
  rcases ranges_build store positions entry.1 with ⟨range, hcell, hslice⟩ | ⟨hnone, -⟩
  · rw [hcell] at hrange
    obtain rfl := Option.some.inj hrange
    rw [hslice]
    split <;> rfl
  · rw [hnone] at hrange
    cases hrange

private theorem visits_listed (hlisted : listed.Perm (store.build positions).ranges.toList)
    (box : CellBox) :
    Visits store.cellSize positions box ((listed.map Prod.fst).filter box.contains) := by
  have hkeys := hlisted.map Prod.fst
  rw [Std.HashMap.map_fst_toList_eq_keys] at hkeys
  refine visits_filter (hkeys.nodup_iff.mpr Std.HashMap.nodup_keys) fun cell hoccupied => ?_
  rw [hkeys.mem_iff, Std.HashMap.mem_keys]
  rcases ranges_build store positions cell with ⟨range, hcell, -⟩ | ⟨-, hfree⟩
  · exact Std.HashMap.mem_iff_isSome_getElem?.mpr (hcell ▸ rfl)
  · exact absurd hoccupied hfree

private theorem enumerate?_build : (store.build positions).enumerate? box =
    some (box.cells.flatMap (filedAt store.cellSize positions.zipIdx)) := by
  refine visitAll?_eq fun cell _ => ?_
  rcases ranges_build store positions cell with ⟨range, hcell, hslice⟩ | ⟨hnone, hfree⟩
  · rw [hcell]
    exact hslice
  · rw [hnone]
    have hempty : filedAt store.cellSize positions.zipIdx cell = [] :=
      List.eq_nil_iff_forall_not_mem.mpr fun i hi => hfree ⟨i, hi⟩
    rw [hempty]

private theorem mem_filter_inBox_iff {cellSize : Float} (i : Nat) :
    i ∈ (List.range positions.length).filter (inBox cellSize positions box) ↔
      ∃ p cell, positions[i]? = some p ∧ cellOf cellSize p = some cell ∧ box.contains cell = true := by
  rw [List.mem_filter, List.mem_range, inBox_iff]
  constructor
  · rintro ⟨-, cell, hcontains, hcell⟩
    obtain ⟨p, hp, hcell⟩ := Option.bind_eq_some_iff.mp hcell
    exact ⟨p, cell, hp, hcell, hcontains⟩
  · rintro ⟨p, cell, hp, hcell, hcontains⟩
    exact ⟨(List.getElem?_eq_some_iff.mp hp).1, cell, hcontains,
      Option.bind_eq_some_iff.mpr ⟨p, hp, hcell⟩⟩

/-- Whether visits come upon every entity of an ascending list once, and upon no other. -/
def Finds (visited answer : List Nat) : Prop :=
  visited.mergeSort = answer ∧ ∀ i, visited.count i = if i ∈ answer then 1 else 0

private theorem finds_of_visits {cellSize : Float} {cells : List Cell}
    (visits : Visits cellSize positions box cells) :
    Finds (cells.flatMap (filedAt cellSize positions.zipIdx))
      ((List.range positions.length).filter (inBox cellSize positions box)) := by
  refine ⟨visits.mergeSort_flatMap, fun i => ?_⟩
  rw [visits.nodup_flatMap.count, ← visits.mergeSort_flatMap]
  simp only [List.mem_mergeSort]

end

/-- Whatever a store holds from before, and from any number of earlier builds, a query after a build is answered with the entities whose cell lies in the box, in ascending order. The cells of the box are counted without overflow. The occupied cells, in whatever order the map lists them, and the cells of the box lead to the same entities, each of which is visited once. The grid gives the same answer. Without a box nothing is visited. -/
theorem query_exact (store : CellStore) (earlier : List (List Vec3)) (positions : List Vec3)
    (center : Vec3) (radius : Float) :
    let built := (earlier.foldl build store).build positions
    let grid := ({ cellSize := store.cellSize } : CellGrid).build positions
    (built.queryBox center radius = none → grid.query? center radius = some [] ∧ ∀ listed,
      built.visits? listed center radius = some [] ∧ built.query? listed center radius = some []) ∧
    ∀ box, built.queryBox center radius = some box → box.Ordered →
      let answer := (List.range positions.length).filter (inBox store.cellSize positions box)
      answer.Pairwise (· < ·) ∧
      (∀ i, i ∈ answer ↔ ∃ p cell, positions[i]? = some p ∧ cellOf store.cellSize p = some cell ∧
        box.contains cell = true) ∧
      box.size? = some box.cells.length ∧
      grid.query? center radius = some answer ∧
      ∀ listed, listed.Perm built.ranges.toList →
        built.query? listed center radius = some answer ∧
        ∃ scanned enumerated, built.scan? listed box = some scanned ∧
          built.enumerate? box = some enumerated ∧ Finds scanned answer ∧ Finds enumerated answer ∧
          built.visits? listed center radius =
            some (if built.ranges.size < box.cells.length then scanned else enumerated) := by
  rw [← cellSize_foldl_build earlier store]
  -- Of earlier builds only the size of the cells is left, and they do not change it.
  generalize earlier.foldl build store = old
  intro built grid
  have hquery : built.queryBox center radius = grid.queryBox center radius := by
    rw [queryBox, cellSize_build]
    rfl
  refine ⟨fun hnone => ⟨?_, fun listed => ?_⟩, fun box hbox hordered => ?_⟩
  · rw [CellGrid.query?, candidates?, ← hquery, hnone]
    simp
  · rw [query?, visits?, hnone]
    simp
  · have hgrid : ({ cellSize := old.cellSize } : CellGrid).queryBox center radius = some box :=
      hquery.symm.trans hbox
    obtain ⟨hlow, hhigh⟩ := queryBox_counted hgrid
    have hsize := size?_eq hlow hhigh hordered
    refine ⟨List.pairwise_lt_range.filter _, mem_filter_inBox_iff, hsize,
      query?_build_of_ordered positions hgrid hordered, fun listed hlisted => ?_⟩
    have hscan : built.scan? listed box = some _ := scan?_build hlisted
    have henumerate : built.enumerate? box = some _ := enumerate?_build
    have hscanned := finds_of_visits (visits_listed hlisted box)
    have henumerated := finds_of_visits (visits_cells old.cellSize positions box)
    have hvisits := visits?_eq hbox hsize hscan henumerate
    refine ⟨?_, _, _, hscan, henumerate, hscanned, henumerated, hvisits⟩
    rw [query?, hvisits, Option.map_some]
    split
    · exact congrArg some hscanned.1
    · exact congrArg some henumerated.1

def scattered : List Vec3 := [⟨1, 1, 1⟩, ⟨30, 30, 30⟩, ⟨0 / 0, 0, 0⟩, ⟨2, -2, 2⟩]

/-- In cells of size 5 the two near the origin are found around it, also when the ranges are listed in reverse and another population was stored before. -/
theorem query_exact_scattered :
    let built := (([[⟨1, 1, 1⟩], []] : List (List Vec3)).foldl build { cellSize := 5 }).build scattered
    built.query? built.ranges.toList.reverse .zero 4 = some [0, 3] := by
  intro built
  have hfacts : ({ cellSize := 5 } : CellGrid).queryBox .zero 4 = some ⟨⟨-1, -1, -1⟩, ⟨0, 0, 0⟩⟩ ∧
      (List.range scattered.length).filter (inBox 5 scattered ⟨⟨-1, -1, -1⟩, ⟨0, 0, 0⟩⟩) = [0, 3] := by
    decide +kernel
  obtain ⟨hbox, hanswer⟩ := hfacts
  have hordered : CellBox.Ordered ⟨⟨-1, -1, -1⟩, ⟨0, 0, 0⟩⟩ := ⟨by decide, by decide, by decide⟩
  have hbuilt : built.queryBox .zero 4 = some ⟨⟨-1, -1, -1⟩, ⟨0, 0, 0⟩⟩ := by
    rw [queryBox, cellSize_build, cellSize_foldl_build]
    exact hbox
  obtain ⟨-, -, -, -, hlisted⟩ :=
    (query_exact { cellSize := 5 } [[⟨1, 1, 1⟩], []] scattered .zero 4).2 _ hbuilt hordered
  rw [← hanswer]
  exact (hlisted _ (List.reverse_perm _)).1

end CellStore

end SpatialComputer
