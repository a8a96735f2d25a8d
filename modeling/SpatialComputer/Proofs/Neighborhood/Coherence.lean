import SpatialComputer.Proofs.Neighborhood.CellCoverage
import SpatialComputer.Proofs.Population.Frame

/-!
# Coherence of the neighbour index

An index is coherent with a population if a grid that counts as valid is the grid over the current positions, and if, while the topology flag is down, every cache holds what the strategy would find now. From a coherent index a query is answered as if nothing had been stored, and the index stays coherent. Raising the flag makes an index coherent with any population, and lowering it drops every cache.
-/

namespace SpatialComputer

variable {U : Type}

/-- The neighbours of the device at `i` as a strategy finds them when nothing is stored. -/
def findNeighbors (strategy : IndexStrategy) (cellSize : Float) (devices : Array (Device U))
    (i : Nat) : List DeviceId :=
  match strategy with
  | .bruteForce => neighborsWithin devices i
  | .grid => NeighborIndex.gridNeighbors (currentGrid cellSize devices) devices i

theorem findNeighbors_congr {devices devices' : Array (Device U)}
    (same : sites devices' = sites devices) (strategy : IndexStrategy) (cellSize : Float) (i : Nat) :
    findNeighbors strategy cellSize devices' i = findNeighbors strategy cellSize devices i := by
  cases strategy with
  | bruteForce => exact neighborsWithin_congr same i
  | grid =>
    have hgrid : currentGrid cellSize devices' = currentGrid cellSize devices := by
      rw [currentGrid, currentGrid, positions_congr same]
    simp only [findNeighbors, hgrid, gridNeighbors_congr same]

def Device.remember (ids : List DeviceId) (d : Device U) : Device U :=
  { d with neighborCache := some ids }

theorem exists_cache_of_map_eq {devices devices' : Array (Device U)}
    (same : devices'.map (fun d => { d with neighborCache := none }) =
      devices.map fun d => { d with neighborCache := none })
    {i : Nat} {d : Device U} (hd : devices[i]? = some d) :
    ∃ cache, devices'[i]? = some { d with neighborCache := cache } := by
  obtain ⟨d', hd', hsame⟩ := exists_of_map_eq same hd
  have hcache : d' = { d with neighborCache := d'.neighborCache } :=
    congrArg (fun d : Device U => { d with neighborCache := d'.neighborCache }) hsame
  exact ⟨d'.neighborCache, hcache ▸ hd'⟩

namespace NeighborIndex

/-- What a query about the device at `i` is answered with. -/
def answer (index : NeighborIndex) (devices : Array (Device U)) (i : Nat) : List DeviceId :=
  if index.dirty then neighborsWithin devices i
  else findNeighbors index.strategy index.grid.cellSize devices i

theorem answer_of_bruteForce {index : NeighborIndex} (h : index.strategy = .bruteForce)
    (devices : Array (Device U)) (i : Nat) : index.answer devices i = neighborsWithin devices i := by
  unfold NeighborIndex.answer findNeighbors
  rw [h]
  split <;> rfl

theorem exists_answer_eq (index : NeighborIndex) (devices : Array (Device U)) (i : Nat) :
    ∃ strategy, index.answer devices i = findNeighbors strategy index.grid.cellSize devices i := by
  unfold NeighborIndex.answer
  split
  · exact ⟨.bruteForce, rfl⟩
  · exact ⟨index.strategy, rfl⟩

/-- Whether what is stored is what would be found now. -/
structure Coherent (index : NeighborIndex) (devices : Array (Device U)) : Prop where
  grid : index.gridValid = true → index.grid = currentGrid index.grid.cellSize devices
  cache : index.dirty = false → ∀ (i : Nat) (d : Device U) (ids : List DeviceId),
    devices[i]? = some d → d.neighborCache = some ids →
      ids = findNeighbors index.strategy index.grid.cellSize devices i

/-- The strategy, the size of the cells and the flag are the same. -/
structure SameSetup (index index' : NeighborIndex) : Prop where
  strategy : index'.strategy = index.strategy
  cellSize : index'.grid.cellSize = index.grid.cellSize
  dirty : index'.dirty = index.dirty

variable {index : NeighborIndex} {devices devices' : Array (Device U)}

theorem SameSetup.refl (index : NeighborIndex) : SameSetup index index := ⟨rfl, rfl, rfl⟩

theorem SameSetup.trans {index index' index'' : NeighborIndex} (h : SameSetup index index')
    (h' : SameSetup index' index'') : SameSetup index index'' :=
  ⟨h'.strategy.trans h.strategy, h'.cellSize.trans h.cellSize, h'.dirty.trans h.dirty⟩

theorem SameSetup.answer {index' : NeighborIndex} (h : SameSetup index index')
    (same : sites devices' = sites devices) (i : Nat) :
    index'.answer devices' i = index.answer devices i := by
  rw [NeighborIndex.answer, NeighborIndex.answer, h.dirty, h.strategy, h.cellSize,
    neighborsWithin_congr same, findNeighbors_congr same]

theorem Coherent.of_dirty (hdirty : index.dirty = true) (hgrid : index.gridValid = false) :
    Coherent index devices := by
  constructor
  · intro hvalid
    simp [hgrid] at hvalid
  · intro hclean
    simp [hdirty] at hclean

/-- Only sites and caches matter to coherence. -/
theorem Coherent.congr (coherent : Coherent index devices) (same : sites devices' = sites devices)
    (caches : devices'.map Device.neighborCache = devices.map Device.neighborCache) :
    Coherent index devices' := by
  constructor
  · intro hvalid
    rw [coherent.grid hvalid, currentGrid, currentGrid, positions_congr same]
    rfl
  · intro hclean i d' ids hd' hids
    have hcache : (devices.map Device.neighborCache)[i]? = some (some ids) := by
      rw [← caches, Array.getElem?_map, hd', Option.map_some, hids]
    rw [Array.getElem?_map, Option.map_eq_some_iff] at hcache
    obtain ⟨d, hd, hids⟩ := hcache
    rw [findNeighbors_congr same]
    exact coherent.cache hclean i d ids hd hids

/-! ### Queries -/

theorem ensureGrid_grid (coherent : Coherent index devices) :
    (index.ensureGrid devices).grid = currentGrid index.grid.cellSize devices := by
  unfold ensureGrid
  split
  · rename_i hvalid
    exact coherent.grid hvalid
  · rfl

private theorem ensureGrid_sameSetup (index : NeighborIndex) (devices : Array (Device U)) :
    SameSetup index (index.ensureGrid devices) := by
  unfold ensureGrid
  split
  · exact SameSetup.refl index
  · exact ⟨rfl, rfl, rfl⟩

private theorem compute_fst (coherent : Coherent index devices) (i : Nat) :
    (index.compute devices i).1 =
      findNeighbors index.strategy index.grid.cellSize devices i := by
  unfold compute findNeighbors
  cases index.strategy with
  | bruteForce => rfl
  | grid =>
    simp only
    rw [ensureGrid_grid coherent]

private theorem neighborsOf_index (index : NeighborIndex) (devices : Array (Device U)) (i : Nat) :
    (index.neighborsOf devices i).2.1 = index ∨
      (index.neighborsOf devices i).2.1 = index.ensureGrid devices := by
  unfold neighborsOf
  split
  · exact Or.inl rfl
  · split
    · exact Or.inl rfl
    · unfold compute
      cases index.strategy with
      | bruteForce => exact Or.inl rfl
      | grid => exact Or.inr rfl

theorem neighborsOf_fst (coherent : Coherent index devices) (i : Nat) :
    (index.neighborsOf devices i).1 = index.answer devices i := by
  unfold neighborsOf NeighborIndex.answer
  cases hdirty : index.dirty with
  | true => rfl
  | false =>
    simp only [Bool.false_eq_true, if_false]
    split
    · rename_i ids hids
      obtain ⟨d, hd, hcache⟩ := Option.bind_eq_some_iff.mp hids
      exact coherent.cache hdirty i d ids hd hcache
    · exact compute_fst coherent i

/-- A query leaves the answer in the cache unless the flag is up. -/
theorem neighborsOf_devices (coherent : Coherent index devices) (i : Nat) :
    (index.neighborsOf devices i).2.2 =
      if index.dirty then devices
      else devices.modify i (Device.remember (index.answer devices i)) := by
  unfold neighborsOf NeighborIndex.answer
  cases hdirty : index.dirty with
  | true => rfl
  | false =>
    simp only [Bool.false_eq_true, if_false]
    split
    · rename_i ids hids
      obtain ⟨d, hd, hcache⟩ := Option.bind_eq_some_iff.mp hids
      apply Array.ext_getElem?
      intro j
      rw [Array.getElem?_modify]
      split
      · rename_i hij
        subst hij
        rw [hd, Option.map_some, ← coherent.cache hdirty i d ids hd hcache, Device.remember, ← hcache]
      · rfl
    · rw [compute_fst coherent]
      rfl

theorem neighborsOf_sameSetup (index : NeighborIndex) (devices : Array (Device U)) (i : Nat) :
    SameSetup index (index.neighborsOf devices i).2.1 := by
  rcases neighborsOf_index index devices i with h | h
  · rw [h]
    exact SameSetup.refl index
  · rw [h]
    exact ensureGrid_sameSetup index devices

theorem map_neighborsOf {β : Type} {g : Device U → β} (hg : ∀ ids d, g (Device.remember ids d) = g d)
    (index : NeighborIndex) (devices : Array (Device U)) (i : Nat) :
    (index.neighborsOf devices i).2.2.map g = devices.map g := by
  unfold neighborsOf
  split
  · rfl
  · split
    · rfl
    · exact map_modify devices i fun d => hg _ d

theorem sites_neighborsOf (index : NeighborIndex) (devices : Array (Device U)) (i : Nat) :
    sites (index.neighborsOf devices i).2.2 = sites devices :=
  map_neighborsOf (fun _ _ => rfl) index devices i

theorem getElem?_neighborsOf_of_ne (index : NeighborIndex) (devices : Array (Device U)) {i j : Nat}
    (hne : i ≠ j) : (index.neighborsOf devices i).2.2[j]? = devices[j]? := by
  unfold neighborsOf
  split
  · rfl
  · split
    · rfl
    · rw [Array.getElem?_modify, if_neg hne]

private theorem neighborsOf_grid (coherent : Coherent index devices) (i : Nat)
    (hvalid : (index.neighborsOf devices i).2.1.gridValid = true) :
    (index.neighborsOf devices i).2.1.grid = currentGrid index.grid.cellSize devices := by
  rcases neighborsOf_index index devices i with h | h
  · rw [h] at hvalid ⊢
    exact coherent.grid hvalid
  · rw [h]
    exact ensureGrid_grid coherent

theorem neighborsOf_coherent (coherent : Coherent index devices) (i : Nat) :
    Coherent (index.neighborsOf devices i).2.1 (index.neighborsOf devices i).2.2 := by
  have hsame := sites_neighborsOf index devices i
  have hsetup := neighborsOf_sameSetup index devices i
  constructor
  · intro hvalid
    rw [hsetup.cellSize, neighborsOf_grid coherent i hvalid, currentGrid, currentGrid,
      positions_congr hsame]
  · intro hclean j d ids hd hids
    rw [hsetup.dirty] at hclean
    rw [hsetup.strategy, hsetup.cellSize, findNeighbors_congr hsame]
    rw [neighborsOf_devices coherent, hclean, if_neg Bool.false_ne_true,
      Array.getElem?_modify] at hd
    split at hd
    · rename_i hij
      subst hij
      obtain ⟨d', hd', rfl⟩ := Option.map_eq_some_iff.mp hd
      rw [← Option.some.inj hids, NeighborIndex.answer, hclean, if_neg Bool.false_ne_true]
    · exact coherent.cache hclean j d ids hd hids

/-! ### The flag -/

theorem markDirty_coherent (index : NeighborIndex) (devices : Array (Device U)) :
    Coherent index.markDirty devices :=
  Coherent.of_dirty rfl rfl

theorem markDirtyIf_coherent {changed : Bool} (h : changed = false → Coherent index devices) :
    Coherent (index.markDirtyIf changed) devices := by
  cases changed with
  | true => exact markDirty_coherent index devices
  | false => exact h rfl

theorem markDirtyIf_strategy (changed : Bool) (index : NeighborIndex) :
    (index.markDirtyIf changed).strategy = index.strategy := by
  cases changed <;> rfl

theorem markDirtyIf_cellSize (changed : Bool) (index : NeighborIndex) :
    (index.markDirtyIf changed).grid.cellSize = index.grid.cellSize := by
  cases changed <;> rfl

theorem markDirtyIf_dirty (changed : Bool) (index : NeighborIndex) :
    (index.markDirtyIf changed).dirty = (index.dirty || changed) := by
  cases changed with
  | true => exact (Bool.or_true _).symm
  | false => exact (Bool.or_false _).symm

theorem beginTick_fst (index : NeighborIndex) (devices : Array (Device U)) :
    (index.beginTick devices).1 = index.dirty := by
  unfold beginTick
  split
  · rename_i hdirty
    exact hdirty.symm
  · rename_i hdirty
    exact (Bool.eq_false_iff.mpr hdirty).symm

theorem beginTick_dirty (index : NeighborIndex) (devices : Array (Device U)) :
    (index.beginTick devices).2.1.dirty = false := by
  unfold beginTick
  split
  · rfl
  · rename_i hdirty
    exact Bool.eq_false_iff.mpr hdirty

theorem beginTick_strategy (index : NeighborIndex) (devices : Array (Device U)) :
    (index.beginTick devices).2.1.strategy = index.strategy := by
  unfold beginTick
  split <;> rfl

theorem beginTick_cellSize (index : NeighborIndex) (devices : Array (Device U)) :
    (index.beginTick devices).2.1.grid.cellSize = index.grid.cellSize := by
  unfold beginTick
  split <;> rfl

theorem map_beginTick {β : Type} {g : Device U → β}
    (hg : ∀ d, g { d with neighborCache := none } = g d) (index : NeighborIndex)
    (devices : Array (Device U)) : (index.beginTick devices).2.2.map g = devices.map g := by
  unfold beginTick
  split
  · rw [Array.map_map]
    exact Array.map_congr_left fun d _ => hg d
  · rfl

theorem sites_beginTick (index : NeighborIndex) (devices : Array (Device U)) :
    sites (index.beginTick devices).2.2 = sites devices :=
  map_beginTick (fun _ => rfl) index devices

theorem size_beginTick (index : NeighborIndex) (devices : Array (Device U)) :
    (index.beginTick devices).2.2.size = devices.size :=
  size_eq_of_sites (sites_beginTick index devices)

theorem beginTick_coherent (coherent : Coherent index devices) :
    Coherent (index.beginTick devices).2.1 (index.beginTick devices).2.2 := by
  unfold beginTick
  split
  · constructor
    · intro hvalid
      simp at hvalid
    · intro _ i d ids hd hids
      rw [Array.getElem?_map] at hd
      obtain ⟨d', -, rfl⟩ := Option.map_eq_some_iff.mp hd
      simp at hids
  · exact coherent

end NeighborIndex

end SpatialComputer
