import SpatialComputer.Proofs.Engine.Build
import SpatialComputer.Proofs.Engine.Steps
import SpatialComputer.Proofs.Tick.Spawning

/-!
# The invariant of reachable engines

Devices stay numbered from one, the spawn queue is empty between two ticks, the population stays within its limit, and the neighbour index is coherent with the devices. Each elementary step keeps this: whatever moves, adds or re-equips a device raises the topology flag, and everything else leaves ids, positions, radii and caches alone.
-/

namespace SpatialComputer

namespace Engine

variable {U P : Type} [Processor U P]

/-- What holds of every engine between two operations. -/
structure Sound (b : Blueprint P) (e : Engine U P) : Prop where
  settings : e.settings = b.settings
  program : e.program = b.program
  numbered : Numbered e.devices
  lastId : e.population.lastId = e.devices.size
  pending : e.population.pending = #[]
  strategy : e.index.strategy = b.settings.index.strategy
  cellSize : e.index.grid.cellSize = b.cellSize
  coherent : e.index.Coherent e.devices
  limit : ∀ limit, b.settings.lifecycle.maxPopulation = some limit → e.devices.size ≤ limit

variable {b : Blueprint P} {e : Engine U P}

/-! ### The start -/

theorem Sound.of_built (built : b.Built e) : Sound b e := by
  refine ⟨built.settings, built.program, built.populated.numbered, built.populated.lastId,
    built.populated.pending, ?_, ?_, ?_, ?_⟩
  · rw [built.index]
    rfl
  · rw [built.index]
    rfl
  · rw [built.index]
    constructor
    · intro hvalid
      cases hvalid
    · intro _ i d ids hd hids
      obtain ⟨position, schedule, firstDue, h⟩ := built.populated.created i d hd
      rw [h] at hids
      cases hids
  · intro limit hlimit
    exact built.size.trans_le (Blueprint.size_le_of_validate built.valid hlimit)

/-! ### A tick -/

/-- The devices that ask for a clone in the next tick and may have one. -/
def askingInTick (e : Engine U P) : List (Device U) :=
  cloners e.settings.lifecycle.cloneDelay e.afterActuation

def parentsInTick (e : Engine U P) : List (Device U) :=
  whileRoom e.settings.lifecycle.maxPopulation e.size e.askingInTick

/-- The displacements of the clones of the next tick, and the stream after they were drawn. -/
def offsetsInTick (e : Engine U P) : List Vec3 × Sampling.Keystream :=
  cloneOffsets e.settings.lifecycle.cloneOffset e.settings.population.volume e.parentsInTick.length
    e.stream

def clonesInTick (e : Engine U P) : List (Device U) :=
  clones e.program e.time e.settings.lifecycle.cloneDelay e.size e.parentsInTick e.offsetsInTick.1

theorem length_clonesInTick (e : Engine U P) : e.clonesInTick.length = e.parentsInTick.length := by
  rw [clonesInTick, clones, List.length_mapIdx, List.length_zip, offsetsInTick, length_cloneOffsets,
    Nat.min_self]

theorem getElem?_clonesInTick {k : Nat} {parent : Device U} (hparent : e.parentsInTick[k]? = some parent) :
    ∃ offset, e.offsetsInTick.1[k]? = some offset ∧ e.clonesInTick[k]? =
      some (cloneDevice e.program e.time e.settings.lifecycle.cloneDelay (e.size + k + 1) parent offset) := by
  have hk : k < e.offsetsInTick.1.length := by
    rw [offsetsInTick, length_cloneOffsets]
    exact (List.getElem?_eq_some_iff.mp hparent).1
  have hoffset : e.offsetsInTick.1[k]? = some e.offsetsInTick.1[k] := List.getElem?_eq_getElem hk
  have hzip : (e.parentsInTick.zip e.offsetsInTick.1)[k]? = some (parent, e.offsetsInTick.1[k]) :=
    List.getElem?_zip_eq_some.mpr ⟨hparent, hoffset⟩
  refine ⟨_, hoffset, ?_⟩
  rw [clonesInTick, getElem?_clones, hzip, Option.map_some]

theorem Sound.mutation_eq (sound : Sound b e) :
    e.mutation = {
      population := {
        devices := e.afterActuation.map (Device.settled e.settings.lifecycle.cloneDelay) ++
          e.clonesInTick.toArray
        pending := #[]
        lastId := e.size + e.parentsInTick.length }
      stream := e.offsetsInTick.2
      spawned := e.parentsInTick.length
      dropped := e.askingInTick.length - e.parentsInTick.length } := by
  have hnumbered : Numbered e.afterActuation := sound.numbered.of_map_id (map_id_afterActuation e)
  have hsize := size_afterActuation e
  have h := mutationPhase_eq e.settings e.program e.time
    (p := { e.population with devices := e.afterActuation }) e.stream hnumbered
    (sound.lastId.trans hsize.symm) sound.pending
  simp only [hsize] at h
  exact h

theorem Sound.devices_runTick (sound : Sound b e) :
    e.runTick.engine.devices =
      e.afterActuation.map (Device.settled e.settings.lifecycle.cloneDelay) ++
        e.clonesInTick.toArray := by
  rw [runTick_eq, devices, sound.mutation_eq]

theorem Sound.size_runTick (sound : Sound b e) :
    e.runTick.engine.devices.size = e.devices.size + e.parentsInTick.length := by
  rw [sound.devices_runTick, Array.size_append, Array.size_map, size_afterActuation,
    List.size_toArray, length_clonesInTick]
  rfl

theorem mem_afterActuation_of_mem_parentsInTick {parent : Device U} (h : parent ∈ e.parentsInTick) :
    parent ∈ e.afterActuation :=
  Array.mem_toList_iff.mp (List.mem_filter.mp (mem_of_mem_whileRoom h)).1

theorem mem_parentsInTick_clone {parent : Device U} (h : parent ∈ e.parentsInTick) :
    parent.requests.clone = true :=
  Device.asked_of_mayClone (List.mem_filter.mp (mem_of_mem_whileRoom h)).2

theorem Sound.place_of_parent (sound : Sound b e) {parent : Device U} (h : parent ∈ e.parentsInTick) :
    ∃ j < e.size, e.afterActuation[j]? = some parent ∧ parent.id = j + 1 := by
  obtain ⟨j, hj⟩ := Array.mem_iff_getElem?.mp (mem_afterActuation_of_mem_parentsInTick h)
  have hnumbered : Numbered e.afterActuation := sound.numbered.of_map_id (map_id_afterActuation e)
  exact ⟨j, size_afterActuation e ▸ (Array.getElem?_eq_some_iff.mp hj).1, hj, hnumbered j parent hj⟩

theorem Sound.device_runTick (sound : Sound b e) {i : Nat} {d : Device U} (hd : e.devices[i]? = some d) :
    ∃ acted, e.afterActuation[i]? = some acted ∧ acted.identity = d.identity ∧
      e.runTick.engine.devices[i]? = some (acted.settled e.settings.lifecycle.cloneDelay) := by
  obtain ⟨acted, hacted, hidentity⟩ := exists_of_map_eq (identities_afterActuation e) hd
  have hi : i < e.afterActuation.size := (Array.getElem?_eq_some_iff.mp hacted).1
  refine ⟨acted, hacted, hidentity, ?_⟩
  rw [sound.devices_runTick, Array.getElem?_append, if_pos (by rwa [Array.size_map]),
    Array.getElem?_map, hacted, Option.map_some]

/-- After a tick a device was there before, or is the clone of one that has acted. -/
theorem Sound.device_runTick_cases (sound : Sound b e) {i : Nat} {d' : Device U}
    (hd' : e.runTick.engine.devices[i]? = some d') :
    (∃ d, e.devices[i]? = some d) ∨
      ∃ k parent offset, i = e.size + k ∧ e.parentsInTick[k]? = some parent ∧
        e.offsetsInTick.1[k]? = some offset ∧
        d' = cloneDevice e.program e.time e.settings.lifecycle.cloneDelay (i + 1) parent offset := by
  by_cases hi : i < e.devices.size
  · exact .inl ⟨_, Array.getElem?_eq_getElem hi⟩
  · have hsize : e.size ≤ i := Nat.not_lt.mp hi
    rw [sound.devices_runTick, Array.getElem?_append, Array.size_map, size_afterActuation,
      if_neg (Nat.not_lt.mpr hsize), List.getElem?_toArray, clonesInTick, getElem?_clones] at hd'
    obtain ⟨⟨parent, offset⟩, hzip, rfl⟩ := Option.map_eq_some_iff.mp hd'
    obtain ⟨hparent, hoffset⟩ := List.getElem?_zip_eq_some.mp hzip
    refine .inr ⟨i - e.size, parent, offset, (Nat.add_sub_cancel' hsize).symm, hparent, hoffset, ?_⟩
    rw [Nat.add_sub_cancel' hsize]

private theorem Sound.numbered_runTick (sound : Sound b e) : Numbered e.runTick.engine.devices := by
  rw [sound.devices_runTick]
  have hsettled : Numbered
      (e.afterActuation.map (Device.settled e.settings.lifecycle.cloneDelay)) := by
    refine sound.numbered.of_map_id ?_
    rw [Array.map_map, ← map_id_afterActuation]
    exact Array.map_congr_left fun d _ => d.settled_id _
  refine hsettled.append fun k d hd => ?_
  rw [List.getElem?_toArray, clonesInTick, getElem?_clones] at hd
  obtain ⟨clone, -, rfl⟩ := Option.map_eq_some_iff.mp hd
  rw [Array.size_map, size_afterActuation]
  rfl

private theorem whileRoom_le {α : Type} {limit present : Nat} (hpresent : present ≤ limit)
    (asking : List α) : present + (whileRoom (some limit) present asking).length ≤ limit := by
  have h := List.length_take_le (limit - present) asking
  rw [whileRoom]
  omega

private theorem Sound.coherent_runTick (sound : Sound b e) :
    e.runTick.engine.index.Coherent e.runTick.engine.devices := by
  have hindex : e.runTick.engine.index = e.indexAfterTick := by rw [runTick_eq]
  rw [hindex, sound.devices_runTick, indexAfterTick]
  refine NeighborIndex.markDirtyIf_coherent fun hspawned =>
    NeighborIndex.markDirtyIf_coherent fun hmoved => ?_
  have hnone : e.clonesInTick = [] := by
    rw [decide_eq_false_iff_not, sound.mutation_eq] at hspawned
    rw [← List.length_eq_zero_iff, length_clonesInTick]
    exact Nat.eq_zero_of_not_pos hspawned
  have hstay : e.movedCount = 0 := by
    rw [decide_eq_false_iff_not] at hmoved
    exact Nat.eq_zero_of_not_pos hmoved
  have htransmission : e.transmission.index.Coherent e.transmission.devices :=
    Transmission.upTo_coherent (NeighborIndex.beginTick_coherent sound.coherent) _ _
  rw [hnone, Array.append_empty]
  refine htransmission.congr ?_ ?_
  · rw [sites_transmission, ← sites_afterActuation hstay, sites, Array.map_map]
    refine Array.map_congr_left fun d _ => ?_
    obtain ⟨_, _, h⟩ := d.settled_eq e.settings.lifecycle.cloneDelay
    rw [Function.comp_apply, h]
    rfl
  · rw [← caches_afterActuation, Array.map_map]
    refine Array.map_congr_left fun d _ => ?_
    obtain ⟨_, _, h⟩ := d.settled_eq e.settings.lifecycle.cloneDelay
    rw [Function.comp_apply, h]

private theorem Sound.setup_runTick (sound : Sound b e) :
    e.runTick.engine.index.strategy = b.settings.index.strategy ∧
      e.runTick.engine.index.grid.cellSize = b.cellSize := by
  have hsetup := Transmission.upTo_sameSetup e.time (e.index.beginTick e.devices).2.1
    (e.index.beginTick e.devices).2.2 e.devices.size
  have hindex : e.runTick.engine.index = e.indexAfterTick := by rw [runTick_eq]
  rw [hindex, indexAfterTick, NeighborIndex.markDirtyIf_strategy, NeighborIndex.markDirtyIf_strategy,
    NeighborIndex.markDirtyIf_cellSize, NeighborIndex.markDirtyIf_cellSize]
  constructor
  · exact (hsetup.strategy.trans (NeighborIndex.beginTick_strategy _ _)).trans sound.strategy
  · exact (hsetup.cellSize.trans (NeighborIndex.beginTick_cellSize _ _)).trans sound.cellSize

private theorem Sound.runTick (sound : Sound b e) : Sound b e.runTick.engine := by
  have hpopulation : e.runTick.engine.population = e.mutation.population := by rw [runTick_eq]
  refine ⟨?_, ?_, sound.numbered_runTick, ?_, ?_, sound.setup_runTick.1, sound.setup_runTick.2,
    sound.coherent_runTick, ?_⟩
  · rw [runTick_eq]
    exact sound.settings
  · rw [runTick_eq]
    exact sound.program
  · rw [sound.size_runTick, hpopulation, sound.mutation_eq]
    rfl
  · rw [hpopulation, sound.mutation_eq]
  · intro limit hlimit
    have hpresent : e.size ≤ limit := sound.limit limit hlimit
    rw [sound.size_runTick, parentsInTick, sound.settings, hlimit]
    exact whileRoom_le hpresent _

/-! ### The other steps -/

omit [Processor U P] in
private theorem Sound.replace (sound : Sound b e) {devices : Array (Device U)} {index : NeighborIndex}
    (hids : devices.map Device.id = e.devices.map Device.id)
    (hstrategy : index.strategy = e.index.strategy)
    (hcellSize : index.grid.cellSize = e.index.grid.cellSize) (coherent : index.Coherent devices) :
    Sound b { e with index := index, population := { e.population with devices := devices } } := by
  have hsize : devices.size = e.devices.size := by
    rw [← Array.size_map (f := Device.id), hids, Array.size_map]
  refine ⟨sound.settings, sound.program, sound.numbered.of_map_id hids, ?_, sound.pending,
    hstrategy.trans sound.strategy, hcellSize.trans sound.cellSize, coherent, ?_⟩
  · exact sound.lastId.trans hsize.symm
  · intro limit hlimit
    exact hsize.trans_le (sound.limit limit hlimit)

omit [Processor U P] in
private theorem Sound.withDevice (sound : Sound b e) (i : Nat) {f : Device U → Device U}
    (hsite : ∀ d, (f d).site = d.site) (hcache : ∀ d, (f d).neighborCache = d.neighborCache) :
    Sound b (e.withDevice i f) := by
  have hsites : sites (e.devices.modify i f) = sites e.devices := map_modify e.devices i hsite
  exact sound.replace (map_id_eq_of_sites hsites) rfl rfl
    (sound.coherent.congr hsites (map_modify e.devices i hcache))

private theorem Sound.afterRadius (sound : Sound b e) (i : Nat) (radius : Float) :
    Sound b (e.afterRadius i radius) :=
  sound.replace (map_modify e.devices i fun _ => rfl) rfl rfl (NeighborIndex.markDirty_coherent _ _)

omit [Processor U P] in
private theorem Sound.afterQuery (sound : Sound b e) (i : Nat) : Sound b (e.afterQuery i) := by
  have hsetup := NeighborIndex.neighborsOf_sameSetup e.index e.devices i
  exact sound.replace (map_id_eq_of_sites (NeighborIndex.sites_neighborsOf e.index e.devices i))
    hsetup.strategy hsetup.cellSize (NeighborIndex.neighborsOf_coherent sound.coherent i)

theorem Sound.step {e' : Engine U P} (sound : Sound b e) (h : Step e e') : Sound b e' := by
  cases h with
  | tick => exact sound.runTick
  | setPaused paused =>
    exact ⟨sound.settings, sound.program, sound.numbered, sound.lastId, sound.pending,
      sound.strategy, sound.cellSize, sound.coherent, sound.limit⟩
  | setSensor i sensor value => exact sound.withDevice i (fun _ => rfl) fun _ => rfl
  | setRadius i radius => exact sound.afterRadius i radius
  | request i raise => exact sound.withDevice i (fun _ => rfl) fun _ => rfl
  | query i => exact sound.afterQuery i

theorem Reachable.sound (reachable : Reachable b e) : Sound b e :=
  reachable.invariant (fun _ _ h => .of_built (Blueprint.built_of_build h))
    fun _ _ sound h => sound.step h

/-- Only accepted configurations lead to engines. -/
theorem Reachable.valid (reachable : Reachable b e) : b.settings.validate = .ok () := by
  induction reachable with
  | built h => exact (Blueprint.built_of_build h).valid
  | performed op _ ih => exact ih

/-- At every turn of the next tick every device is served what the strategy finds now. -/
theorem Sound.served_transmissionAt (sound : Sound b e) (n i : Nat) :
    (e.transmissionAt n).served i =
      findNeighbors b.settings.index.strategy b.cellSize e.devices i := by
  have hcoherent := NeighborIndex.beginTick_coherent sound.coherent
  have hclean := NeighborIndex.beginTick_dirty e.index e.devices
  rw [transmissionAt, Transmission.served_upTo hcoherent, NeighborIndex.answer, hclean,
    if_neg Bool.false_ne_true, NeighborIndex.beginTick_strategy, NeighborIndex.beginTick_cellSize,
    sound.strategy, sound.cellSize, findNeighbors_congr (NeighborIndex.sites_beginTick _ _)]

end Engine

end SpatialComputer
