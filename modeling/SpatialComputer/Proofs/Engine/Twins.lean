import SpatialComputer.Proofs.Engine.Invariant

/-!
# Twin engines

Two engines are twins if they differ in how neighbours are found and in what their indexes have stored, and in nothing else. As long as the cells cover the neighbours of every device, twins answer every operation alike and are twins again afterwards: a query leaves the same list in the same cache, and from there on the phases of a tick do not see the index at all.
-/

namespace SpatialComputer

variable {U P : Type} [Processor U P]

namespace NeighborIndex

structure Paired (cellSize : Float) (devices : Array (Device U)) (index index' : NeighborIndex) :
    Prop where
  bruteForce : index.strategy = .bruteForce
  grid : index'.strategy = .grid
  cellSize : index'.grid.cellSize = cellSize
  dirty : index'.dirty = index.dirty
  coherent : index.Coherent devices
  coherent' : index'.Coherent devices

variable {cellSize : Float} {devices devices' : Array (Device U)} {index index' : NeighborIndex}

theorem Paired.congr (paired : Paired cellSize devices index index')
    (same : sites devices' = sites devices)
    (caches : devices'.map Device.neighborCache = devices.map Device.neighborCache) :
    Paired cellSize devices' index index' :=
  ⟨paired.bruteForce, paired.grid, paired.cellSize, paired.dirty,
    paired.coherent.congr same caches, paired.coherent'.congr same caches⟩

private theorem Paired.answer (paired : Paired cellSize devices index index') {i : Nat}
    (covered : Covered cellSize devices i) : index'.answer devices i = index.answer devices i := by
  unfold NeighborIndex.answer findNeighbors
  rw [paired.dirty, paired.bruteForce, paired.grid, paired.cellSize]
  simp only [(gridNeighbors_eq_iff cellSize devices i).mpr covered]

theorem Paired.neighborsOf (paired : Paired cellSize devices index index') {i : Nat}
    (covered : Covered cellSize devices i) :
    (index'.neighborsOf devices i).1 = (index.neighborsOf devices i).1 ∧
      (index'.neighborsOf devices i).2.2 = (index.neighborsOf devices i).2.2 ∧
      Paired cellSize (index.neighborsOf devices i).2.2 (index.neighborsOf devices i).2.1
        (index'.neighborsOf devices i).2.1 := by
  have hanswer := paired.answer covered
  have hdevices : (index'.neighborsOf devices i).2.2 = (index.neighborsOf devices i).2.2 := by
    rw [neighborsOf_devices paired.coherent', neighborsOf_devices paired.coherent, paired.dirty,
      hanswer]
  have hsetup := neighborsOf_sameSetup index devices i
  have hsetup' := neighborsOf_sameSetup index' devices i
  refine ⟨?_, hdevices, ?_⟩
  · rw [neighborsOf_fst paired.coherent', neighborsOf_fst paired.coherent, hanswer]
  · refine ⟨hsetup.strategy.trans paired.bruteForce, hsetup'.strategy.trans paired.grid,
      hsetup'.cellSize.trans paired.cellSize, ?_, neighborsOf_coherent paired.coherent i, ?_⟩
    · rw [hsetup'.dirty, hsetup.dirty, paired.dirty]
    · rw [← hdevices]
      exact neighborsOf_coherent paired.coherent' i

theorem Paired.beginTick (paired : Paired cellSize devices index index') :
    (index'.beginTick devices).2.2 = (index.beginTick devices).2.2 ∧
      Paired cellSize (index.beginTick devices).2.2 (index.beginTick devices).2.1
        (index'.beginTick devices).2.1 := by
  have hdevices : (index'.beginTick devices).2.2 = (index.beginTick devices).2.2 := by
    unfold NeighborIndex.beginTick
    rw [paired.dirty]
    split <;> rfl
  refine ⟨hdevices, ?_⟩
  refine ⟨(beginTick_strategy _ _).trans paired.bruteForce,
    (beginTick_strategy _ _).trans paired.grid, (beginTick_cellSize _ _).trans paired.cellSize, ?_,
    beginTick_coherent paired.coherent, ?_⟩
  · rw [beginTick_dirty, beginTick_dirty]
  · rw [← hdevices]
    exact beginTick_coherent paired.coherent'

end NeighborIndex

/-! ### The transmit phase -/

namespace Transmission

private structure Paired (cellSize : Float) (s s' : Transmission U) : Prop where
  devices : s'.devices = s.devices
  transmitted : s'.transmitted = s.transmitted
  index : NeighborIndex.Paired cellSize s.devices s.index s'.index

private theorem Paired.step {cellSize : Float} {s s' : Transmission U} (paired : Paired cellSize s s')
    {i : Nat} (covered : Covered cellSize s.devices i) (time : Float) :
    Paired cellSize (s.step time i) (s'.step time i) := by
  obtain ⟨hserved, hasked, hindex⟩ := paired.index.neighborsOf covered
  cases hd : s.devices[i]? with
  | none =>
    have hd' : s'.devices[i]? = none := by rwa [paired.devices]
    have hstep : s.step time i = s := by simp [Transmission.step, hd]
    have hstep' : s'.step time i = s' := by simp [Transmission.step, hd']
    rwa [hstep, hstep']
  | some d =>
    have hd' : s'.devices[i]? = some d := by rwa [paired.devices]
    cases hdue : d.transmitDue time with
    | false => rwa [step_of_not_due hd hdue, step_of_not_due hd' hdue]
    | true =>
      rw [step_of_due hd hdue, step_of_due hd' hdue, served, served, paired.devices, hserved, hasked,
        paired.transmitted]
      refine ⟨rfl, rfl, hindex.congr ?_ ?_⟩
      · exact map_pull (fun _ _ => rfl) (fun _ _ => rfl) time i _ _
      · exact map_pull (fun _ _ => rfl) (fun _ _ => rfl) time i _ _

private theorem Paired.upTo {cellSize : Float} {devices : Array (Device U)} {index index' : NeighborIndex}
    (paired : NeighborIndex.Paired cellSize devices index index')
    (covered : ∀ i, Covered cellSize devices i) (time : Float) (n : Nat) :
    Paired cellSize (Transmission.upTo time index devices n)
      (Transmission.upTo time index' devices n) := by
  induction n with
  | zero => exact ⟨rfl, rfl, paired⟩
  | succ n ih =>
    rw [upTo_succ, upTo_succ]
    exact ih.step ((covered n).congr (sites_upTo time index devices n)) time

end Transmission

/-! ### Ticks -/

def Settings.withStrategy (strategy : IndexStrategy) (s : Settings) : Settings :=
  { s with index := { s.index with strategy := strategy } }

/-- The blueprint with another way to find neighbours. -/
def Blueprint.withStrategy (strategy : IndexStrategy) (b : Blueprint P) : Blueprint P :=
  { b with settings := b.settings.withStrategy strategy }

namespace Engine

/-- The engine that goes by the cells, with another index. -/
def twin (e : Engine U P) (index : NeighborIndex) : Engine U P :=
  { e with settings := e.settings.withStrategy .grid, index := index }

/-- Whether two engines, one built to test every device and one to go by the cells, differ in nothing but that. -/
structure Twins (b : Blueprint P) (e e' : Engine U P) : Prop where
  reachable : Reachable (b.withStrategy .bruteForce) e
  reachable' : Reachable (b.withStrategy .grid) e'
  twin : e' = e.twin e'.index
  dirty : e'.index.dirty = e.index.dirty

variable {b : Blueprint P} {e e' : Engine U P}

theorem Twins.population (twins : Twins b e e') : e'.population = e.population := by
  rw [twins.twin]
  rfl

theorem Twins.paired (twins : Twins b e e') :
    NeighborIndex.Paired b.cellSize e.devices e.index e'.index := by
  have sound := twins.reachable.sound
  have sound' := twins.reachable'.sound
  refine ⟨sound.strategy, sound'.strategy, sound'.cellSize, twins.dirty, sound.coherent, ?_⟩
  have hcoherent := sound'.coherent
  rwa [devices, twins.population] at hcoherent

private theorem Twins.transmission (twins : Twins b e e') (covered : ∀ i, Covered b.cellSize e.devices i) :
    e'.transmission.devices = e.transmission.devices ∧
      e'.transmission.transmitted = e.transmission.transmitted := by
  obtain ⟨hdevices, hpaired⟩ := twins.paired.beginTick
  have hcovered : ∀ i, Covered b.cellSize (e.index.beginTick e.devices).2.2 i :=
    fun i => (covered i).congr (NeighborIndex.sites_beginTick _ _)
  have htime : e'.time = e.time := by
    rw [twins.twin]
    rfl
  have hphase := Transmission.Paired.upTo hpaired hcovered e.time e.devices.size
  rw [Engine.transmission, Engine.transmission, transmissionAt, transmissionAt, devices,
    twins.population, htime]
  rw [devices] at hdevices hphase
  rw [hdevices]
  exact ⟨hphase.devices, hphase.transmitted⟩

private theorem Twins.mutation (twins : Twins b e e') (covered : ∀ i, Covered b.cellSize e.devices i) :
    e'.afterRounds = e.afterRounds ∧ e'.actuations = e.actuations ∧ e'.mutation = e.mutation := by
  have htransmission := (twins.transmission covered).1
  have hrounds : e'.afterRounds = e.afterRounds := by
    rw [afterRounds, afterRounds, htransmission, twins.twin]
    rfl
  have hactuations : e'.actuations = e.actuations := by
    rw [actuations, actuations, hrounds, twins.twin]
    rfl
  refine ⟨hrounds, hactuations, ?_⟩
  rw [Engine.mutation, Engine.mutation, afterActuation, afterActuation, hactuations, twins.twin]
  rfl

private theorem Twins.reportOfTick (twins : Twins b e e')
    (covered : ∀ i, Covered b.cellSize e.devices i) : e'.reportOfTick = e.reportOfTick := by
  obtain ⟨htransmission, htransmitted⟩ := twins.transmission covered
  obtain ⟨-, hactuations, hmutation⟩ := twins.mutation covered
  have hdirty : e'.topologyDirty = e.topologyDirty := twins.dirty
  have hclock : e'.tick = e.tick ∧ e'.time = e.time := by
    rw [twins.twin]
    exact ⟨rfl, rfl⟩
  rw [Engine.reportOfTick, Engine.reportOfTick, movedCount, movedCount, htransmission, htransmitted,
    hactuations, hmutation, hdirty, hclock.1, hclock.2]

private theorem indexAfterTick_dirty (e : Engine U P) :
    e.indexAfterTick.dirty = (decide (0 < e.movedCount) || decide (0 < e.mutation.spawned)) := by
  have hclean : e.transmission.index.dirty = false := by
    rw [Engine.transmission, transmissionAt, (Transmission.upTo_sameSetup _ _ _ _).dirty,
      NeighborIndex.beginTick_dirty]
  rw [indexAfterTick]
  cases decide (0 < e.movedCount) <;> cases decide (0 < e.mutation.spawned) <;>
    simp [NeighborIndex.markDirtyIf, NeighborIndex.markDirty, hclean]

/-- A tick looks the same on both, and leaves twins. -/
theorem Twins.runTick (twins : Twins b e e') (covered : ∀ i, Covered b.cellSize e.devices i) :
    Twins b e.runTick.engine e'.runTick.engine ∧ e'.runTick.report = e.runTick.report ∧
      e'.runTick.events = e.runTick.events := by
  have htransmission := (twins.transmission covered).1
  obtain ⟨hrounds, hactuations, hmutation⟩ := twins.mutation covered
  have hreport := twins.reportOfTick covered
  -- Stored lists may differ, but the flag is raised by what happens in the tick.
  have hdirty : e'.indexAfterTick.dirty = e.indexAfterTick.dirty := by
    rw [indexAfterTick_dirty, indexAfterTick_dirty, movedCount, movedCount, hactuations, hmutation]
  have hdevices : e'.devices = e.devices := by rw [devices, twins.population, devices]
  have htime : e'.time = e.time := by
    rw [twins.twin]
    rfl
  refine ⟨⟨.performed .tick twins.reachable, .performed .tick twins.reachable', ?_, ?_⟩, ?_, ?_⟩
  · rw [runTick_eq, runTick_eq, hreport, hmutation, twins.twin]
    rfl
  · rw [runTick_eq, runTick_eq]
    exact hdirty
  · rw [runTick_eq, runTick_eq]
    exact hreport
  · rw [runTick_eq, runTick_eq, hrounds, hmutation, htransmission, hdevices, htime]

end Engine

end SpatialComputer
