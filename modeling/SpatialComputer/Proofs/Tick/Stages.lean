import SpatialComputer.Proofs.Tick.Transmission

/-!
# The stages of a tick

A tick as a chain of named stages: the devices after the transmit phase, after the rounds and after the actuation, and what the mutation phase makes of them. Whether devices compute in parallel or one after another, a round is run on exactly the devices that were due when the phase began.
-/

namespace SpatialComputer

variable {U P : Type} [Processor U P]

/-! ### Computing -/

theorem mem_dueIndices {time : Float} {devices : Array (Device U)} {i : Nat} :
    i ∈ dueIndices time devices ↔ ∃ d, devices[i]? = some d ∧ d.computeDue time = true := by
  simp only [dueIndices, List.mem_filter, List.mem_range]
  constructor
  · rintro ⟨hi, hdue⟩
    rw [Array.getElem?_eq_getElem hi] at hdue ⊢
    exact ⟨_, rfl, hdue⟩
  · rintro ⟨d, hd, hdue⟩
    rw [hd]
    exact ⟨(Array.getElem?_eq_some_iff.mp hd).1, hdue⟩

theorem nodup_dueIndices (time : Float) (devices : Array (Device U)) :
    (dueIndices time devices).Nodup :=
  List.nodup_range.filter _

theorem dueIndices_map {time : Float} {f : Device U → Device U}
    (hf : ∀ d, (f d).computeDue time = d.computeDue time) (devices : Array (Device U)) :
    dueIndices time (devices.map f) = dueIndices time devices := by
  unfold dueIndices
  rw [Array.size_map]
  refine List.filter_congr fun i _ => ?_
  rw [Array.getElem?_map]
  cases devices[i]? with
  | none => rfl
  | some d => exact hf d

private theorem computeInOrder_range (time : Float) (devices : Array (Device U)) :
    computeInOrder time (List.range devices.size) devices =
      devices.map (Device.computeIfDue time) := by
  apply Array.ext_getElem?
  intro i
  rw [computeInOrder, getElem?_foldl_modify _ List.nodup_range, Array.getElem?_map]
  split
  · rfl
  · rename_i hi
    rw [List.mem_range, Nat.not_lt] at hi
    rw [Array.getElem?_eq_none hi]
    rfl

private theorem computeListed_dueIndices (time : Float) (devices : Array (Device U)) :
    computeListed time (dueIndices time devices) devices =
      devices.map (Device.computeIfDue time) := by
  apply Array.ext_getElem?
  intro i
  rw [computeListed, getElem?_foldl_modify _ (nodup_dueIndices time devices), Array.getElem?_map]
  cases hd : devices[i]? with
  | none => simp
  | some d =>
    have hdue : i ∈ dueIndices time devices ↔ d.computeDue time = true := by
      rw [mem_dueIndices, hd]
      simp
    by_cases hcompute : d.computeDue time = true
    · simp [hdue, hcompute, Device.computeIfDue]
    · simp [hdue, hcompute, Device.computeIfDue]

theorem computePhase_eq (inParallel : Bool) (time : Float) (devices : Array (Device U)) :
    computePhase inParallel time devices =
      (dueIndices time devices, devices.map (Device.computeIfDue time)) := by
  unfold computePhase
  dsimp only
  split
  · rw [computeInOrder_range]
  · rw [computeListed_dueIndices]

namespace Engine

/-! ### Naming the stages -/

/-- The transmit phase of the next tick when the turn of the device at `n` comes. -/
def transmissionAt (e : Engine U P) (n : Nat) : Transmission U :=
  Transmission.upTo e.time (e.index.beginTick e.devices).2.1 (e.index.beginTick e.devices).2.2 n

/-- The list that the device at `i` is served in the next tick if it transmits. -/
def servedInTick (e : Engine U P) (i : Nat) : List DeviceId :=
  (e.transmissionAt i).served i

def transmission (e : Engine U P) : Transmission U :=
  e.transmissionAt e.devices.size

/-- The devices after the rounds of the next tick. -/
def afterRounds (e : Engine U P) : Array (Device U) :=
  e.transmission.devices.map (Device.computeIfDue e.time)

/-- What becomes of the displacements in the next tick. -/
def actuations (e : Engine U P) : Array (Actuation × Device U) :=
  actuationPhase e.settings.dynamics e.settings.population.volume e.afterRounds

/-- The devices after the actuation of the next tick, when the mutation phase begins. -/
def afterActuation (e : Engine U P) : Array (Device U) :=
  e.actuations.map (·.2)

def mutation (e : Engine U P) : Mutation U :=
  mutationPhase e.settings e.program e.time { e.population with devices := e.afterActuation } e.stream

def movedCount (e : Engine U P) : Nat :=
  e.actuations.countP fun (outcome, _) => outcome = .moved

def reportOfTick (e : Engine U P) : TickReport where
  tick := e.tick
  time := e.time
  transmitted := e.transmission.transmitted
  computed := (dueIndices e.time e.transmission.devices).length
  moved := e.movedCount
  suppressed := e.actuations.countP fun (outcome, _) => outcome = .suppressed
  spawned := e.mutation.spawned
  droppedClones := e.mutation.dropped
  topologyRebuilt := e.topologyDirty

def indexAfterTick (e : Engine U P) : NeighborIndex :=
  (e.transmission.index.markDirtyIf (0 < e.movedCount)).markDirtyIf (0 < e.mutation.spawned)

theorem transmitPhase_eq_transmission (e : Engine U P) :
    transmitPhase e.time (e.index.beginTick e.devices).2.1 (e.index.beginTick e.devices).2.2 =
      e.transmission := by
  rw [Transmission.transmitPhase_eq_upTo, NeighborIndex.size_beginTick]
  rfl

/-- A tick in terms of its stages. -/
theorem runTick_eq (e : Engine U P) :
    e.runTick = {
      engine := { e with
        population := e.mutation.population
        index := e.indexAfterTick
        time := e.time + e.settings.engine.stepSize
        tick := e.tick + 1
        stream := e.mutation.stream
        metrics := e.metrics.record e.reportOfTick e.mutation.population.size }
      report := e.reportOfTick
      events := .preUpdate e.time ::
        ((dueIndices e.time e.transmission.devices).filterMap fun i =>
          e.afterRounds[i]?.map .deviceExecuted) ++
        (e.mutation.population.devices.toList.drop e.devices.size).map .deviceInit } := by
  have hrebuilt : (e.index.beginTick e.devices).1 = e.topologyDirty := NeighborIndex.beginTick_fst _ _
  have hsize := NeighborIndex.size_beginTick e.index e.devices
  unfold runTick
  simp only [transmitPhase_eq_transmission, computePhase_eq, hrebuilt, hsize]
  rfl

end Engine

/-! ### What the stages leave alone -/

/-- What a tick never changes of a device. -/
structure Identity where
  id : DeviceId
  parent : Option DeviceId
  radius : Float
  schedule : Schedule

def Device.identity (d : Device U) : Identity where
  id := d.id
  parent := d.parent
  radius := d.radius
  schedule := d.schedule

theorem Device.computeIfDue_eq (time : Float) (d : Device U) :
    ∃ processor elapsed last requests next, d.computeIfDue time =
      { d with
        processor := processor
        roundElapsed := elapsed
        lastCompute := last
        requests := requests
        nextCompute := next } := by
  unfold Device.computeIfDue
  split <;> exact ⟨_, _, _, _, _, rfl⟩

theorem Device.actuate_eq (speedLimit : Option Float) (bounds : Option Volume) (d : Device U) :
    ∃ processor position, (d.actuate speedLimit bounds).2 =
      { d with processor := processor, position := position } := by
  unfold Device.actuate
  dsimp only
  split
  · exact ⟨_, _, rfl⟩
  · split
    · exact ⟨_, _, rfl⟩
    · split <;> exact ⟨_, _, rfl⟩

theorem Device.actuate_with (speedLimit : Option Float) (bounds : Option Volume) (d : Device U)
    (requests : LifecycleRequests) (cache : Option (List DeviceId)) :
    ({ d with requests := requests, neighborCache := cache }).actuate speedLimit bounds =
      ((d.actuate speedLimit bounds).1,
        { (d.actuate speedLimit bounds).2 with requests := requests, neighborCache := cache }) := by
  unfold Device.actuate
  dsimp only
  split
  · rfl
  · split
    · rfl
    · split <;> rfl

theorem Device.position_actuate {speedLimit : Option Float} {bounds : Option Volume} {d : Device U}
    (hmoved : (d.actuate speedLimit bounds).1 ≠ .moved) :
    (d.actuate speedLimit bounds).2.position = d.position := by
  unfold Device.actuate at hmoved ⊢
  dsimp only at hmoved ⊢
  split
  · rfl
  · split
    · rfl
    · split
      · rfl
      · simp_all

namespace Engine

/-- What neither rounds nor displacements change of a device is as the transmit phase left it. -/
theorem map_afterActuation {β : Type} {g : Device U → β}
    (hround : ∀ time d, g (Device.computeIfDue time d) = g d)
    (hactuate : ∀ limit bounds d, g (Device.actuate limit bounds d).2 = g d) (e : Engine U P) :
    e.afterActuation.map g = e.transmission.devices.map g := by
  rw [afterActuation, actuations, actuationPhase, afterRounds, Array.map_map, Array.map_map,
    Array.map_map]
  exact Array.map_congr_left fun d _ => (hactuate _ _ _).trans (hround _ _)

theorem device_atTurn {β : Type} {g : Device U → β}
    (hg : ∀ d : Device U, g { d with neighborCache := none } = g d) {e : Engine U P} {i : Nat}
    {d : Device U} (hd : e.devices[i]? = some d) :
    ∃ d', (e.transmissionAt i).devices[i]? = some d' ∧ g d' = g d := by
  obtain ⟨d', hd', hsame⟩ := exists_of_map_eq (NeighborIndex.map_beginTick hg e.index e.devices) hd
  refine ⟨d', ?_, hsame⟩
  rw [transmissionAt, Transmission.getElem?_upTo_of_le _ _ _ (Nat.le_refl i), hd']

/-- What the transmit phase does not touch is at every turn as it was when the tick began. -/
theorem map_transmissionAt {β : Type} {g : Device U → β} (unheard : Unheard g)
    (hg : ∀ d : Device U, g { d with neighborCache := none } = g d) (e : Engine U P) (n : Nat) :
    (e.transmissionAt n).devices.map g = e.devices.map g :=
  (Transmission.map_upTo unheard _ _ _ _).trans (NeighborIndex.map_beginTick hg _ _)

theorem sites_transmission (e : Engine U P) : sites e.transmission.devices = sites e.devices :=
  (Transmission.sites_upTo _ _ _ _).trans (NeighborIndex.sites_beginTick _ _)

theorem identities_afterActuation (e : Engine U P) :
    e.afterActuation.map Device.identity = e.devices.map Device.identity := by
  have hphase : e.transmission.devices.map Device.identity = e.devices.map Device.identity :=
    map_transmissionAt ⟨fun _ _ => rfl, fun _ _ => rfl, fun _ _ => rfl⟩ (fun _ => rfl) e _
  rw [← hphase]
  refine map_afterActuation (fun time d => ?_) (fun limit bounds d => ?_) e
  · obtain ⟨_, _, _, _, _, h⟩ := d.computeIfDue_eq time
    rw [h]
    rfl
  · obtain ⟨_, _, h⟩ := d.actuate_eq limit bounds
    rw [h]
    rfl

theorem map_id_afterActuation (e : Engine U P) :
    e.afterActuation.map Device.id = e.devices.map Device.id := by
  have h := congrArg (Array.map Identity.id) (identities_afterActuation e)
  rwa [Array.map_map, Array.map_map] at h

theorem size_afterActuation (e : Engine U P) : e.afterActuation.size = e.size := by
  have h := congrArg Array.size (map_id_afterActuation e)
  rwa [Array.size_map, Array.size_map] at h

theorem caches_afterActuation (e : Engine U P) :
    e.afterActuation.map Device.neighborCache = e.transmission.devices.map Device.neighborCache := by
  refine map_afterActuation (fun time d => ?_) (fun limit bounds d => ?_) e
  · obtain ⟨_, _, _, _, _, h⟩ := d.computeIfDue_eq time
    rw [h]
  · obtain ⟨_, _, h⟩ := d.actuate_eq limit bounds
    rw [h]

theorem sites_afterRounds (e : Engine U P) : sites e.afterRounds = sites e.devices := by
  rw [afterRounds, ← sites_transmission e, sites, sites, Array.map_map]
  refine Array.map_congr_left fun d _ => ?_
  obtain ⟨_, _, _, _, _, h⟩ := d.computeIfDue_eq e.time
  rw [Function.comp_apply, h]
  rfl

theorem sites_afterActuation {e : Engine U P} (hmoved : e.movedCount = 0) :
    sites e.afterActuation = sites e.devices := by
  have hstay : ∀ d ∈ e.afterRounds, (Device.actuate e.settings.dynamics.speedLimit
      (if e.settings.dynamics.bounded then some e.settings.population.volume else none) d).1 ≠
        .moved := by
    intro d hd heq
    rw [movedCount, Array.countP_eq_zero] at hmoved
    exact hmoved _ (Array.mem_map_of_mem hd) (by simpa using heq)
  rw [← sites_afterRounds, afterActuation, actuations, actuationPhase, sites, sites, Array.map_map,
    Array.map_map]
  refine Array.map_congr_left fun d hd => ?_
  have hposition := Device.position_actuate (hstay d hd)
  obtain ⟨_, _, hactuate⟩ := d.actuate_eq e.settings.dynamics.speedLimit
    (if e.settings.dynamics.bounded then some e.settings.population.volume else none)
  simp only [Function.comp_apply, Device.site, hposition]
  rw [hactuate]

theorem map_id_afterRounds (e : Engine U P) :
    e.afterRounds.map Device.id = e.devices.map Device.id :=
  map_id_eq_of_sites (sites_afterRounds e)

end Engine

/-! ### What an observer is told -/

/-- The devices that an observer is told have run a round. -/
def executed (events : List (Event U)) : List (Device U) :=
  events.filterMap fun
    | .deviceExecuted d => some d
    | _ => none

namespace Engine

/-- An observer of a tick is told of the rounds that were due, in the order of the ids. -/
theorem executed_runTick (e : Engine U P) :
    executed e.runTick.events =
      (dueIndices e.time e.transmission.devices).filterMap fun i => e.afterRounds[i]? := by
  have hrounds : ∀ i : Nat, (Option.map Event.deviceExecuted e.afterRounds[i]?).bind (fun
      | .deviceExecuted d => some d
      | _ => none) = e.afterRounds[i]? := by
    intro i
    cases e.afterRounds[i]? <;> rfl
  have hborn : ∀ born : List (Device U), executed (born.map Event.deviceInit) = [] := by
    intro born
    simp [executed]
  rw [runTick_eq]
  unfold executed at hborn ⊢
  rw [List.filterMap_append, hborn, List.append_nil, List.filterMap_cons, List.filterMap_filterMap]
  simp only [hrounds]

end Engine

end SpatialComputer
