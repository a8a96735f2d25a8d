import SpatialComputer.Proofs.Engine.Invariant

/-!
# Engines that have forgotten

What queries leave behind is a list in the cache of a device and the grid of the index. An engine forgets by dropping both, and as long as the index is coherent it does not matter whether it has: a phase carried out before or after forgetting comes to the same, since at every turn a device is served what would be found now. So a tick of an engine and a tick of the engine that has forgotten have the same report, let an observer see the same and leave engines that differ in nothing but what they store.
-/

namespace SpatialComputer

variable {U P : Type} [Processor U P]

/-- The device without the neighbours it has cached. -/
def Device.forget (d : Device U) : Device U := { d with neighborCache := none }

/-- The index without its grid. -/
def NeighborIndex.forget (index : NeighborIndex) : NeighborIndex where
  strategy := index.strategy
  grid := { cellSize := index.grid.cellSize }
  dirty := index.dirty

namespace NeighborIndex

theorem SameSetup.forget {index index' : NeighborIndex} (h : SameSetup index index') :
    index'.forget = index.forget := by
  rw [NeighborIndex.forget, NeighborIndex.forget, h.strategy, h.cellSize, h.dirty]

theorem sameSetup_forget (index : NeighborIndex) : SameSetup index index.forget := ⟨rfl, rfl, rfl⟩

theorem forget_markDirtyIf (changed : Bool) (index : NeighborIndex) :
    (index.markDirtyIf changed).forget = index.forget.markDirtyIf changed := by
  cases changed <;> rfl

omit [Processor U P] in
theorem coherent_forget (index : NeighborIndex) (devices : Array (Device U)) :
    index.forget.Coherent (devices.map Device.forget) := by
  constructor
  · intro hvalid
    cases hvalid
  · intro _ i d ids hd hids
    rw [Array.getElem?_map] at hd
    obtain ⟨d', -, rfl⟩ := Option.map_eq_some_iff.mp hd
    cases hids

end NeighborIndex

omit [Processor U P] in
theorem map_forget_forget (devices : Array (Device U)) :
    (devices.map Device.forget).map Device.forget = devices.map Device.forget := by
  rw [Array.map_map]
  rfl

omit [Processor U P] in
theorem sites_map_forget (devices : Array (Device U)) :
    sites (devices.map Device.forget) = sites devices :=
  sites_map (f := Device.forget) (fun _ => rfl) devices

omit [Processor U P] in
theorem map_id_map_forget (devices : Array (Device U)) :
    (devices.map Device.forget).map Device.id = devices.map Device.id :=
  map_id_eq_of_sites (sites_map_forget devices)

/-! ### The transmit phase -/

private theorem map_forget_deliverFrom (devices : Array (Device U)) (receiver : Nat) (id : DeviceId) :
    (deliverFrom receiver devices id).map Device.forget =
      deliverFrom receiver (devices.map Device.forget) id := by
  unfold deliverFrom
  rw [Population.indexIn_congr (map_id_map_forget devices)]
  cases Population.indexIn devices id with
  | none => rfl
  | some i =>
    simp only [Option.bind_some, Array.getElem?_map]
    cases devices[i]? with
    | none => rfl
    | some source =>
      exact map_modify_comm (g := Device.forget) (h := Device.receive source.processor)
        (fun _ => rfl) devices receiver

private theorem map_forget_foldl_deliverFrom (receiver : Nat) (ids : List DeviceId) :
    ∀ devices : Array (Device U), (ids.foldl (deliverFrom receiver) devices).map Device.forget =
      ids.foldl (deliverFrom receiver) (devices.map Device.forget) := by
  induction ids with
  | nil => intro devices; rfl
  | cons id ids ih =>
    intro devices
    rw [List.foldl_cons, List.foldl_cons, ih, map_forget_deliverFrom]

namespace Transmission

/-- The phase without what the queries so far have stored. -/
def forget (s : Transmission U) : Transmission U where
  devices := s.devices.map Device.forget
  index := s.index.forget
  transmitted := s.transmitted

omit [Processor U P] in
theorem forget_forget (s : Transmission U) : s.forget.forget = s.forget := by
  rw [forget, forget, map_forget_forget]
  rfl

omit [Processor U P] in
private theorem served_forget {s : Transmission U} (coherent : s.index.Coherent s.devices) (i : Nat) :
    s.forget.served i = s.served i := by
  have hforgotten : s.forget.index.Coherent s.forget.devices :=
    NeighborIndex.coherent_forget s.index s.devices
  rw [served, served, NeighborIndex.neighborsOf_fst hforgotten,
    NeighborIndex.neighborsOf_fst coherent]
  exact (NeighborIndex.sameSetup_forget s.index).answer (sites_map_forget s.devices) i

private theorem devices_forget_step {s : Transmission U} {d : Device U} {i : Nat} {time : Float}
    (hd : s.devices[i]? = some d) (hdue : d.transmitDue time = true) :
    (s.step time i).devices.map Device.forget =
      ((s.served i).foldl (deliverFrom i) (s.devices.map Device.forget)).modify i
        (Device.advanceTransmit time) := by
  have hasked : (s.index.neighborsOf s.devices i).2.2.map Device.forget =
      s.devices.map Device.forget := NeighborIndex.map_neighborsOf (fun _ _ => rfl) _ _ _
  rw [step_of_due hd hdue,
    map_modify_comm (g := Device.forget) (h := Device.advanceTransmit time) fun _ => rfl,
    map_forget_foldl_deliverFrom, hasked]

private theorem forget_step {s : Transmission U} (coherent : s.index.Coherent s.devices)
    (time : Float) (i : Nat) :
    (s.forget.step time i).forget = (s.step time i).forget := by
  cases hd : s.devices[i]? with
  | none =>
    have hd' : s.forget.devices[i]? = none := by rw [forget, Array.getElem?_map, hd]; rfl
    have hstep : s.step time i = s := by simp [step, hd]
    have hstep' : s.forget.step time i = s.forget := by simp [step, hd']
    rw [hstep, hstep', forget_forget]
  | some d =>
    have hd' : s.forget.devices[i]? = some d.forget := by
      rw [forget, Array.getElem?_map, hd]
      rfl
    cases hdue : d.transmitDue time with
    | false => rw [step_of_not_due hd hdue, step_of_not_due hd' hdue, forget_forget]
    | true =>
      -- By coherence the device is served the same list whether anything is stored or not.
      have hdevices : (s.forget.step time i).devices.map Device.forget =
          (s.step time i).devices.map Device.forget := by
        rw [devices_forget_step hd' hdue, devices_forget_step hd hdue,
          served_forget coherent, forget, map_forget_forget]
      have hindex : (s.forget.step time i).index.forget = (s.step time i).index.forget := by
        rw [step_of_due hd' hdue, step_of_due hd hdue,
          (NeighborIndex.neighborsOf_sameSetup _ _ _).forget,
          (NeighborIndex.neighborsOf_sameSetup _ _ _).forget]
        exact (NeighborIndex.sameSetup_forget s.index).forget
      have htransmitted : (s.forget.step time i).transmitted = (s.step time i).transmitted := by
        rw [step_of_due hd' hdue, step_of_due hd hdue]
        rfl
      unfold forget at hdevices hindex htransmitted ⊢
      rw [hdevices, hindex, htransmitted]

theorem forget_upTo {index : NeighborIndex} {devices : Array (Device U)}
    (coherent : index.Coherent devices) (time : Float) (n : Nat) :
    (upTo time index.forget (devices.map Device.forget) n).forget =
      (upTo time index devices n).forget := by
  induction n with
  | zero => exact forget_forget { devices := devices, index := index }
  | succ n ih =>
    have coherent' := NeighborIndex.coherent_forget index devices
    rw [upTo_succ, upTo_succ, ← forget_step (upTo_coherent coherent' time n), ih,
      forget_step (upTo_coherent coherent time n)]

end Transmission

/-! ### The other phases -/

private theorem forget_computeIfDue (time : Float) (d : Device U) :
    (d.computeIfDue time).forget = d.forget.computeIfDue time := by
  unfold Device.computeIfDue
  have hdue : d.forget.computeDue time = d.computeDue time := rfl
  rw [hdue]
  split <;> rfl

private theorem actuate_forget (speedLimit : Option Float) (bounds : Option Volume) (d : Device U) :
    d.forget.actuate speedLimit bounds =
      ((d.actuate speedLimit bounds).1, (d.actuate speedLimit bounds).2.forget) := by
  obtain ⟨processor, position, h⟩ := d.actuate_eq speedLimit bounds
  refine (d.actuate_with speedLimit bounds d.requests none).trans ?_
  rw [h]
  rfl

omit [Processor U P] in
private theorem settlesAlike_forget : Device.SettlesAlike (Device.forget (U := U)) :=
  ⟨fun _ => rfl, fun _ => rfl, fun _ => rfl, fun _ _ => rfl, fun _ => rfl⟩

private theorem clones_map_forget (program : P) (time cloneDelay : Float) (present : Nat)
    (parents : List (Device U)) (offsets : List Vec3) :
    clones program time cloneDelay present (parents.map Device.forget) offsets =
      clones program time cloneDelay present parents offsets := by
  apply List.ext_getElem?
  intro k
  rw [getElem?_clones, getElem?_clones, List.zip_map_left, List.getElem?_map, Option.map_map]
  rfl

/-! ### Ticks -/

namespace Engine

/-- The engine without what queries have stored. -/
def forget (e : Engine U P) : Engine U P :=
  { e with
    index := e.index.forget
    population := { e.population with devices := e.population.devices.map Device.forget } }

end Engine

/-- What an observer sees, but for the caches of the devices. -/
def Event.forget : Event U → Event U
  | .preInit settings => .preInit settings
  | .deviceInit d => .deviceInit d.forget
  | .preUpdate time => .preUpdate time
  | .deviceExecuted d => .deviceExecuted d.forget

namespace Engine

variable {b : Blueprint P} {e : Engine U P}

omit [Processor U P] in
theorem Sound.forget [Processor U P] (sound : Sound b e) : Sound b e.forget := by
  have hsize : e.forget.devices.size = e.devices.size := Array.size_map
  refine ⟨sound.settings, sound.program, sound.numbered.of_map_id (map_id_map_forget e.devices),
    sound.lastId.trans hsize.symm, sound.pending, sound.strategy, sound.cellSize,
    NeighborIndex.coherent_forget e.index e.devices, fun limit hlimit => ?_⟩
  exact hsize.trans_le (sound.limit limit hlimit)

omit [Processor U P] in
private theorem forget_beginTick (index : NeighborIndex) (devices : Array (Device U)) :
    (index.forget.beginTick (devices.map Device.forget)).2.1 = (index.beginTick devices).2.1.forget ∧
      (index.forget.beginTick (devices.map Device.forget)).2.2 =
        (index.beginTick devices).2.2.map Device.forget := by
  have hdirty : index.forget.dirty = index.dirty := rfl
  unfold NeighborIndex.beginTick
  rw [hdirty]
  split
  · refine ⟨rfl, ?_⟩
    rw [Array.map_map, Array.map_map]
    rfl
  · exact ⟨rfl, rfl⟩

private theorem forget_transmission (sound : Sound b e) :
    e.forget.transmission.forget = e.transmission.forget := by
  obtain ⟨hindex, hdevices⟩ := forget_beginTick e.index e.devices
  have hsize : e.forget.devices.size = e.devices.size := Array.size_map
  rw [transmission, transmission, transmissionAt, transmissionAt, hsize]
  change (Transmission.upTo e.time (e.index.forget.beginTick (e.devices.map Device.forget)).2.1
    (e.index.forget.beginTick (e.devices.map Device.forget)).2.2 e.devices.size).forget = _
  rw [hindex, hdevices, Transmission.forget_upTo (NeighborIndex.beginTick_coherent sound.coherent)]

private theorem devices_transmission (sound : Sound b e) :
    e.forget.transmission.devices.map Device.forget = e.transmission.devices.map Device.forget :=
  congrArg Transmission.devices (forget_transmission sound)

private theorem dueIndices_transmission (sound : Sound b e) :
    dueIndices e.time e.forget.transmission.devices = dueIndices e.time e.transmission.devices := by
  have hforget : ∀ devices : Array (Device U),
      dueIndices e.time (devices.map Device.forget) = dueIndices e.time devices :=
    dueIndices_map (f := Device.forget) fun _ => rfl
  rw [← hforget, devices_transmission sound, hforget]

private theorem forget_afterRounds (sound : Sound b e) :
    e.forget.afterRounds.map Device.forget = e.afterRounds.map Device.forget := by
  have hround : ∀ devices : Array (Device U),
      (devices.map (Device.computeIfDue e.time)).map Device.forget =
        (devices.map Device.forget).map (Device.computeIfDue e.time) := by
    intro devices
    rw [Array.map_map, Array.map_map]
    exact Array.map_congr_left fun d _ => forget_computeIfDue e.time d
  rw [afterRounds, afterRounds, hround, ← devices_transmission sound]
  exact hround _

private theorem forget_actuations (sound : Sound b e) :
    (e.forget.actuations.map fun acted => (acted.1, acted.2.forget)) =
      e.actuations.map fun acted => (acted.1, acted.2.forget) := by
  have hactuate : ∀ devices : Array (Device U),
      ((actuationPhase e.settings.dynamics e.settings.population.volume devices).map
          fun acted => (acted.1, acted.2.forget)) =
        actuationPhase e.settings.dynamics e.settings.population.volume
          (devices.map Device.forget) := by
    intro devices
    rw [actuationPhase, actuationPhase, Array.map_map, Array.map_map]
    exact Array.map_congr_left fun d _ => (actuate_forget _ _ d).symm
  rw [actuations, actuations, hactuate, ← forget_afterRounds sound]
  exact hactuate _

private theorem countP_actuations (sound : Sound b e) (p : Actuation → Bool) :
    (e.forget.actuations.countP fun acted => p acted.1) =
      e.actuations.countP fun acted => p acted.1 := by
  have h := congrArg (Array.countP fun acted => p acted.1) (forget_actuations sound)
  rwa [Array.countP_map, Array.countP_map] at h

private theorem forget_afterActuation (sound : Sound b e) :
    e.forget.afterActuation.map Device.forget = e.afterActuation.map Device.forget := by
  have h := congrArg (Array.map Prod.snd) (forget_actuations sound)
  rw [Array.map_map, Array.map_map] at h
  rw [afterActuation, afterActuation, Array.map_map, Array.map_map]
  exact h

private theorem forget_parents (sound : Sound b e) :
    e.forget.askingInTick.map Device.forget = e.askingInTick.map Device.forget ∧
      e.forget.parentsInTick.map Device.forget = e.parentsInTick.map Device.forget := by
  have hasking : e.forget.askingInTick.map Device.forget = e.askingInTick.map Device.forget := by
    rw [askingInTick, askingInTick, ← settlesAlike_forget.cloners, ← settlesAlike_forget.cloners,
      forget_afterActuation sound]
    rfl
  refine ⟨hasking, ?_⟩
  have hsize : e.forget.size = e.size := Array.size_map
  rw [parentsInTick, parentsInTick, ← whileRoom_map, ← whileRoom_map, hasking, hsize]
  rfl

private theorem clonesInTick_forget (sound : Sound b e) :
    e.forget.clonesInTick = e.clonesInTick ∧ e.forget.offsetsInTick = e.offsetsInTick := by
  have hparents := (forget_parents sound).2
  have hlength : e.forget.parentsInTick.length = e.parentsInTick.length := by
    rw [← List.length_map Device.forget, hparents, List.length_map]
  have hsize : e.forget.size = e.size := Array.size_map
  have hoffsets : e.forget.offsetsInTick = e.offsetsInTick := by
    rw [offsetsInTick, offsetsInTick, hlength]
    rfl
  refine ⟨?_, hoffsets⟩
  rw [clonesInTick, clonesInTick, hoffsets, ← clones_map_forget, hparents, clones_map_forget, hsize]
  rfl

private theorem forget_mutation (sound : Sound b e) :
    e.forget.mutation.population.devices.map Device.forget =
        e.mutation.population.devices.map Device.forget ∧
      e.forget.mutation = { e.mutation with
        population := { e.mutation.population with
          devices := e.forget.mutation.population.devices } } := by
  obtain ⟨hasking, hparents⟩ := forget_parents sound
  obtain ⟨hclones, hoffsets⟩ := clonesInTick_forget sound
  have hasking : e.forget.askingInTick.length = e.askingInTick.length := by
    rw [← List.length_map Device.forget, hasking, List.length_map]
  have hparents : e.forget.parentsInTick.length = e.parentsInTick.length := by
    rw [← List.length_map Device.forget, hparents, List.length_map]
  have hsize : e.forget.size = e.size := Array.size_map
  have hsettled : ∀ devices : Array (Device U),
      (devices.map (Device.settled e.settings.lifecycle.cloneDelay)).map Device.forget =
        (devices.map Device.forget).map (Device.settled e.settings.lifecycle.cloneDelay) := by
    intro devices
    rw [Array.map_map, Array.map_map]
    exact Array.map_congr_left fun d _ => (settlesAlike_forget.settled _ d).symm
  have hmutation := sound.forget.mutation_eq
  rw [hclones, hoffsets, hasking, hparents, hsize] at hmutation
  rw [hmutation, sound.mutation_eq]
  refine ⟨?_, rfl⟩
  simp only [Array.map_append]
  rw [hsettled, ← forget_afterActuation sound]
  congr 1
  exact hsettled _

private theorem reportOfTick_forget (sound : Sound b e) : e.forget.reportOfTick = e.reportOfTick := by
  have hdue := congrArg List.length (dueIndices_transmission sound)
  have htransmitted : e.forget.transmission.transmitted = e.transmission.transmitted := by
    have h := congrArg Transmission.transmitted (forget_transmission sound)
    exact h
  have hmoved := countP_actuations sound fun outcome => outcome = .moved
  have hsuppressed := countP_actuations sound fun outcome => outcome = .suppressed
  have hmutation := (forget_mutation sound).2
  have hspawned : e.forget.mutation.spawned = e.mutation.spawned := by rw [hmutation]
  have hdropped : e.forget.mutation.dropped = e.mutation.dropped := by rw [hmutation]
  simp only [reportOfTick, movedCount, htransmitted, hmoved, hsuppressed, hspawned, hdropped]
  congr 1

private theorem indexAfterTick_forget (sound : Sound b e) :
    e.forget.indexAfterTick.forget = e.indexAfterTick.forget := by
  have hindex : e.forget.transmission.index.forget = e.transmission.index.forget :=
    congrArg Transmission.index (forget_transmission sound)
  have hmoved : e.forget.movedCount = e.movedCount :=
    countP_actuations sound fun outcome => outcome = .moved
  have hspawned : e.forget.mutation.spawned = e.mutation.spawned := by
    rw [(forget_mutation sound).2]
  rw [indexAfterTick, indexAfterTick, hmoved, hspawned]
  simp only [NeighborIndex.forget_markDirtyIf, hindex]

private theorem map_forget_events (sound : Sound b e) :
    e.forget.runTick.events.map Event.forget = e.runTick.events.map Event.forget := by
  have hround : ∀ i : Nat, Option.map Event.forget (e.forget.afterRounds[i]?.map Event.deviceExecuted) =
      Option.map Event.forget (e.afterRounds[i]?.map Event.deviceExecuted) := by
    intro i
    have h := congrArg (fun devices : Array (Device U) => Option.map Event.deviceExecuted devices[i]?)
      (forget_afterRounds sound)
    simp only [Array.getElem?_map, Option.map_map] at h ⊢
    exact h
  have hborn : ∀ devices : Array (Device U), ∀ n,
      ((devices.toList.drop n).map Event.deviceInit).map Event.forget =
        ((devices.map Device.forget).toList.drop n).map Event.deviceInit := by
    intro devices n
    rw [Array.toList_map, ← List.map_drop, List.map_map, List.map_map]
    rfl
  have hsize : e.forget.devices.size = e.devices.size := Array.size_map
  have htime : e.forget.time = e.time := rfl
  rw [runTick_eq, runTick_eq]
  simp only [List.map_cons, List.map_append, List.map_filterMap, hborn, hround, hsize, htime,
    dueIndices_transmission sound, (forget_mutation sound).1]

end Engine

def TickOutcome.forget (outcome : TickOutcome U P) : TickOutcome U P where
  engine := outcome.engine.forget
  report := outcome.report
  events := outcome.events.map Event.forget

/-- A tick comes to the same before and after forgetting. -/
theorem Engine.Sound.runTick_forget {b : Blueprint P} {e : Engine U P} (sound : Sound b e) :
    e.forget.runTick.forget = e.runTick.forget := by
  obtain ⟨hdevices, hmutation⟩ := forget_mutation sound
  have hreport := reportOfTick_forget sound
  have hindex := indexAfterTick_forget sound
  have hevents := map_forget_events sound
  have hsize : e.forget.mutation.population.size = e.mutation.population.size := by
    have h := congrArg Array.size hdevices
    rwa [Array.size_map, Array.size_map] at h
  have hstream : e.forget.mutation.stream = e.mutation.stream := by rw [hmutation]
  have hpopulation : { e.forget.mutation.population with
        devices := e.forget.mutation.population.devices.map Device.forget } =
      { e.mutation.population with
        devices := e.mutation.population.devices.map Device.forget } := by
    rw [hdevices, hmutation]
  unfold TickOutcome.forget
  rw [hevents, runTick_eq, runTick_eq]
  unfold Engine.forget at hpopulation hindex hreport hsize hstream ⊢
  simp only [hreport, hindex, hsize, hstream]
  rw [hpopulation]

end SpatialComputer
