import SpatialComputer.Proofs.Engine.DeviceInvariant

/-!
# Engines in another guise

Two engines that run side by side may differ in something that never makes a difference: one shows the other in another guise. A guise dresses single processors and single requests, and whether it does so before or after an operation comes to the same if it does so for one message, one round, one actuation, one settlement and one clone. Everything else in an engine is as without the guise, and so are all the rest of what it answers and of what an observer sees.
-/

namespace SpatialComputer

/-- Another look for processors, pending requests and programs. It may also pass suppressed displacements off as none. -/
structure Guise (U P : Type) where
  processor : U → U := fun u => u
  requests : DeviceId → LifecycleRequests → LifecycleRequests := fun _ requests => requests
  program : P → P := fun program => program
  hidesFaults : Bool := false

namespace Guise

variable {U P : Type} (g : Guise U P)

/-! ### What is dressed -/

def device (d : Device U) : Device U :=
  { d with processor := g.processor d.processor, requests := g.requests d.id d.requests }

def population (p : Population U) : Population U :=
  { p with devices := p.devices.map g.device }

def actuation (outcome : Actuation) : Actuation :=
  if g.hidesFaults && outcome = .suppressed then .idle else outcome

def report (r : TickReport) : TickReport :=
  { r with suppressed := if g.hidesFaults then 0 else r.suppressed }

def metrics (m : Metrics) : Metrics :=
  { m with suppressedFaults := if g.hidesFaults then 0 else m.suppressedFaults }

def engine (e : Engine U P) : Engine U P :=
  { e with
    program := g.program e.program
    population := g.population e.population
    metrics := g.metrics e.metrics }

def blueprint (b : Blueprint P) : Blueprint P :=
  { b with program := g.program b.program }

def event : Event U → Event U
  | .deviceInit d => .deviceInit (g.device d)
  | .deviceExecuted d => .deviceExecuted (g.device d)
  | event => event

def snapshot (s : PopulationSnapshot) : PopulationSnapshot :=
  { s with devices := s.devices.map fun d => { d with requests := g.requests d.id d.requests } }

def answer : Answer U → Answer U
  | .report r => .report (g.report r)
  | .summary s reports => .summary s (reports.map g.report)
  | .device d => .device (g.device d)
  | .snapshot s => .snapshot (g.snapshot s)
  | answer => answer

def given (given : Answer U × List (Event U)) : Answer U × List (Event U) :=
  (g.answer given.1, given.2.map g.event)

def tick (outcome : TickOutcome U P) : TickOutcome U P where
  engine := g.engine outcome.engine
  report := g.report outcome.report
  events := outcome.events.map g.event

def performed (r : Performed U P) : Performed U P where
  engine := g.engine r.engine
  answer := g.answer r.answer
  events := r.events.map g.event

end Guise

/-- Whether a guise makes no difference to single devices. The rounds, actuations and clones of a device may depend on what it hands on in every tick, and clones only need to be dressed right from some id on. -/
structure Guise.Faithful {U P : Type} [Processor U P] (g : Guise U P) (program : P) (known : Nat)
    (p q r : Device U → Prop) : Prop where
  handed : HandedOn program p q r
  kept : KeptBetween p
  color : ∀ u : U, Processor.color (g.processor u) = Processor.color u
  sensor : ∀ u : U, Processor.sensor (g.processor u) = Processor.sensor u
  sensorCount : ∀ u : U, Processor.sensorCount (g.processor u) = Processor.sensorCount u
  deliver : ∀ source u, g.processor (Processor.deliver source u) =
    Processor.deliver (g.processor source) (g.processor u)
  setSensor : ∀ sensor value u, g.processor (Processor.setSensor sensor value u) =
    Processor.setSensor sensor value (g.processor u)
  setRadius : ∀ radius u, g.processor (Processor.setRadius radius u) =
    Processor.setRadius radius (g.processor u)
  requestClone : ∀ id requests clone, g.requests id { requests with clone := clone } =
    { g.requests id requests with clone := clone }
  requestDeath : ∀ id requests, g.requests id { requests with death := true } =
    { g.requests id requests with death := true }
  round : ∀ time d, p d → (g.device d).computeIfDue time = g.device (d.computeIfDue time)
  actuate : ∀ limit bounds d, q d → (g.device d).actuate limit bounds =
    (g.actuation (d.actuate limit bounds).1, g.device (d.actuate limit bounds).2)
  clone : ∀ time delay id parent offset, r parent → known < id →
    cloneDevice (g.program program) time delay id (g.device parent) offset =
      g.device (cloneDevice program time delay id parent offset)

namespace Guise

variable {U P : Type} [Processor U P] {g : Guise U P}

/-! ### What neighbour discovery reads -/

omit [Processor U P] in
theorem sites_map_device (devices : Array (Device U)) :
    sites (devices.map g.device) = sites devices :=
  sites_map (f := g.device) (fun _ => rfl) devices

omit [Processor U P] in
theorem map_id_map_device (devices : Array (Device U)) :
    (devices.map g.device).map Device.id = devices.map Device.id :=
  map_id_eq_of_sites (sites_map_device devices)

omit [Processor U P] in
private theorem bind_neighborCache (devices : Array (Device U)) (i : Nat) :
    (devices.map g.device)[i]?.bind Device.neighborCache = devices[i]?.bind Device.neighborCache := by
  rw [Array.getElem?_map]
  cases devices[i]? <;> rfl

omit [Processor U P] in
private theorem compute_map_device (index : NeighborIndex) (devices : Array (Device U)) (i : Nat) :
    index.compute (devices.map g.device) i = index.compute devices i := by
  have hgrid : index.ensureGrid (devices.map g.device) = index.ensureGrid devices := by
    rw [NeighborIndex.ensureGrid, NeighborIndex.ensureGrid, positions_congr (sites_map_device devices)]
  unfold NeighborIndex.compute
  rw [hgrid, neighborsWithin_congr (sites_map_device devices)]
  simp only [gridNeighbors_congr (sites_map_device devices)]

omit [Processor U P] in
theorem neighborsOf_map_device (index : NeighborIndex) (devices : Array (Device U)) (i : Nat) :
    index.neighborsOf (devices.map g.device) i = ((index.neighborsOf devices i).1,
      (index.neighborsOf devices i).2.1, (index.neighborsOf devices i).2.2.map g.device) := by
  unfold NeighborIndex.neighborsOf
  rw [neighborsWithin_congr (sites_map_device devices), bind_neighborCache, compute_map_device]
  split
  · rfl
  · split
    · rfl
    · obtain ⟨found, index'⟩ := index.compute devices i
      have hcached := map_modify_comm (f := Device.remember found) (g := g.device)
        (h := Device.remember found) (fun _ => rfl) devices i
      exact congrArg (fun cached => (found, index', cached)) hcached.symm

omit [Processor U P] in
private theorem beginTick_map_device (index : NeighborIndex) (devices : Array (Device U)) :
    index.beginTick (devices.map g.device) = ((index.beginTick devices).1,
      (index.beginTick devices).2.1, (index.beginTick devices).2.2.map g.device) := by
  unfold NeighborIndex.beginTick
  split
  · rw [Array.map_map, Array.map_map]
    rfl
  · rfl

/-! ### The transmit phase -/

namespace Faithful

variable {program : P} {known : Nat} {p q r : Device U → Prop}

private theorem receive (faithful : g.Faithful program known p q r) (source : U) (d : Device U) :
    g.device (d.receive source) = (g.device d).receive (g.processor source) :=
  congrArg (fun processor => { g.device d with processor := processor })
    (faithful.deliver source d.processor)

private theorem deliverFrom (faithful : g.Faithful program known p q r) (devices : Array (Device U))
    (receiver : Nat) (id : DeviceId) :
    deliverFrom receiver (devices.map g.device) id =
      (SpatialComputer.deliverFrom receiver devices id).map g.device := by
  unfold SpatialComputer.deliverFrom
  rw [Population.indexIn_congr (map_id_map_device devices)]
  cases Population.indexIn devices id with
  | none => rfl
  | some i =>
    simp only [Option.bind_some, Array.getElem?_map]
    cases devices[i]? with
    | none => rfl
    | some source => exact (map_modify_comm (faithful.receive source.processor) devices receiver).symm

private theorem foldl_deliverFrom (faithful : g.Faithful program known p q r) (receiver : Nat)
    (ids : List DeviceId) : ∀ devices : Array (Device U),
      ids.foldl (SpatialComputer.deliverFrom receiver) (devices.map g.device) =
        (ids.foldl (SpatialComputer.deliverFrom receiver) devices).map g.device := by
  induction ids with
  | nil => exact fun _ => rfl
  | cons id ids ih =>
    intro devices
    rw [List.foldl_cons, List.foldl_cons, faithful.deliverFrom, ih]

end Faithful

private def transmission (g : Guise U P) (s : Transmission U) : Transmission U :=
  { s with devices := s.devices.map g.device }

namespace Faithful

variable {program : P} {known : Nat} {p q r : Device U → Prop}

private theorem step (faithful : g.Faithful program known p q r) (s : Transmission U)
    (time : Float) (i : Nat) :
    (g.transmission s).step time i = g.transmission (s.step time i) := by
  have hdevice : (g.transmission s).devices[i]? = s.devices[i]?.map g.device := Array.getElem?_map
  cases hd : s.devices[i]? with
  | none => simp [Transmission.step, hdevice, hd]
  | some d =>
    have hd' : (g.transmission s).devices[i]? = some (g.device d) := by rw [hdevice, hd, Option.map_some]
    cases hdue : d.transmitDue time with
    | false => rw [Transmission.step_of_not_due hd hdue, Transmission.step_of_not_due hd' hdue]
    | true =>
      have hasked := neighborsOf_map_device (g := g) s.index s.devices i
      have hset := map_modify_comm (f := Device.advanceTransmit time) (g := g.device)
        (h := Device.advanceTransmit time) (fun _ => rfl)
        ((s.served i).foldl (SpatialComputer.deliverFrom i) (s.index.neighborsOf s.devices i).2.2) i
      rw [Transmission.step_of_due hd hdue, Transmission.step_of_due hd' hdue]
      unfold Transmission.served transmission at *
      simp only [hasked, faithful.foldl_deliverFrom, hset]

private theorem upTo (faithful : g.Faithful program known p q r) (devices : Array (Device U))
    (time : Float) (index : NeighborIndex) (n : Nat) :
    Transmission.upTo time index (devices.map g.device) n =
      g.transmission (Transmission.upTo time index devices n) := by
  induction n with
  | zero => rfl
  | succ n ih => rw [Transmission.upTo_succ, Transmission.upTo_succ, ih, faithful.step]

/-! ### Settling and cloning -/

private theorem settlesAlike (faithful : g.Faithful program known p q r) :
    Device.SettlesAlike g.device where
  timer _ := rfl
  elapsed _ := rfl
  asked d := by
    have hasked := congrArg LifecycleRequests.clone (faithful.requestClone d.id d.requests d.requests.clone)
    exact hasked
  charge _ _ := rfl
  drop d := congrArg (fun requests => { g.device d with requests := requests })
    (faithful.requestClone d.id d.requests false)

private theorem clones (faithful : g.Faithful program known p q r) (time delay : Float) {present : Nat}
    (hpresent : known ≤ present) {parents : List (Device U)} (hparents : ∀ d ∈ parents, r d)
    (offsets : List Vec3) :
    clones (g.program program) time delay present (parents.map g.device) offsets =
      (SpatialComputer.clones program time delay present parents offsets).map g.device := by
  apply List.ext_getElem?
  intro k
  rw [getElem?_clones, List.getElem?_map, getElem?_clones, List.zip_map_left, List.getElem?_map,
    Option.map_map, Option.map_map]
  cases hzip : (parents.zip offsets)[k]? with
  | none => rfl
  | some clone =>
    have hparent := hparents _ (List.of_mem_zip (List.mem_of_getElem? hzip)).1
    exact congrArg some (faithful.clone time delay _ clone.1 clone.2 hparent (by omega))

end Faithful

/-! ### Ticks -/

/-- Whether an engine can be dressed: it is sound, its devices are as they should be between two ticks, and the clones to come are dressed right. -/
structure Fitting (b : Blueprint P) (known : Nat) (p : Device U → Prop) (e : Engine U P) : Prop where
  sound : e.Sound b
  devices : ∀ d ∈ e.devices, p d
  known : known ≤ e.size

omit [Processor U P] in
theorem devices_engine (g : Guise U P) (e : Engine U P) : (g.engine e).devices = e.devices.map g.device := rfl

omit [Processor U P] in
theorem size_engine (g : Guise U P) (e : Engine U P) : (g.engine e).size = e.size := Array.size_map

end Guise

variable {U P : Type} [Processor U P] {g : Guise U P} {b : Blueprint P} {e : Engine U P} {known : Nat}
  {p q r : Device U → Prop}

omit [Processor U P] in
theorem Engine.Sound.guise [Processor U P] (sound : e.Sound b) : (g.engine e).Sound (g.blueprint b) := by
  have hsize : (g.engine e).devices.size = e.devices.size := Array.size_map
  refine ⟨sound.settings, congrArg g.program sound.program,
    sound.numbered.of_map_id (Guise.map_id_map_device e.devices), sound.lastId.trans hsize.symm,
    sound.pending, sound.strategy, sound.cellSize, ?_,
    fun limit hlimit => hsize.trans_le (sound.limit limit hlimit)⟩
  refine sound.coherent.congr (Guise.sites_map_device e.devices) ?_
  rw [Guise.devices_engine, Array.map_map]
  rfl

namespace Guise

namespace Fitting

private theorem transmission (faithful : g.Faithful b.program known p q r) (e : Engine U P) :
    (g.engine e).transmission = g.transmission e.transmission := by
  have hupTo := faithful.upTo (e.index.beginTick e.devices).2.2 e.time
    (e.index.beginTick e.devices).2.1 e.devices.size
  have hbegun := beginTick_map_device (g := g) e.index e.devices
  rw [Engine.transmission, Engine.transmissionAt, devices_engine, Array.size_map]
  show Transmission.upTo e.time (e.index.beginTick (e.devices.map g.device)).2.1
    (e.index.beginTick (e.devices.map g.device)).2.2 e.devices.size = _
  rw [hbegun, hupTo]
  rfl

private theorem dueIndices (faithful : g.Faithful b.program known p q r) (e : Engine U P) :
    dueIndices (g.engine e).time (g.engine e).transmission.devices =
      SpatialComputer.dueIndices e.time e.transmission.devices := by
  rw [transmission faithful]
  exact dueIndices_map (f := g.device) (fun _ => rfl) e.transmission.devices

private theorem afterRounds (fitting : Fitting b known p e)
    (faithful : g.Faithful b.program known p q r) :
    (g.engine e).afterRounds = e.afterRounds.map g.device := by
  have hheard := Engine.forall_transmissionAt faithful.handed fitting.devices e.devices.size
  rw [Engine.afterRounds, transmission faithful, Engine.afterRounds]
  show (e.transmission.devices.map g.device).map (Device.computeIfDue e.time) = _
  rw [Array.map_map, Array.map_map]
  exact Array.map_congr_left fun d hd => faithful.round e.time d (hheard d hd)

private theorem actuations (fitting : Fitting b known p e)
    (faithful : g.Faithful b.program known p q r) :
    (g.engine e).actuations = e.actuations.map fun acted => (g.actuation acted.1, g.device acted.2) := by
  have hcomputed := Engine.forall_afterRounds faithful.handed fitting.devices
  rw [Engine.actuations, fitting.afterRounds faithful, Engine.actuations, actuationPhase, actuationPhase,
    Array.map_map, Array.map_map]
  exact Array.map_congr_left fun d hd => faithful.actuate _ _ d (hcomputed d hd)

private theorem afterActuation (fitting : Fitting b known p e)
    (faithful : g.Faithful b.program known p q r) :
    (g.engine e).afterActuation = e.afterActuation.map g.device := by
  rw [Engine.afterActuation, fitting.actuations faithful, Engine.afterActuation, Array.map_map,
    Array.map_map]
  rfl

private theorem movedCount (fitting : Fitting b known p e)
    (faithful : g.Faithful b.program known p q r) : (g.engine e).movedCount = e.movedCount := by
  rw [Engine.movedCount, fitting.actuations faithful, Array.countP_map, Engine.movedCount]
  refine Array.countP_congr fun acted _ => ?_
  rcases acted with ⟨outcome, acted⟩
  unfold actuation
  cases g.hidesFaults <;> cases outcome <;> simp

private theorem suppressedCount (fitting : Fitting b known p e)
    (faithful : g.Faithful b.program known p q r) :
    ((g.engine e).actuations.countP fun (outcome, _) => outcome = .suppressed) =
      if g.hidesFaults then 0 else e.actuations.countP fun (outcome, _) => outcome = .suppressed := by
  rw [fitting.actuations faithful, Array.countP_map]
  cases hhides : g.hidesFaults with
  | true =>
    rw [if_pos rfl, Array.countP_eq_zero]
    rintro ⟨outcome, acted⟩ -
    cases outcome <;> simp [actuation, hhides]
  | false =>
    rw [if_neg Bool.false_ne_true]
    refine Array.countP_congr fun acted _ => ?_
    simp [actuation, hhides]

private theorem askingInTick (fitting : Fitting b known p e)
    (faithful : g.Faithful b.program known p q r) :
    (g.engine e).askingInTick = e.askingInTick.map g.device := by
  rw [Engine.askingInTick, fitting.afterActuation faithful, faithful.settlesAlike.cloners]
  rfl

private theorem parentsInTick (fitting : Fitting b known p e)
    (faithful : g.Faithful b.program known p q r) :
    (g.engine e).parentsInTick = e.parentsInTick.map g.device := by
  rw [Engine.parentsInTick, fitting.askingInTick faithful, whileRoom_map, size_engine]
  rfl

private theorem offsetsInTick (fitting : Fitting b known p e)
    (faithful : g.Faithful b.program known p q r) : (g.engine e).offsetsInTick = e.offsetsInTick := by
  rw [Engine.offsetsInTick, fitting.parentsInTick faithful, List.length_map]
  rfl

private theorem clonesInTick (fitting : Fitting b known p e)
    (faithful : g.Faithful b.program known p q r) :
    (g.engine e).clonesInTick = e.clonesInTick.map g.device := by
  have hacted := Engine.forall_afterActuation faithful.handed fitting.devices
  have hparents : ∀ parent ∈ e.parentsInTick, r parent :=
    fun parent hparent => hacted parent (Engine.mem_afterActuation_of_mem_parentsInTick hparent)
  rw [Engine.clonesInTick, fitting.parentsInTick faithful, fitting.offsetsInTick faithful, size_engine,
    Engine.clonesInTick, fitting.sound.program]
  show SpatialComputer.clones (g.program e.program) _ _ _ _ _ = _
  rw [fitting.sound.program]
  exact faithful.clones e.time _ fitting.known hparents _

private theorem mutation (fitting : Fitting b known p e)
    (faithful : g.Faithful b.program known p q r) :
    (g.engine e).mutation = { e.mutation with population := g.population e.mutation.population } := by
  have hsettled : Device.settled e.settings.lifecycle.cloneDelay ∘ g.device =
      g.device ∘ Device.settled e.settings.lifecycle.cloneDelay :=
    funext fun d => faithful.settlesAlike.settled _ d
  have hdevices : (e.afterActuation.map g.device).map (Device.settled e.settings.lifecycle.cloneDelay) ++
        (e.clonesInTick.map g.device).toArray =
      (e.afterActuation.map (Device.settled e.settings.lifecycle.cloneDelay) ++
        e.clonesInTick.toArray).map g.device := by
    rw [Array.map_append, Array.map_map, Array.map_map, hsettled, ← List.map_toArray]
  rw [(fitting.sound.guise (g := g)).mutation_eq, fitting.sound.mutation_eq,
    fitting.afterActuation faithful, fitting.clonesInTick faithful, fitting.offsetsInTick faithful,
    fitting.parentsInTick faithful, fitting.askingInTick faithful, size_engine, List.length_map,
    List.length_map]
  exact congrArg (fun devices : Array (Device U) => Mutation.mk
    ⟨devices, #[], e.size + e.parentsInTick.length⟩ e.offsetsInTick.2 e.parentsInTick.length
    (e.askingInTick.length - e.parentsInTick.length)) hdevices

private theorem reportOfTick (fitting : Fitting b known p e)
    (faithful : g.Faithful b.program known p q r) :
    (g.engine e).reportOfTick = g.report e.reportOfTick := by
  have htransmitted : (g.engine e).transmission.transmitted = e.transmission.transmitted := by
    rw [transmission faithful]
    rfl
  have hspawned : (g.engine e).mutation.spawned = e.mutation.spawned := by
    rw [fitting.mutation faithful]
  have hdropped : (g.engine e).mutation.dropped = e.mutation.dropped := by
    rw [fitting.mutation faithful]
  unfold Engine.reportOfTick
  rw [htransmitted, dueIndices faithful, fitting.movedCount faithful,
    fitting.suppressedCount faithful, hspawned, hdropped]
  rfl

private theorem indexAfterTick (fitting : Fitting b known p e)
    (faithful : g.Faithful b.program known p q r) :
    (g.engine e).indexAfterTick = e.indexAfterTick := by
  have hindex : (g.engine e).transmission.index = e.transmission.index := by
    rw [transmission faithful]
    rfl
  have hspawned : (g.engine e).mutation.spawned = e.mutation.spawned := by
    rw [fitting.mutation faithful]
  rw [Engine.indexAfterTick, hindex, fitting.movedCount faithful, hspawned, Engine.indexAfterTick]

omit [Processor U P] in
private theorem record (g : Guise U P) (m : Metrics) (r : TickReport) (size : Nat) :
    (g.metrics m).record (g.report r) size = g.metrics (m.record r size) := by
  unfold metrics report
  cases g.hidesFaults <;> rfl

private theorem events (fitting : Fitting b known p e) (faithful : g.Faithful b.program known p q r) :
    (g.engine e).runTick.events = e.runTick.events.map g.event := by
  have hround : ∀ i : Nat, (g.engine e).afterRounds[i]?.map Event.deviceExecuted =
      (e.afterRounds[i]?.map Event.deviceExecuted).map g.event := by
    intro i
    rw [fitting.afterRounds faithful, Array.getElem?_map, Option.map_map, Option.map_map]
    rfl
  have hborn : (((g.population e.mutation.population).devices.toList.drop e.devices.size).map
      Event.deviceInit) =
        ((e.mutation.population.devices.toList.drop e.devices.size).map Event.deviceInit).map g.event := by
    unfold population
    rw [Array.toList_map, ← List.map_drop, List.map_map, List.map_map]
    rfl
  have hsize : (g.engine e).devices.size = e.devices.size := Array.size_map
  rw [Engine.runTick_eq, Engine.runTick_eq]
  simp only [List.map_cons, List.map_append, List.map_filterMap, dueIndices faithful, hround,
    fitting.mutation faithful, hsize, hborn]
  rfl

/-- A tick comes to the same in either guise. -/
theorem runTick (fitting : Fitting b known p e) (faithful : g.Faithful b.program known p q r) :
    (g.engine e).runTick = g.tick e.runTick := by
  have hsize : (g.population e.mutation.population).size = e.mutation.population.size := Array.size_map
  have hevents := fitting.events faithful
  unfold Guise.tick
  rw [← hevents]
  rw [Engine.runTick_eq, Engine.runTick_eq]
  simp only [fitting.mutation faithful, fitting.reportOfTick faithful, fitting.indexAfterTick faithful,
    hsize]
  have hmetrics : (g.engine e).metrics.record (g.report e.reportOfTick) e.mutation.population.size =
    g.metrics (e.metrics.record e.reportOfTick e.mutation.population.size) := record g _ _ _
  rw [hmetrics]
  rfl

end Fitting

end Guise

end SpatialComputer
