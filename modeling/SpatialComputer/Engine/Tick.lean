import SpatialComputer.Binary64.Sine
import SpatialComputer.Engine.State

/-!
# One tick

A tick runs four phases against one value of the clock: due devices pull the state of their neighbours, due devices run a round, requested displacements are applied, and clone requests become devices. The clock advances at the end.
-/

namespace SpatialComputer

open Binary64 Sampling

structure TickReport where
  tick : Nat
  time : Float
  transmitted : Nat
  computed : Nat
  moved : Nat
  suppressed : Nat
  spawned : Nat
  droppedClones : Nat
  topologyRebuilt : Bool
deriving DecidableEq

variable {U P : Type} [Processor U P]

/-! ### Transmitting -/

/-- Delivers the state of the device with the given id to the device at `receiver`. -/
def deliverFrom (receiver : Nat) (devices : Array (Device U)) (id : DeviceId) :
    Array (Device U) :=
  match (Population.indexIn devices id).bind fun i => devices[i]? with
  | none => devices
  | some source => devices.modify receiver (Device.receive source.processor)

/-- Devices and index in the course of the transmit phase, with the number of devices that have transmitted. -/
structure Transmission (U : Type) where
  devices : Array (Device U)
  index : NeighborIndex
  transmitted : Nat := 0

/-- Lets the device at `i` pull the state of its neighbours if it is due. -/
def Transmission.step (time : Float) (s : Transmission U) (i : Nat) : Transmission U :=
  match s.devices[i]? with
  | none => s
  | some d =>
    if d.transmitDue time then
      let (found, index, devices) := s.index.neighborsOf s.devices i
      let devices := found.foldl (deliverFrom i) devices
      { devices := devices.modify i (Device.advanceTransmit time)
        index := index
        transmitted := s.transmitted + 1 }
    else s

def transmitPhase (time : Float) (index : NeighborIndex) (devices : Array (Device U)) :
    Transmission U :=
  (List.range devices.size).foldl (Transmission.step time) { devices := devices, index := index }

/-! ### Computing -/

/-- Runs a round of the device if it is due. -/
def Device.computeIfDue (time : Float) (d : Device U) : Device U :=
  if d.computeDue time then d.runRound time else d

def dueIndices (time : Float) (devices : Array (Device U)) : List Nat :=
  (List.range devices.size).filter fun i =>
    match devices[i]? with
    | some d => d.computeDue time
    | none => false

/-- Visits the devices in the given order and runs those that are found due. -/
def computeInOrder (time : Float) (order : List Nat) (devices : Array (Device U)) :
    Array (Device U) :=
  order.foldl (fun devices i => devices.modify i (Device.computeIfDue time)) devices

def computeListed (time : Float) (due : List Nat) (devices : Array (Device U)) :
    Array (Device U) :=
  due.foldl (fun devices i => devices.modify i (Device.runRound time)) devices

/-- Lets every due device run a round. The indices of the due devices are the first result. Devices that compute in parallel are visited in an order of their own and asked one by one whether they are due. -/
def computePhase (inParallel : Bool) (time : Float) (devices : Array (Device U)) :
    List Nat × Array (Device U) :=
  let due := dueIndices time devices
  if inParallel then (due, computeInOrder time (List.range devices.size) devices)
  else (due, computeListed time due devices)

/-! ### Actuation -/

def limitSpeed (limit : Option Float) (delta : Vec3) : Vec3 :=
  match limit with
  | none => delta
  | some limit =>
    let length := delta.length
    if limit < length then delta * (limit / length) else delta

/-- Where a displacement leads, or `none` if the displacement or the place is not finite. -/
def displaced (speedLimit : Option Float) (bounds : Option Volume) (position delta : Vec3) :
    Option Vec3 :=
  if !delta.isFinite then none
  else
    let free := position + limitSpeed speedLimit delta
    let target := match bounds with
      | some volume => volume.clamp free
      | none => free
    if target.isFinite then some target else none

inductive Actuation where
  | idle
  | moved
  | ineffective
  | suppressed
deriving DecidableEq, Repr

/-- Applies the displacement that the device asks for, once. -/
def Device.actuate (speedLimit : Option Float) (bounds : Option Volume) (d : Device U) :
    Actuation × Device U :=
  let delta := Processor.actuators d.processor
  if delta.isZero then (.idle, d.refreshPosition)
  else
    let d := { d with processor := Processor.setActuators .zero d.processor }
    match displaced speedLimit bounds d.position delta with
    | none => (.suppressed, d.refreshPosition)
    | some target =>
      if target == d.position then (.ineffective, d.refreshPosition)
      else (.moved, d.moveTo target)

def actuationPhase (dynamics : DynamicsSettings) (volume : Volume) (devices : Array (Device U)) :
    Array (Actuation × Device U) :=
  devices.map (Device.actuate dynamics.speedLimit (if dynamics.bounded then some volume else none))

/-! ### Mutation -/

/-- A random displacement from a parent to its clone: on a sphere in a volume with depth, on a circle in a flat one. Nothing is drawn for a distance of zero. -/
def cloneOffset (distance : Float) (volume : Volume) (stream : Keystream) : Vec3 × Keystream :=
  if distance == 0 then (.zero, stream)
  else
    let (theta, stream) := angle stream
    if volume.is3d then
      let (phi, stream) := angle stream
      (⟨distance * sine phi * cosine theta, distance * sine phi * sine theta, distance * cosine phi⟩, stream)
    else (⟨distance * cosine theta, distance * sine theta, 0⟩, stream)

/-- Population and stream while granted clone requests are queued, with the number of those dropped. -/
structure Cloning (U : Type) where
  population : Population U
  stream : Keystream
  dropped : Nat := 0

def Population.isFull (p : Population U) (limit : Option Nat) : Bool :=
  match limit with
  | none => false
  | some limit => decide (limit ≤ p.devices.size + p.pending.size)

/-- Queues the clone of a parent, or drops it if the population is full. -/
def Cloning.request (lifecycle : LifecycleSettings) (volume : Volume) (s : Cloning U)
    (parentId : DeviceId) : Cloning U :=
  if s.population.isFull lifecycle.maxPopulation then { s with dropped := s.dropped + 1 }
  else match s.population.find? parentId with
    | none => s
    | some parent =>
      let (offset, stream) := cloneOffset lifecycle.cloneOffset volume s.stream
      { s with
        stream := stream
        population := s.population.defer {
          parent := some parentId
          position := parent.position + offset
          radius := parent.radius
          schedule := parent.schedule
          nextTransmit := parent.nextTransmit
          nextCompute := parent.nextCompute } }

def spawnDevice (program : P) (time cloneDelay : Float) (p : Population U) (id : DeviceId)
    (request : SpawnRequest) : Device U :=
  let processor := match request.parent.bind p.find? with
    | some parent => Processor.spawnClone parent.processor request.position program
    | none => Processor.fresh request.position program
  { Device.create id request.parent request.position request.radius processor request.schedule
      time cloneDelay with
    nextTransmit := request.nextTransmit
    nextCompute := request.nextCompute }

def addSpawn (program : P) (time cloneDelay : Float) (p : Population U) (request : SpawnRequest) :
    Population U :=
  let (id, allocated) := p.allocateId
  allocated.insert (spawnDevice program time cloneDelay allocated id request)

def materialize (program : P) (time cloneDelay : Float) (p : Population U) : Population U :=
  let (requests, p) := p.takePending
  requests.foldl (addSpawn program time cloneDelay) p

structure Mutation (U : Type) where
  population : Population U
  stream : Keystream
  spawned : Nat
  dropped : Nat

/-- Consumes all clone requests, then adds a clone for each one that was granted while there is room. -/
def mutationPhase (settings : Settings) (program : P) (time : Float) (p : Population U)
    (stream : Keystream) : Mutation U :=
  let lifecycle := settings.lifecycle
  let settled := p.devices.map (Device.settleCloneRequest lifecycle.cloneDelay)
  let parents := (settled.toList.filter (·.1)).map fun (_, d) => d.id
  let settledPopulation := { p with devices := settled.map (·.2) }
  let cloning := parents.foldl (Cloning.request lifecycle settings.population.volume)
    { population := settledPopulation, stream := stream }
  { population := materialize program time lifecycle.cloneDelay cloning.population
    stream := cloning.stream
    spawned := cloning.population.pending.size
    dropped := cloning.dropped }

/-! ### The whole tick -/

/-- An engine after a tick, the report of the tick, and what an observer saw. -/
structure TickOutcome (U P : Type) where
  engine : Engine U P
  report : TickReport
  events : List (Event U)

def Metrics.record (m : Metrics) (r : TickReport) (devices : Nat) : Metrics :=
  ((((((m.addTransmits r.transmitted).addComputes r.computed).addMoves r.moved).addSuppressedFaults
    r.suppressed).addSpawns r.spawned).addDroppedClones r.droppedClones).recordTick devices

/-- Runs one tick, paused or not. -/
def Engine.runTick (e : Engine U P) : TickOutcome U P :=
  let time := e.time
  let (rebuilt, index, devices) := e.index.beginTick e.devices
  let transmission := transmitPhase time index devices
  let (due, computed) := computePhase e.settings.engine.parallelCompute time transmission.devices
  let actuated := actuationPhase e.settings.dynamics e.settings.population.volume computed
  let moved := actuated.countP fun (outcome, _) => outcome = .moved
  let suppressed := actuated.countP fun (outcome, _) => outcome = .suppressed
  let mutation := mutationPhase e.settings e.program time
    { e.population with devices := actuated.map (·.2) } e.stream
  let report : TickReport := {
    tick := e.tick
    time := time
    transmitted := transmission.transmitted
    computed := due.length
    moved := moved
    suppressed := suppressed
    spawned := mutation.spawned
    droppedClones := mutation.dropped
    topologyRebuilt := rebuilt }
  { engine := { e with
      population := mutation.population
      index := (transmission.index.markDirtyIf (0 < moved)).markDirtyIf (0 < mutation.spawned)
      time := time + e.settings.engine.stepSize
      tick := e.tick + 1
      stream := mutation.stream
      metrics := e.metrics.record report mutation.population.size }
    report := report
    events :=
      .preUpdate time ::
        (due.filterMap fun i => computed[i]?.map .deviceExecuted) ++
        (mutation.population.devices.toList.drop devices.size).map .deviceInit }

end SpatialComputer
