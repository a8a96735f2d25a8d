import SpatialComputer.Engine.State

/-!
# Building an engine

The configuration is checked, then the devices are created one after another. Each device takes its draws from the stream in a fixed order: its position, the period of its transmit timer, the period of its compute timer, and the lag of its first due time.
-/

namespace SpatialComputer

open Sampling

/-- What is needed to build an engine. Beside the configuration it may hold what a configuration file cannot express. -/
structure Blueprint (P : Type) where
  settings : Settings
  program : P
  stop : Option StopCondition := none
  placement : Option (Nat → Vec3) := none
  schedule : Option Schedule := none
  /-- The seed that is used if the configuration has none. -/
  entropy : Nat := 0

inductive BuildError where
  | rejected (cause : Rejection)
  | fault (cause : Fault)
deriving DecidableEq

namespace Blueprint

variable {U P : Type} [Processor U P]

def position (b : Blueprint P) (index : Nat) : Draw Vec3 :=
  match b.placement with
  | some place => return place index
  | none =>
    b.settings.population.distribution.place b.settings.population.volume
      b.settings.population.size index

def deviceSchedule (b : Blueprint P) : Draw Schedule :=
  match b.schedule with
  | some schedule => return schedule
  | none => do
    let transmit ← b.settings.schedule.transmit.resolve
    let compute ← b.settings.schedule.compute.resolve
    return { transmit := transmit, compute := compute }

/-- The time from the start until a device with the given timers is first due. -/
def startLag (settings : Settings) (schedule : Schedule) : Draw Float :=
  if settings.schedule.sync then return 0
  else
    let period := schedule.compute.period.getD settings.schedule.compute.nominalPeriod
    if 0 < period then uniform 0 period else return 0

/-- Runs a draw and reports a fault as the reason why nothing is built. -/
def attempt {α : Type} (draw : Draw α) : ExceptT BuildError (StateM Keystream) α :=
  ExceptT.mk do
    match ← draw.run with
    | .ok value => return .ok value
    | .error cause => return .error (.fault cause)

def createDevice (b : Blueprint P) (index : Nat) (id : DeviceId) :
    ExceptT BuildError (StateM Keystream) (Device U) := do
  let position ← attempt (b.position index)
  unless position.isFinite do
    throw (.rejected (.distribution (.placedNotFinite index position)))
  let schedule ← attempt b.deviceSchedule
  let lag ← attempt (startLag b.settings schedule)
  return Device.create id none position b.settings.population.radius
    (Processor.fresh position b.program) schedule (b.settings.engine.startTime + lag)
    b.settings.lifecycle.cloneDelay

/-- Creates the given number of devices after those already there. The devices created before a failure are kept in the result. -/
def populate (b : Blueprint P) : Nat → Population U → Keystream →
    Except BuildError Unit × Population U × Keystream
  | 0, population, stream => (.ok (), population, stream)
  | count + 1, population, stream =>
    let (id, allocated) := population.allocateId
    match (b.createDevice population.size id).run.run stream with
    | (.error cause, stream) => (.error cause, population, stream)
    | (.ok device, stream) => populate b count (allocated.insert device) stream

def seed (b : Blueprint P) : Nat := b.settings.engine.seed.getD b.entropy

/-- Builds the engine. The second result is what an observer sees, also when building fails. -/
def build (b : Blueprint P) : Except BuildError (Engine U P) × List (Event U) :=
  match b.settings.validate with
  | .error cause => (.error (.rejected cause), [])
  | .ok () =>
    let (outcome, population, stream) :=
      populate b b.settings.population.size ({} : Population U) (.ofSeed (.ofNat b.seed))
    let events := .preInit b.settings :: population.devices.toList.map .deviceInit
    match outcome with
    | .error cause => (.error cause, events)
    | .ok () =>
      (.ok {
        settings := b.settings
        program := b.program
        population := population
        index := .create b.settings.index.strategy
          (b.settings.index.effectiveCellSize b.settings.population.radius)
        time := b.settings.engine.startTime
        tick := 0
        paused := b.settings.engine.startPaused
        stop := b.stop.getD (match b.settings.engine.stopAt with
          | some time => .atTime time
          | none => .never)
        stream := stream
        metrics := {}
        fingerprint := b.settings.fingerprint }, events)

end Blueprint

end SpatialComputer
