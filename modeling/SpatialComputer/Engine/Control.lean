import SpatialComputer.Engine.Tick

/-!
# Controlling an engine

Queries about single devices, changes made from outside between two ticks, and runs of many ticks. A query or a change that names no device fails and leaves the engine as it was.
-/

namespace SpatialComputer

inductive OperationError where
  | unknownDevice (id : DeviceId)
  | radius (value : Float)
deriving DecidableEq

def OperationError.message : OperationError → String
  | .unknownDevice id => "Unknown device: " ++ deviceText id
  | .radius value => (Rejection.setting (.radius value)).message

inductive StopReason where
  | condition
  | tickLimit
  | paused
deriving DecidableEq, Repr

def StopReason.text : StopReason → String
  | condition => "Condition"
  | tickLimit => "TickLimit"
  | paused => "Paused"

structure RunSummary where
  ticks : Nat
  time : Float
  reason : StopReason
deriving DecidableEq

/-- An engine after a run, with the reports of its ticks and what an observer saw. -/
structure RunOutcome (U P : Type) where
  engine : Engine U P
  reason : StopReason
  reports : Array TickReport := #[]
  events : Array (Event U) := #[]

def RunOutcome.summary {U P : Type} (r : RunOutcome U P) : RunSummary where
  ticks := r.reports.size
  time := r.engine.time
  reason := r.reason

namespace Engine

variable {U P : Type} [Processor U P]

def indexOf (e : Engine U P) (id : DeviceId) : Except OperationError Nat :=
  match e.population.indexOf id with
  | some i => .ok i
  | none => .error (.unknownDevice id)

def device (e : Engine U P) (id : DeviceId) : Except OperationError (Device U) :=
  match e.population.find? id with
  | some d => .ok d
  | none => .error (.unknownDevice id)

/-- The current neighbours of a device in ascending order, and the engine with what was cached on the way. -/
def neighborsOf (e : Engine U P) (id : DeviceId) :
    Except OperationError (List DeviceId × Engine U P) := do
  let i ← e.indexOf id
  let (found, index, devices) := e.index.neighborsOf e.population.devices i
  return (found, { e with index := index, population := { e.population with devices := devices } })

/-- The current neighbours of a device, found by testing every device. -/
def neighborsUncached (e : Engine U P) (id : DeviceId) : Except OperationError (List DeviceId) := do
  let i ← e.indexOf id
  return neighborsWithin e.population.devices i

def modifyDevice (e : Engine U P) (id : DeviceId) (f : Device U → Device U) :
    Except OperationError (Engine U P) := do
  let i ← e.indexOf id
  return { e with population := e.population.modifyAt i f }

def setSensor (e : Engine U P) (id : DeviceId) (sensor : Nat) (value : Bool) :
    Except OperationError (Engine U P) :=
  e.modifyDevice id fun d => { d with processor := Processor.setSensor sensor value d.processor }

/-- Sets the sensing radius of a device. The radius is checked before the id. -/
def setRadius (e : Engine U P) (id : DeviceId) (radius : Float) :
    Except OperationError (Engine U P) := do
  unless isFinitePositive radius do throw (.radius radius)
  let e ← e.modifyDevice id (Device.setRadius radius)
  return { e with index := e.index.markDirty }

def requestClone (e : Engine U P) (id : DeviceId) : Except OperationError (Engine U P) :=
  e.modifyDevice id fun d => { d with requests := { d.requests with clone := true } }

def requestDeath (e : Engine U P) (id : DeviceId) : Except OperationError (Engine U P) :=
  e.modifyDevice id fun d => { d with requests := { d.requests with death := true } }

def pause (e : Engine U P) : Engine U P := { e with paused := true }

def resume (e : Engine U P) : Engine U P := { e with paused := false }

/-- One tick, unless the engine is paused or its stop condition holds. -/
def advance (e : Engine U P) : Option (TickOutcome U P) :=
  if e.paused || e.shouldStop then none else some e.runTick

/-- Ticks until the stop condition holds, the engine is paused or the given number of ticks have run, in this order of precedence. The reports and events so far are carried along. -/
def runOn (e : Engine U P) (reports : Array TickReport) (events : Array (Event U))
    (maxTicks : Nat) : RunOutcome U P :=
  if e.shouldStop then ⟨e, .condition, reports, events⟩
  else if e.paused then ⟨e, .paused, reports, events⟩
  else match maxTicks with
    | 0 => ⟨e, .tickLimit, reports, events⟩
    | maxTicks + 1 =>
      let outcome := e.runTick
      outcome.engine.runOn (reports.push outcome.report) (events ++ outcome.events) maxTicks
termination_by structural maxTicks

def run (e : Engine U P) (maxTicks : Nat) : RunOutcome U P :=
  e.runOn #[] #[] maxTicks

end Engine

end SpatialComputer
