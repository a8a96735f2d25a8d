import SpatialComputer.Engine.Build
import SpatialComputer.Engine.Control

/-!
# Operations as data

Everything that can be done with an engine between two ticks, as values. `Engine.perform` carries an operation out; histories of operations are lists, and the engines that some history leads to are the reachable ones.
-/

namespace SpatialComputer

inductive Operation where
  | tick
  | advance
  | run (maxTicks : Nat)
  | pause
  | resume
  | setSensor (id : DeviceId) (sensor : Nat) (value : Bool)
  | setRadius (id : DeviceId) (radius : Float)
  | requestClone (id : DeviceId)
  | requestDeath (id : DeviceId)
  | neighborsOf (id : DeviceId)
  | neighborsUncached (id : DeviceId)
  | position (id : DeviceId)
  | color (id : DeviceId)
  | device (id : DeviceId)
  | snapshot
deriving DecidableEq

inductive Answer (U : Type) where
  | done
  | report (report : TickReport)
  /-- The engine was not ready for a tick. -/
  | noTick
  | summary (summary : RunSummary) (reports : List TickReport)
  | neighbors (ids : List DeviceId)
  | position (position : Vec3)
  | color (color : Color)
  | device (device : Device U)
  | snapshot (snapshot : PopulationSnapshot)
  | failed (cause : OperationError)

/-- An engine after an operation, the answer, and what an observer saw. -/
structure Performed (U P : Type) where
  engine : Engine U P
  answer : Answer U
  events : List (Event U) := []

namespace Engine

variable {U P : Type} [Processor U P]

def changed (e : Engine U P) (result : Except OperationError (Engine U P)) : Performed U P :=
  match result with
  | .ok e => { engine := e, answer := .done }
  | .error cause => { engine := e, answer := .failed cause }

def asked {α : Type} (e : Engine U P) (result : Except OperationError α) (answer : α → Answer U) :
    Performed U P :=
  match result with
  | .ok value => { engine := e, answer := answer value }
  | .error cause => { engine := e, answer := .failed cause }

def perform (e : Engine U P) : Operation → Performed U P
  | .tick =>
    let outcome := e.runTick
    { engine := outcome.engine, answer := .report outcome.report, events := outcome.events }
  | .advance =>
    match e.advance with
    | some outcome =>
      { engine := outcome.engine, answer := .report outcome.report, events := outcome.events }
    | none => { engine := e, answer := .noTick }
  | .run maxTicks =>
    let outcome := e.run maxTicks
    { engine := outcome.engine
      answer := .summary outcome.summary outcome.reports.toList
      events := outcome.events.toList }
  | .pause => { engine := e.pause, answer := .done }
  | .resume => { engine := e.resume, answer := .done }
  | .setSensor id sensor value => e.changed (e.setSensor id sensor value)
  | .setRadius id radius => e.changed (e.setRadius id radius)
  | .requestClone id => e.changed (e.requestClone id)
  | .requestDeath id => e.changed (e.requestDeath id)
  | .neighborsOf id =>
    match e.neighborsOf id with
    | .ok (ids, e) => { engine := e, answer := .neighbors ids }
    | .error cause => { engine := e, answer := .failed cause }
  | .neighborsUncached id => e.asked (e.neighborsUncached id) .neighbors
  | .position id => e.asked (e.device id) fun d => .position d.position
  | .color id => e.asked (e.device id) fun d => .color (Processor.color d.processor)
  | .device id => e.asked (e.device id) .device
  | .snapshot => { engine := e, answer := .snapshot e.snapshot }

def performAll (e : Engine U P) : List Operation → Engine U P
  | [] => e
  | op :: ops => (e.perform op).engine.performAll ops

/-- The answers of operations carried out one after another, each with what an observer saw. -/
def answers (e : Engine U P) : List Operation → List (Answer U × List (Event U))
  | [] => []
  | op :: ops =>
    let performed := e.perform op
    (performed.answer, performed.events) :: performed.engine.answers ops

/-- The engines that some history leads to from a freshly built one. -/
inductive Reachable (b : Blueprint P) : Engine U P → Prop where
  | built {e : Engine U P} {events : List (Event U)} :
    b.build = (.ok e, events) → Reachable b e
  | performed {e : Engine U P} (op : Operation) :
    Reachable b e → Reachable b (e.perform op).engine

end Engine

end SpatialComputer
