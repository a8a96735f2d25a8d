import SpatialComputer.Device.Processor

/-!
# Planned processors

A processor that follows a written plan round by round and remembers all that it saw and heard. It can ask for anything a processor can ask for, also for a displacement that is not finite or a copy of its position that is wrong, so it shows how the engine treats an arbitrary processor.
-/

namespace SpatialComputer

/-- What a planned processor does in one round; an absent part is left as it is. -/
structure PlannedAct where
  delta : Option Vec3 := none
  color : Option Color := none
  position : Option Vec3 := none
  clone : Bool := false
  death : Bool := false
deriving DecidableEq

structure DevicePlan where
  acts : List PlannedAct
  repeats : Bool := false
deriving DecidableEq

/-- The plans by device, and one for the devices that are not listed. -/
structure Plan where
  devices : List (DeviceId × DevicePlan) := []
  others : Option DevicePlan := none
deriving DecidableEq

def DevicePlan.act? (plan : DevicePlan) (round : Nat) : Option PlannedAct :=
  plan.acts[if plan.repeats then round % plan.acts.length else round]?

def Plan.forDevice (plan : Plan) (id : DeviceId) : Option DevicePlan :=
  (plan.devices.lookup id).or plan.others

/-- A processor that runs a `Plan`. -/
structure PlannedProcessor where
  plan : Plan
  id : DeviceId := 0
  radius : Float := 0
  position : Vec3
  actuators : Vec3 := .zero
  color : Color := .off
  requests : LifecycleRequests := {}
  heard : Array DeviceId := #[]
  rounds : Array Float := #[]
  seen : Array Vec3 := #[]

namespace PlannedProcessor

def perform (act : PlannedAct) (u : PlannedProcessor) : PlannedProcessor :=
  { u with
    actuators := act.delta.getD u.actuators
    color := act.color.getD u.color
    position := act.position.getD u.position
    requests := u.requests.merge { clone := act.clone, death := act.death } }

def executeRound (time : Float) (u : PlannedProcessor) : PlannedProcessor :=
  let noted := { u with rounds := u.rounds.push time, seen := u.seen.push u.position }
  match (u.plan.forDevice u.id).bind (·.act? u.rounds.size) with
  | some act => perform act noted
  | none => noted

/-- A planned processor has no sensors, and its clones begin the plan of their own id. -/
instance : Processor PlannedProcessor Plan where
  fresh position plan := { plan := plan, position := position }
  executeRound := executeRound
  deliver source u := { u with heard := u.heard.push source.id }
  resetActuators u := { u with actuators := .zero, color := .off }
  position u := u.position
  setPosition position u := { u with position := position }
  actuators u := u.actuators
  setActuators delta u := { u with actuators := delta }
  color u := u.color
  sensor _ _ := false
  setSensor _ _ u := u
  radius u := u.radius
  setRadius radius u := { u with radius := radius }
  id u := u.id
  setId id u := { u with id := id }
  takeRequests u := (u.requests, { u with requests := {} })

end PlannedProcessor

end SpatialComputer
