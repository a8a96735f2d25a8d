import SpatialComputer.Geometry.Vec3

/-!
# Processors

What the engine asks of the computation inside a device. A processor is opaque to the engine: it is told its position, id and radius, ingests the state of neighbours as messages, runs rounds, and shows what it wants as an actuator displacement, a colour and lifecycle requests.
-/

namespace SpatialComputer

/-- The number of a device. It is given once and never again. -/
abbrev DeviceId := Nat

/-- An emitted colour; the channels are not limited. -/
structure Color where
  red : Float := 0
  green : Float := 0
  blue : Float := 0
deriving DecidableEq

def Color.off : Color := {}

/-- What a device asks for its own life. Death is recorded and never acted on. -/
structure LifecycleRequests where
  clone : Bool := false
  death : Bool := false
deriving DecidableEq, Repr

namespace LifecycleRequests

def isEmpty (r : LifecycleRequests) : Bool := !r.clone && !r.death

def merge (r s : LifecycleRequests) : LifecycleRequests where
  clone := r.clone || s.clone
  death := r.death || s.death

end LifecycleRequests

/-- The computation inside a device, run by a program of type `P`. -/
class Processor (U : Type) (P : outParam Type) where
  fresh : Vec3 → P → U
  spawnClone : U → Vec3 → P → U := fun _ position program => fresh position program
  executeRound : Float → U → U
  /-- Ingests the state of another processor, given first, as a message. -/
  deliver : U → U → U
  resetActuators : U → U
  position : U → Vec3
  setPosition : Vec3 → U → U
  actuators : U → Vec3
  setActuators : Vec3 → U → U
  color : U → Color
  sensor : U → Nat → Bool
  setSensor : Nat → Bool → U → U
  sensorCount : U → Nat := fun _ => 0
  radius : U → Float
  setRadius : Float → U → U
  id : U → DeviceId
  setId : DeviceId → U → U
  takeRequests : U → LifecycleRequests × U := fun u => ({}, u)

def deviceText (id : DeviceId) : String := "device#" ++ toString id

end SpatialComputer
