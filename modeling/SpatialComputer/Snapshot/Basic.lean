import SpatialComputer.Population

/-!
# Snapshots

What a state dump says about the population at the end of a tick.
-/

namespace SpatialComputer

structure DeviceSnapshot where
  id : DeviceId
  parent : Option DeviceId
  position : Vec3
  radius : Float
  color : Color
  sensors : List Bool
  nextTransmitTime : Float
  nextComputeTime : Float
  lastComputeTime : Option Float
  requests : LifecycleRequests
  cloneTimer : Float
deriving DecidableEq

structure PopulationSnapshot where
  tick : Nat
  time : Float
  fingerprint : String
  devices : List DeviceSnapshot
deriving DecidableEq

def Device.snapshot {U P : Type} [Processor U P] (d : Device U) : DeviceSnapshot where
  id := d.id
  parent := d.parent
  position := d.position
  radius := d.radius
  color := Processor.color d.processor
  sensors := (List.range (Processor.sensorCount d.processor)).map (Processor.sensor d.processor)
  nextTransmitTime := d.nextTransmit
  nextComputeTime := d.nextCompute
  lastComputeTime := d.lastCompute
  requests := d.requests
  cloneTimer := d.cloneTimer

end SpatialComputer
