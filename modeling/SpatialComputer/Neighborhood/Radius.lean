import SpatialComputer.Device.Basic

/-!
# Neighbours by distance

The neighbours of a device are the other devices within its own sensing radius, the boundary included. The distance test compares rounded squares, and everything that finds neighbours faster has to apply this very test in the end.
-/

namespace SpatialComputer

def withinRadius (a b : Vec3) (radius : Float) : Bool :=
  decide (a.distanceSquared b ≤ radius * radius)

variable {U : Type}

def isNeighbor (devices : Array (Device U)) (index other : Nat) : Bool :=
  match devices[index]?, devices[other]? with
  | some d, some e => index != other && withinRadius d.position e.position d.radius
  | _, _ => false

def idsAt (devices : Array (Device U)) (indices : List Nat) : List DeviceId :=
  indices.filterMap fun i => devices[i]?.map Device.id

/-- The neighbours of the device at `index`, found by testing every device, in ascending order. -/
def neighborsWithin (devices : Array (Device U)) (index : Nat) : List DeviceId :=
  idsAt devices ((List.range devices.size).filter (isNeighbor devices index))

end SpatialComputer
