import SpatialComputer.Device.Basic

/-!
# The population

All devices in the order of their ids. Ids are counted up from one and never given twice, so a new device always goes to the end and a device is found by binary search. Spawns that come up while the devices are being visited wait in a queue until the pass is over.
-/

namespace SpatialComputer

structure SpawnRequest where
  parent : Option DeviceId
  position : Vec3
  radius : Float
  schedule : Schedule
  nextTransmit : Float
  nextCompute : Float

structure Population (U : Type) where
  devices : Array (Device U) := #[]
  pending : Array SpawnRequest := #[]
  lastId : DeviceId := 0

namespace Population

variable {U : Type}

/-- The index of the device with the given id among devices in ascending order of ids. -/
def indexIn (devices : Array (Device U)) (id : DeviceId) : Option Nat :=
  search 0 devices.size
where
  /-- Searches the devices from index `low` up to and excluding `high`. -/
  search (low high : Nat) : Option Nat :=
    if low < high then
      let middle := (low + high) / 2
      match devices[middle]? with
      | none => none
      | some d =>
        if d.id = id then some middle
        else if d.id < id then search (middle + 1) high
        else search low middle
    else none
  termination_by high - low

def indexOf (p : Population U) (id : DeviceId) : Option Nat :=
  indexIn p.devices id

def find? (p : Population U) (id : DeviceId) : Option (Device U) :=
  (p.indexOf id).bind fun i => p.devices[i]?

def size (p : Population U) : Nat := p.devices.size

def ids (p : Population U) : List DeviceId := p.devices.toList.map Device.id

def allocateId (p : Population U) : DeviceId × Population U :=
  (p.lastId + 1, { p with lastId := p.lastId + 1 })

/-- Adds a device, whose id must be above every other. -/
def insert (p : Population U) (d : Device U) : Population U :=
  { p with devices := p.devices.push d }

def defer (p : Population U) (request : SpawnRequest) : Population U :=
  { p with pending := p.pending.push request }

/-- Empties the queue and hands over what waited in it, oldest first. -/
def takePending (p : Population U) : List SpawnRequest × Population U :=
  (p.pending.toList, { p with pending := #[] })

def modifyAt (p : Population U) (i : Nat) (f : Device U → Device U) : Population U :=
  { p with devices := p.devices.modify i f }

end Population

end SpatialComputer
