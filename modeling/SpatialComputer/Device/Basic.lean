import SpatialComputer.Device.Processor
import SpatialComputer.Timing

/-!
# Devices

A device owns its position; the processor only keeps a copy, which the engine refreshes before every round and after every actuation. What happens to a device in one phase of a tick is a function of that device alone, except for the messages it receives.
-/

namespace SpatialComputer

open Binary64

structure Device (U : Type) where
  id : DeviceId
  parent : Option DeviceId
  position : Vec3
  radius : Float
  processor : U
  schedule : Schedule
  nextTransmit : Float
  nextCompute : Float
  lastCompute : Option Float := none
  neighborCache : Option (List DeviceId) := none
  requests : LifecycleRequests := {}
  cloneTimer : Float := 0
  /-- The time between the two latest rounds that the clone timer was not yet charged with. -/
  roundElapsed : Float := 0

namespace Device

variable {U P : Type} [Processor U P]

/-- A device that is due at `firstDue` and whose processor knows its id, radius and position. -/
def create (id : DeviceId) (parent : Option DeviceId) (position : Vec3) (radius : Float)
    (processor : U) (schedule : Schedule) (firstDue cloneDelay : Float) : Device U where
  id := id
  parent := parent
  position := position
  radius := radius
  processor :=
    Processor.setPosition position (Processor.setRadius radius (Processor.setId id processor))
  schedule := schedule
  nextTransmit := firstDue
  nextCompute := firstDue
  cloneTimer := cloneDelay

def transmitDue (d : Device U) (time : Float) : Bool := decide (d.nextTransmit ≤ time)

def computeDue (d : Device U) (time : Float) : Bool := decide (d.nextCompute ≤ time)

/-- The device after the state of another processor was delivered to it. -/
def receive (source : U) (d : Device U) : Device U :=
  { d with processor := Processor.deliver source d.processor }

def advanceTransmit (time : Float) (d : Device U) : Device U :=
  { d with nextTransmit := d.schedule.transmit.next time }

/-- One round: the processor learns the position, starts with idle actuators, runs, and hands over its requests. -/
def runRound (time : Float) (d : Device U) : Device U :=
  let prepared := Processor.resetActuators (Processor.setPosition d.position d.processor)
  let (raised, processor) := Processor.takeRequests (Processor.executeRound time prepared)
  { d with
    processor := processor
    roundElapsed := match d.lastCompute with
      | some last => time - last
      | none => 0
    lastCompute := some time
    requests := d.requests.merge raised
    nextCompute := d.schedule.compute.next time }

/-- The clone timer after it ran out at `timer`: raised by the whole number of delays that brings it above zero. -/
def rearmed (delay timer : Float) : Float :=
  timer + delay * (floor (-timer / delay) + 1)

/-- Charges the time since the previous round to the clone timer, and says whether a clone request is granted. A granted request arms the timer again; without a delay every request is granted. -/
def settleCloneTimer (delay : Float) (d : Device U) : Bool × Device U :=
  if delay ≤ 0 then (true, d)
  else
    let timer := if 0 < d.cloneTimer then d.cloneTimer - d.roundElapsed else d.cloneTimer
    if 0 < timer then (false, { d with cloneTimer := timer, roundElapsed := 0 })
    else (true, { d with cloneTimer := rearmed delay timer, roundElapsed := 0 })

/-- Consumes a pending clone request, and says whether it is granted. -/
def settleCloneRequest (delay : Float) (d : Device U) : Bool × Device U :=
  if d.requests.clone then
    settleCloneTimer delay { d with requests := { d.requests with clone := false } }
  else (false, d)

def setRadius (radius : Float) (d : Device U) : Device U :=
  { d with radius := radius, processor := Processor.setRadius radius d.processor }

def refreshPosition (d : Device U) : Device U :=
  { d with processor := Processor.setPosition d.position d.processor }

def moveTo (position : Vec3) (d : Device U) : Device U :=
  refreshPosition { d with position := position }

end Device

end SpatialComputer
