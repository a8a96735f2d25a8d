import SpatialComputer.Metrics
import SpatialComputer.Settings.Fingerprint
import SpatialComputer.Snapshot.Basic

/-!
# The engine

An engine is a value: its configuration, the population, the neighbour index, the clock and the random stream. Everything that happens in it is a function from one engine to the next, so equal engines have equal futures. What an observer could see on the way is returned as a list of events.
-/

namespace SpatialComputer

open Sampling

inductive StopCondition where
  | never
  | atTime (time : Float)
  | custom (holds : Float → Bool)

namespace StopCondition

def shouldStop : StopCondition → Float → Bool
  | never, _ => false
  | atTime limit, time => decide (limit ≤ time)
  | custom holds, time => holds time

def text : StopCondition → String
  | never => "Never"
  | atTime time => "AtTime(" ++ numberText time ++ ")"
  | custom _ => "Custom"

end StopCondition

/-- What an observer of an engine sees, in the order in which it happens. -/
inductive Event (U : Type) where
  /-- The configuration is accepted; devices follow. -/
  | preInit (settings : Settings)
  | deviceInit (device : Device U)
  | preUpdate (time : Float)
  | deviceExecuted (device : Device U)

structure Engine (U P : Type) where
  settings : Settings
  program : P
  population : Population U
  index : NeighborIndex
  time : Float
  tick : Nat
  paused : Bool
  stop : StopCondition
  stream : Keystream
  metrics : Metrics
  fingerprint : String

namespace Engine

variable {U P : Type}

def size (e : Engine U P) : Nat := e.population.size

def devices (e : Engine U P) : Array (Device U) := e.population.devices

/-- Whether the topology has changed since the current caches were begun. -/
def topologyDirty (e : Engine U P) : Bool := e.index.dirty

def shouldStop (e : Engine U P) : Bool := e.stop.shouldStop e.time

def snapshot [Processor U P] (e : Engine U P) : PopulationSnapshot where
  tick := e.tick
  time := e.time
  fingerprint := e.fingerprint
  devices := e.devices.toList.map Device.snapshot

end Engine

end SpatialComputer
