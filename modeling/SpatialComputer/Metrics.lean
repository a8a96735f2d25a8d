/-!
# Running totals

Counters that add up the reports of all ticks. They count modulo `2 ^ 64`.
-/

namespace SpatialComputer

structure Metrics where
  tickCount : UInt64 := 0
  deviceCount : UInt64 := 0
  transmits : UInt64 := 0
  computes : UInt64 := 0
  moves : UInt64 := 0
  spawns : UInt64 := 0
  suppressedFaults : UInt64 := 0
  droppedClones : UInt64 := 0
deriving DecidableEq, Repr

namespace Metrics

def addTransmits (m : Metrics) (n : Nat) : Metrics :=
  { m with transmits := m.transmits + .ofNat n }

def addComputes (m : Metrics) (n : Nat) : Metrics :=
  { m with computes := m.computes + .ofNat n }

def addMoves (m : Metrics) (n : Nat) : Metrics :=
  { m with moves := m.moves + .ofNat n }

def addSpawns (m : Metrics) (n : Nat) : Metrics :=
  { m with spawns := m.spawns + .ofNat n }

def addSuppressedFaults (m : Metrics) (n : Nat) : Metrics :=
  { m with suppressedFaults := m.suppressedFaults + .ofNat n }

def addDroppedClones (m : Metrics) (n : Nat) : Metrics :=
  { m with droppedClones := m.droppedClones + .ofNat n }

def recordTick (m : Metrics) (devices : Nat) : Metrics :=
  { m with tickCount := m.tickCount + 1, deviceCount := .ofNat devices }

end Metrics

end SpatialComputer
