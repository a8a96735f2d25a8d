import SpatialComputer.Neighborhood.Index
import SpatialComputer.Placement.Distribution

/-!
# The configuration of a simulation

Six sections, each with a default for every setting. A configuration is checked as a whole, once, before an engine is built from it; the first setting that is wrong rejects it.
-/

namespace SpatialComputer

structure ClockSettings where
  stepSize : Float := 1
  startTime : Float := 0
  startPaused : Bool := false
  /-- The seed of all random choices; without one a seed is made up. -/
  seed : Option Nat := none
  parallelCompute : Bool := false
  stopAt : Option Float := none
  logInterval : Nat := 100
deriving DecidableEq

structure PopulationSettings where
  size : Nat := 100
  radius : Float := 10
  volume : Volume := {}
  distribution : Distribution := .uniformRandom
deriving DecidableEq

structure ScheduleSettings where
  transmit : TimerPolicy := .fixed 0.5
  compute : TimerPolicy := .fixed 1
  /-- Whether all devices are due at the start; otherwise each starts somewhere within its first compute period. -/
  sync : Bool := true
deriving DecidableEq

structure DynamicsSettings where
  speedLimit : Option Float := none
  bounded : Bool := false
deriving DecidableEq

structure LifecycleSettings where
  cloneOffset : Float := 0
  maxPopulation : Option Nat := none
  /-- The least time between two clones of a device; zero sets no limit. -/
  cloneDelay : Float := 0
deriving DecidableEq

structure IndexSettings where
  strategy : IndexStrategy := .bruteForce
  cellSize : Option Float := none
deriving DecidableEq

structure Settings where
  engine : ClockSettings := {}
  population : PopulationSettings := {}
  schedule : ScheduleSettings := {}
  dynamics : DynamicsSettings := {}
  lifecycle : LifecycleSettings := {}
  index : IndexSettings := {}
deriving DecidableEq

def IndexSettings.effectiveCellSize (s : IndexSettings) (radius : Float) : Float :=
  s.cellSize.getD radius

namespace Settings

def requireIfSet {α : Type} (value : Option α) (condition : α → Bool) (cause : α → SettingError) :
    Except Rejection Unit :=
  match value with
  | none => .ok ()
  | some v => require (condition v) (cause v)

def validateEngine (s : ClockSettings) : Except Rejection Unit := do
  require (isFinitePositive s.stepSize) (.stepSize s.stepSize)
  require (isFiniteNonnegative s.startTime) (.startTime s.startTime)
  requireIfSet s.stopAt (fun time => !time.isNaN) fun _ => .stopAtNotANumber
  require (decide (0 < s.logInterval)) .noLogInterval

def validatePopulation (s : PopulationSettings) : Except Rejection Unit := do
  require (decide (0 < s.size)) .noPopulation
  require (isFinitePositive s.radius) (.radius s.radius)
  s.distribution.validate s.volume s.size

/-- Checks the lifecycle section against the initial size of the population. -/
def validateLifecycle (s : LifecycleSettings) (size : Nat) : Except Rejection Unit := do
  require (isFiniteNonnegative s.cloneOffset) (.cloneOffset s.cloneOffset)
  require (isFiniteNonnegative s.cloneDelay) (.cloneDelay s.cloneDelay)
  requireIfSet s.maxPopulation (fun limit => decide (size ≤ limit)) (.populationLimit · size)

def validate (s : Settings) : Except Rejection Unit := do
  validateEngine s.engine
  validatePopulation s.population
  s.schedule.transmit.validate "transmit"
  s.schedule.compute.validate "compute"
  requireIfSet s.dynamics.speedLimit isFiniteNonnegative .speedLimit
  validateLifecycle s.lifecycle s.population.size
  requireIfSet s.index.cellSize isFinitePositive .cellSize

end Settings

end SpatialComputer
