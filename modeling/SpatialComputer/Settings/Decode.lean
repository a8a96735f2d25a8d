import SpatialComputer.Document.Data
import SpatialComputer.Settings.Basic

/-!
# Reading settings from data

Every setting that is missing takes its default; vectors, volumes and the parts of a choice have to be complete. What accompanies the kind of a choice is read strictly, and the rest as the caller wants.
-/

namespace SpatialComputer

open Data

def Vec3.ofData? (reading : Reading) (data : Data) : Option Vec3 := do
  let [some x, some y, some z] ← data.toFields? reading ["x", "y", "z"] | none
  return ⟨← x.toFloat?, ← y.toFloat?, ← z.toFloat?⟩

def Volume.ofData? (reading : Reading) (data : Data) : Option Volume := do
  let [some low, some high] ← data.toFields? reading ["min", "max"] | none
  return ⟨← Vec3.ofData? reading low, ← Vec3.ofData? reading high⟩

def Distribution.kinds : List String :=
  ["uniform_random", "fixed_points", "grid", "x_grid", "cylinder", "explicit"]

def Distribution.ofData? (data : Data) : Option Distribution := do
  let (kind, rest) ← data.toChoice? kinds
  let points (make : List Vec3 → Distribution) : Option Distribution := do
    let [some points] ← rest.toChoiceFields? ["points"] | none
    return make (← points.toList? (Vec3.ofData? .strict))
  let plain (d : Distribution) : Option Distribution := do
    let _ ← rest.toChoiceFields? []
    return d
  match kind with
  | "uniform_random" => plain .uniformRandom
  | "fixed_points" => points .fixedPoints
  | "grid" => plain .grid
  | "x_grid" => plain .xGrid
  | "cylinder" => plain .cylinder
  | "explicit" => points .explicit
  | _ => none

def TimerPolicy.kinds : List String := ["fixed", "jittered"]

def TimerPolicy.ofData? (data : Data) : Option TimerPolicy := do
  let (kind, rest) ← data.toChoice? kinds
  match kind with
  | "fixed" =>
    let [some period] ← rest.toChoiceFields? ["period"] | none
    return .fixed (← period.toFloat?)
  | "jittered" =>
    let [some period, some variance] ← rest.toChoiceFields? ["period", "variance"] | none
    return .jittered (← period.toFloat?) (← variance.toFloat?)
  | _ => none

def IndexStrategy.ofData? (reading : Reading) (data : Data) : Option IndexStrategy := do
  match ← data.toName? reading with
  | "brute_force" => return .bruteForce
  | "grid" => return .grid
  | _ => none

def ClockSettings.ofData? (reading : Reading) (data : Data) : Option ClockSettings := do
  let [stepSize, startTime, startPaused, seed, parallelCompute, stopAt, logInterval] ←
    data.toFields? reading ["step_size", "start_time", "start_paused", "seed", "parallel_compute",
      "stop_at", "log_interval"] | none
  let usual : ClockSettings := {}
  return {
    stepSize := ← fieldD usual.stepSize toFloat? stepSize
    startTime := ← fieldD usual.startTime toFloat? startTime
    startPaused := ← fieldD usual.startPaused toBool? startPaused
    seed := ← fieldD usual.seed (toOption? toNat?) seed
    parallelCompute := ← fieldD usual.parallelCompute toBool? parallelCompute
    stopAt := ← fieldD usual.stopAt (toOption? toFloat?) stopAt
    logInterval := ← fieldD usual.logInterval toNat? logInterval }

def PopulationSettings.ofData? (reading : Reading) (data : Data) : Option PopulationSettings := do
  let [size, radius, volume, distribution] ←
    data.toFields? reading ["size", "radius", "volume", "distribution"] | none
  let usual : PopulationSettings := {}
  return {
    size := ← fieldD usual.size toNat? size
    radius := ← fieldD usual.radius toFloat? radius
    volume := ← fieldD usual.volume (Volume.ofData? reading) volume
    distribution := ← fieldD usual.distribution Distribution.ofData? distribution }

def ScheduleSettings.ofData? (reading : Reading) (data : Data) : Option ScheduleSettings := do
  let [transmit, compute, sync] ← data.toFields? reading ["transmit", "compute", "sync"] | none
  let usual : ScheduleSettings := {}
  return {
    transmit := ← fieldD usual.transmit TimerPolicy.ofData? transmit
    compute := ← fieldD usual.compute TimerPolicy.ofData? compute
    sync := ← fieldD usual.sync toBool? sync }

def DynamicsSettings.ofData? (reading : Reading) (data : Data) : Option DynamicsSettings := do
  let [speedLimit, bounded] ← data.toFields? reading ["speed_limit", "bounded"] | none
  let usual : DynamicsSettings := {}
  return {
    speedLimit := ← fieldD usual.speedLimit (toOption? toFloat?) speedLimit
    bounded := ← fieldD usual.bounded toBool? bounded }

def LifecycleSettings.ofData? (reading : Reading) (data : Data) : Option LifecycleSettings := do
  let [cloneOffset, maxPopulation, cloneDelay] ←
    data.toFields? reading ["clone_offset", "max_population", "clone_delay"] | none
  let usual : LifecycleSettings := {}
  return {
    cloneOffset := ← fieldD usual.cloneOffset toFloat? cloneOffset
    maxPopulation := ← fieldD usual.maxPopulation (toOption? toNat?) maxPopulation
    cloneDelay := ← fieldD usual.cloneDelay toFloat? cloneDelay }

def IndexSettings.ofData? (reading : Reading) (data : Data) : Option IndexSettings := do
  let [strategy, cellSize] ← data.toFields? reading ["strategy", "cell_size"] | none
  let usual : IndexSettings := {}
  return {
    strategy := ← fieldD usual.strategy (IndexStrategy.ofData? reading) strategy
    cellSize := ← fieldD usual.cellSize (toOption? toFloat?) cellSize }

/-- The settings that a document holds, without a check of their values. -/
def Settings.ofData? (reading : Reading) (data : Data) : Option Settings := do
  let [engine, population, schedule, dynamics, lifecycle, index] ←
    data.toFields? reading ["engine", "population", "schedule", "dynamics", "lifecycle", "index"] | none
  let usual : Settings := {}
  return {
    engine := ← fieldD usual.engine (ClockSettings.ofData? reading) engine
    population := ← fieldD usual.population (PopulationSettings.ofData? reading) population
    schedule := ← fieldD usual.schedule (ScheduleSettings.ofData? reading) schedule
    dynamics := ← fieldD usual.dynamics (DynamicsSettings.ofData? reading) dynamics
    lifecycle := ← fieldD usual.lifecycle (LifecycleSettings.ofData? reading) lifecycle
    index := ← fieldD usual.index (IndexSettings.ofData? reading) index }

end SpatialComputer
