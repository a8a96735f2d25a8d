import SpatialComputer.Binary64.Rounding
import SpatialComputer.Device.Processor

/-!
# Scripted programs

A handful of fixed behaviours. The hop gradient counts the links to the nearest device whose source sensor is set: between rounds a processor keeps the smallest count it has heard, and each round forgets it again.
-/

namespace SpatialComputer

open Binary64

inductive Program where
  | idle
  | drift (velocity : Vec3)
  /-- Counts the hops to the nearest device with the given sensor set. -/
  | hopGradient (sourceSensor : Nat)
  | divide (atTime : Float)
  | blink (period : Float)
deriving DecidableEq

/-- A processor that runs a `Program`. -/
structure ScriptedProcessor where
  program : Program
  id : DeviceId := 0
  radius : Float := 0
  position : Vec3
  actuators : Vec3 := .zero
  color : Color := .off
  sensors : Vector Bool 4 := .replicate 4 false
  requests : LifecycleRequests := {}
  hops : Option Nat := none
  bestHeard : Option Nat := none
  divided : Bool := false
  rounds : Nat := 0
deriving DecidableEq

namespace ScriptedProcessor

/-- The largest hop count; it is its own successor. -/
def maxHops : Nat := 0xffffffff

def succHops (hops : Nat) : Nat := min (hops + 1) maxHops

/-- The value of a sensor; there are no others than the first four. -/
def sensor (u : ScriptedProcessor) (index : Nat) : Bool := u.sensors[index]?.getD false

def setSensor (index : Nat) (value : Bool) (u : ScriptedProcessor) : ScriptedProcessor :=
  { u with sensors := u.sensors.setIfInBounds index value }

/-- The colour that shows a hop count: red at a source, a blue that fades with the distance, and nothing without one. -/
def hopColor : Option Nat → Color
  | none => .off
  | some 0 => { red := 1 }
  | some hops => { blue := 1 / ofNat hops }

def gradientRound (sourceSensor : Nat) (u : ScriptedProcessor) : ScriptedProcessor :=
  let hops := if u.sensor sourceSensor then some 0 else u.bestHeard.map succHops
  { u with hops := hops, bestHeard := none, color := hopColor hops }

/-- The number of the period that a time falls in, kept within the signed words. -/
def periodNumber (period time : Float) : Int :=
  truncateInto (-0x8000000000000000) 0x7fffffffffffffff (floor (time / period))

/-- Whether a blinking device is green at a time: in every other period from time zero on. -/
def blinkOn (period time : Float) : Bool :=
  period ≤ 0 || periodNumber period time % 2 == 0

def executeRound (time : Float) (u : ScriptedProcessor) : ScriptedProcessor :=
  let u := { u with rounds := u.rounds + 1 }
  match u.program with
  | .idle => u
  | .drift velocity => { u with actuators := velocity }
  | .hopGradient sourceSensor => u.gradientRound sourceSensor
  | .divide atTime =>
    if !u.divided && atTime ≤ time then
      { u with divided := true, requests := { u.requests with clone := true } }
    else u
  | .blink period =>
    { u with color := if blinkOn period time then { green := 1 } else .off }

def hear (heard : Option Nat) (hops : Nat) : Nat :=
  match heard with
  | some best => min best hops
  | none => hops

/-- Hears the hop count of another processor, if it has one. -/
def deliver (source u : ScriptedProcessor) : ScriptedProcessor :=
  match source.hops with
  | some hops => { u with bestHeard := some (hear u.bestHeard hops) }
  | none => u

def fresh (position : Vec3) (program : Program) : ScriptedProcessor :=
  { program := program, position := position }

/-- The clone of a processor that has divided does not divide again. -/
def spawnClone (u : ScriptedProcessor) (position : Vec3) (program : Program) : ScriptedProcessor :=
  { fresh position program with divided := u.divided }

instance : Processor ScriptedProcessor Program where
  fresh := fresh
  spawnClone := spawnClone
  executeRound := executeRound
  deliver := deliver
  resetActuators u := { u with actuators := .zero, color := .off }
  position u := u.position
  setPosition position u := { u with position := position }
  actuators u := u.actuators
  setActuators delta u := { u with actuators := delta }
  color u := u.color
  sensor := sensor
  setSensor := setSensor
  sensorCount _ := 4
  radius u := u.radius
  setRadius radius u := { u with radius := radius }
  id u := u.id
  setId id u := { u with id := id }
  takeRequests u := (u.requests, { u with requests := {} })

end ScriptedProcessor

end SpatialComputer
