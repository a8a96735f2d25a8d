import SpatialComputer.Engine.Build
import SpatialComputer.Engine.Control
import SpatialComputer.Headless.Setup
import SpatialComputer.Program.Scripted
import SpatialComputer.Snapshot.Json

/-!
# Headless runs

A runner drives an engine to the end of a run and dumps snapshots on the way: one when a run starts, and one after every tick whose number the dump period divides. A runner never waits, so a paused engine is resumed first.
-/

namespace SpatialComputer

structure Runner where
  engine : Engine ScriptedProcessor Program
  /-- The lines dumped so far, if there is a dump. -/
  dump : Option (Array String)
  /-- How often a line has been dumped. -/
  dumpCount : Nat := 0
  dumpPeriod : Nat

/-- What is built for a setup. `entropy` is the seed if the settings have none. -/
def RunSetup.blueprint (s : RunSetup) (entropy : Nat) : Blueprint Program where
  settings := s.settings
  program := s.program
  entropy := entropy

namespace Runner

/-- A runner at the start of a setup. A dump period of zero acts as one. -/
def create (setup : RunSetup) (dumps : Bool) (entropy : Nat) : Except BuildError Runner :=
  (setup.blueprint entropy).build.1.map fun engine => {
    engine := engine
    dump := if dumps then some #[] else none
    dumpPeriod := max setup.run.dumpPeriod 1 }

def dumpState (r : Runner) : Runner :=
  match r.dump with
  | none => r
  | some lines =>
    { r with dump := some (lines.push r.engine.snapshot.line), dumpCount := r.dumpCount + 1 }

def dumpIfDue (r : Runner) : Runner :=
  if r.engine.tick % r.dumpPeriod = 0 then r.dumpState else r

/-- Ticks until the given number of ticks have run or the stop condition holds, in this order of precedence. The ticks so far are carried along. -/
def tickOn (r : Runner) (ticks : Nat) : Nat → Runner × RunSummary
  | 0 => (r, ⟨ticks, r.engine.time, .tickLimit⟩)
  | remaining + 1 =>
    match r.engine.advance with
    | none => (r, ⟨ticks, r.engine.time, .condition⟩)
    | some outcome => ({ r with engine := outcome.engine }).dumpIfDue.tickOn (ticks + 1) remaining

def run (r : Runner) (maxTicks : Nat) : Runner × RunSummary :=
  ({ r with engine := r.engine.resume }).dumpState.tickOn 0 maxTicks

def written (r : Runner) : Option Nat := r.dump.map fun _ => r.dumpCount

end Runner

end SpatialComputer
