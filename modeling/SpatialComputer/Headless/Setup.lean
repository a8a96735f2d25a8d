import SpatialComputer.Document.Toml.Reader
import SpatialComputer.Program.Decode

/-!
# The setup of a headless run

Beside the settings of the simulation a configuration file names the program of the devices, how long to run and where dumps go. Everything may be left out.
-/

namespace SpatialComputer

open Data

structure RunSettings where
  ticks : Nat := 1000
  /-- The file that snapshots are written to, if they are. -/
  dumpPath : Option String := none
  /-- A snapshot is written after every tick whose number this divides. -/
  dumpPeriod : Nat := 10
deriving DecidableEq

structure RunSetup where
  settings : Settings := {}
  program : Program := .idle
  run : RunSettings := {}
deriving DecidableEq

inductive SetupError where
  /-- The document is not TOML, or a setting has a value of the wrong kind. -/
  | malformed
  | rejected (cause : Rejection)
  | noDumpPeriod
deriving DecidableEq

def SetupError.message : SetupError → String
  | malformed => "Failed to parse run config"
  | rejected cause => cause.message
  | noDumpPeriod => "dump_period must be positive"

def RunSettings.ofData? (data : Data) : Option RunSettings := do
  let [ticks, dumpPath, dumpPeriod] ← data.toFields? .lenient ["ticks", "dump_path", "dump_period"] | none
  let usual : RunSettings := {}
  return {
    ticks := ← fieldD usual.ticks toNat? ticks
    dumpPath := ← fieldD usual.dumpPath (toOption? toText?) dumpPath
    dumpPeriod := ← fieldD usual.dumpPeriod toNat? dumpPeriod }

namespace RunSetup

/-- The setup that a document holds, without a check of its values. The sections of the settings, which are read strictly, stand beside those of program and run. -/
def ofData? (data : Data) : Option RunSetup := do
  let settings ← Settings.ofData? .strict data
  let [program, run] ← data.toFields? .lenient ["program", "run"] | none
  let usual : RunSetup := {}
  return {
    settings := settings
    program := ← fieldD usual.program Program.ofData? program
    run := ← fieldD usual.run RunSettings.ofData? run }

def validate (s : RunSetup) : Except SetupError Unit :=
  match s.settings.validate with
  | .error cause => .error (.rejected cause)
  | .ok () => if s.run.dumpPeriod = 0 then .error .noDumpPeriod else .ok ()

def ofDocument (text : String) : Except SetupError RunSetup := do
  match (Toml.ofText? text).bind ofData? with
  | none => .error .malformed
  | some setup =>
    setup.validate
    return setup

end RunSetup

end SpatialComputer
