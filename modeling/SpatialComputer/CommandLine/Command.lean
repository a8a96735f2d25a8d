import SpatialComputer.CommandLine.Arguments
import SpatialComputer.Headless.Runner

/-!
# The command

A command reads its arguments and the configuration file, opens the dump, builds the engine and runs it. What it comes to is a function of the arguments and of what it finds around it: the exit code, the lines it prints, and the dump it leaves behind.
-/

namespace SpatialComputer.CommandLine

open Binary64

inductive ConfigFile where
  | missing
  | unreadable
  | text (content : String)
deriving DecidableEq

structure Surroundings where
  configFile : String → ConfigFile
  canCreate : String → Bool
  entropy : Nat

inductive Failure where
  | usage
  | unreadable (path : String)
  | setup (path : String) (cause : SetupError)
  | noDumpPeriod
  | noDumpFile (path : String)
  | build (cause : BuildError)
deriving DecidableEq

def Failure.code : Failure → Nat
  | usage => 2
  | build (.fault _) => 101
  | _ => 1

def Failure.message : Failure → String
  | usage => "error: unexpected or missing argument"
  | unreadable path => "Error: Failed to read " ++ path
  | setup path cause => "Error: Invalid config " ++ path ++ ": " ++ cause.message
  | noDumpPeriod => "Error: --dump-period must be positive"
  | noDumpFile path => "Error: Failed to create dump file " ++ path
  | build (.rejected cause) => "Error: " ++ cause.message
  | build (.fault _) => "Error: the devices cannot be placed"

/-- What a command that does not fail comes to. -/
inductive Completion where
  | help
  | version
  | finished (summary : RunSummary) (devices : Nat)
deriving DecidableEq

def helpLines : List String := [
  "Usage: protosim [OPTIONS]",
  "",
  "Options:",
  "  -c, --config <CONFIG>            Config file path [default: protosim.toml]",
  "  -t, --ticks <TICKS>              Maximum number of ticks to run",
  "      --seed <SEED>                RNG seed",
  "  -p, --program <PROGRAM>          Program every device runs",
  "      --dump <DUMP>                Write JSON-lines state dumps to this file",
  "      --dump-period <DUMP_PERIOD>  Ticks between state dumps",
  "      --log-level <LOG_LEVEL>      Default log filter [default: info]",
  "  -h, --help                       Print help",
  "  -V, --version                    Print version"]

def Completion.lines : Completion → List String
  | help => helpLines
  | version => ["protosim 0.1.0"]
  | finished summary devices =>
    ["Simulation finished: " ++ toString summary.ticks ++ " ticks, time " ++
      fixedText 3 summary.time ++ ", " ++ toString devices ++ " devices (" ++
      summary.reason.text ++ ")"]

structure DumpFile where
  path : String
  lines : List String
deriving DecidableEq

structure Outcome where
  result : Except Failure Completion
  /-- The dump file, if one was created. -/
  dump : Option DumpFile := none

def Outcome.code (o : Outcome) : Nat :=
  match o.result with
  | .ok _ => 0
  | .error cause => cause.code

def Outcome.output (o : Outcome) : List String :=
  match o.result with
  | .ok completion => completion.lines
  | .error _ => []

namespace Arguments

def configPath (a : Arguments) : String := a.config.getD "protosim.toml"

/-- The setup with the values of the command line in place of its own. -/
def override (a : Arguments) (s : RunSetup) : RunSetup where
  settings := { s.settings with
    engine := { s.settings.engine with seed := a.seed.or s.settings.engine.seed } }
  program := a.program.getD s.program
  run := {
    ticks := a.ticks.getD s.run.ticks
    dumpPath := a.dump.or s.run.dumpPath
    dumpPeriod := a.dumpPeriod.getD s.run.dumpPeriod }

/-- The setup that a configuration file holds. Without a file everything has its default. -/
def fileSetup (a : Arguments) : ConfigFile → Except Failure RunSetup
  | .missing => .ok {}
  | .unreadable => .error (.unreadable a.configPath)
  | .text content => (RunSetup.ofDocument content).mapError (.setup a.configPath)

def setup (a : Arguments) (file : ConfigFile) : Except Failure RunSetup := do
  let setup ← a.fileSetup file
  if a.dumpPeriod = some 0 then throw .noDumpPeriod
  return a.override setup

end Arguments

/-- Builds and runs a setup whose dump file, if it has one, was created already. -/
def runSetup (setup : RunSetup) (entropy : Nat) : Outcome :=
  let file (lines : List String) : Option DumpFile := setup.run.dumpPath.map (⟨·, lines⟩)
  match Runner.create setup setup.run.dumpPath.isSome entropy with
  | .error cause => { result := .error (.build cause), dump := file [] }
  | .ok runner =>
    let (runner, summary) := runner.run setup.run.ticks
    { result := .ok (.finished summary runner.engine.size)
      dump := file (runner.dump.getD #[]).toList }

/-- Creates the dump file if there is to be one, then builds and runs. -/
def runDumping (setup : RunSetup) (canCreate : String → Bool) (entropy : Nat) : Outcome :=
  match setup.run.dumpPath.filter (!canCreate ·) with
  | some path => { result := .error (.noDumpFile path) }
  | none => runSetup setup entropy

def Request.perform (surroundings : Surroundings) : Request → Outcome
  | help => { result := .ok .help }
  | version => { result := .ok .version }
  | run a =>
    match a.setup (surroundings.configFile a.configPath) with
    | .error cause => { result := .error cause }
    | .ok setup => runDumping setup surroundings.canCreate surroundings.entropy

def command (surroundings : Surroundings) (arguments : List String) : Outcome :=
  match Request.ofArguments? arguments with
  | none => { result := .error .usage }
  | some request => request.perform surroundings

end SpatialComputer.CommandLine
