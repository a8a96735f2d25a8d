import SpatialComputer.CommandLine.Command

/-!
# The program

Finds what the command needs to know about its surroundings, carries the command out, and writes what it leaves behind.
-/

namespace SpatialComputer.CommandLine

def lookAtConfig (path : String) : IO ConfigFile := do
  try
    return .text (← IO.FS.readFile path)
  catch
    | .noFileOrDirectory .. => return .missing
    | _ => return .unreadable

def createFile (path : String) : IO Bool := do
  try
    IO.FS.writeFile path ""
    return true
  catch _ => return false

def finish (outcome : Outcome) : IO UInt32 := do
  if let some file := outcome.dump then
    IO.FS.writeFile file.path (String.join (file.lines.map (· ++ "\n")))
  if let .error cause := outcome.result then
    IO.eprintln cause.message
  for line in outcome.output do
    IO.println line
  return .ofNat outcome.code

/-- Runs the command line. The dump file is created before the run, and only if the arguments and the configuration are in order. -/
def start (arguments : List String) : IO UInt32 := do
  let some (.run given) := Request.ofArguments? arguments |
    finish (command ⟨fun _ => .missing, fun _ => false, 0⟩ arguments)
  let file ← lookAtConfig given.configPath
  let creatable ← match (given.setup file).toOption.bind (·.run.dumpPath) with
    | some path => createFile path
    | none => pure false
  let entropy ← IO.rand 0 (wordBound - 1)
  finish (command ⟨fun _ => file, fun _ => creatable, entropy⟩ arguments)

end SpatialComputer.CommandLine

def main (arguments : List String) : IO UInt32 :=
  SpatialComputer.CommandLine.start arguments
