import SpatialComputer.Program.Scripted
import SpatialComputer.Settings.Decode

/-!
# Reading programs from data

A program is a choice by its kind; on a command line a program is chosen by a short name and comes with stock parameters.
-/

namespace SpatialComputer.Program

open Data

def kinds : List String := ["idle", "drift", "hop_gradient", "divide", "blink"]

def ofData? (data : Data) : Option Program := do
  let (kind, rest) ← data.toChoice? kinds
  match kind with
  | "idle" =>
    let _ ← rest.toChoiceFields? []
    return .idle
  | "drift" =>
    let [some velocity] ← rest.toChoiceFields? ["velocity"] | none
    return .drift (← Vec3.ofData? .strict velocity)
  | "hop_gradient" =>
    let [some sourceSensor] ← rest.toChoiceFields? ["source_sensor"] | none
    return .hopGradient (← sourceSensor.toNat?)
  | "divide" =>
    let [some atTime] ← rest.toChoiceFields? ["at_time"] | none
    return .divide (← atTime.toFloat?)
  | "blink" =>
    let [some period] ← rest.toChoiceFields? ["period"] | none
    return .blink (← period.toFloat?)
  | _ => none

/-- The programs that have a short name, with their stock parameters. -/
def stock : List (String × Program) :=
  [("idle", .idle), ("drift", .drift ⟨1, 0, 0⟩), ("gradient", .hopGradient 0),
    ("divide", .divide 10), ("blink", .blink 2)]

/-- The stock program of a name. If `ignoreCase`, small and capital ASCII letters are the same. -/
def ofName? (name : String) (ignoreCase : Bool) : Option Program :=
  stock.lookup (if ignoreCase then name.map Char.toLower else name)

end SpatialComputer.Program
