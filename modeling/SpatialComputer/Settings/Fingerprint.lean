import SpatialComputer.Digest.Sha256
import SpatialComputer.Settings.Basic

/-!
# The fingerprint of a configuration

Dumps carry a digest of the settings that shape a simulation, so a dump can be matched with the configuration behind it. `Settings.identityText` is the text that is digested: every section but the index, one after another, with numbers written so that they read back.
-/

namespace SpatialComputer

open Binary64

def literalText (x : Float) : String := Layout.literal.text x

def boolText (b : Bool) : String := if b then "true" else "false"

def optionText {α : Type} (text : α → String) : Option α → String
  | none => "None"
  | some value => "Some(" ++ text value ++ ")"

def fieldsText (fields : List (String × String)) : String :=
  String.intercalate ", " (fields.map fun (name, text) => name ++ ": " ++ text)

def recordText (name : String) (fields : List (String × String)) : String :=
  name ++ " \x7b " ++ fieldsText fields ++ " \x7d"

def listText {α : Type} (text : α → String) (items : List α) : String :=
  "[" ++ String.intercalate ", " (items.map text) ++ "]"

/-- A distribution in the identity text, with its points if it lists any. -/
def Distribution.literal : Distribution → String
  | uniformRandom => "UniformRandom"
  | fixedPoints points => recordText "FixedPoints" [("points", listText Vec3.literal points)]
  | grid => "Grid"
  | xGrid => "XGrid"
  | cylinder => "Cylinder"
  | explicit points => recordText "Explicit" [("points", listText Vec3.literal points)]

def TimerPolicy.literal : TimerPolicy → String
  | fixed period => recordText "Fixed" [("period", literalText period)]
  | jittered period variance =>
    recordText "Jittered" [("period", literalText period), ("variance", literalText variance)]

def ClockSettings.literal (s : ClockSettings) : String :=
  recordText "EngineConfig" [
    ("step_size", literalText s.stepSize),
    ("start_time", literalText s.startTime),
    ("start_paused", boolText s.startPaused),
    ("seed", optionText toString s.seed),
    ("parallel_compute", boolText s.parallelCompute),
    ("stop_at", optionText literalText s.stopAt),
    ("log_interval", toString s.logInterval)]

def PopulationSettings.literal (s : PopulationSettings) : String :=
  recordText "PopulationConfig" [
    ("size", toString s.size),
    ("radius", literalText s.radius),
    ("volume", s.volume.literal),
    ("distribution", s.distribution.literal)]

def ScheduleSettings.literal (s : ScheduleSettings) : String :=
  recordText "ScheduleConfig" [
    ("transmit", s.transmit.literal),
    ("compute", s.compute.literal),
    ("sync", boolText s.sync)]

def DynamicsSettings.literal (s : DynamicsSettings) : String :=
  recordText "DynamicsConfig" [
    ("speed_limit", optionText literalText s.speedLimit),
    ("bounded", boolText s.bounded)]

def LifecycleSettings.literal (s : LifecycleSettings) : String :=
  recordText "LifecycleConfig" [
    ("clone_offset", literalText s.cloneOffset),
    ("max_population", optionText toString s.maxPopulation),
    ("clone_delay", literalText s.cloneDelay)]

namespace Settings

/-- The text that identifies a configuration. How neighbours are found does not enter it. -/
def identityText (s : Settings) : String :=
  s.engine.literal ++ s.population.literal ++ s.schedule.literal ++ s.dynamics.literal ++
    s.lifecycle.literal

def fingerprint (s : Settings) : String :=
  Digest.sha256 s.identityText.toUTF8.toList

end Settings

end SpatialComputer
