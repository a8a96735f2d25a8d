import SpatialComputer.Document.Json
import SpatialComputer.Snapshot.Basic
import SpatialComputer.Word

/-!
# Snapshots as JSON

A snapshot is written as one line of compact JSON with its fields in a fixed order, and numbers with the fewest digits that read back. A number that is not finite is written as null, which does not read back. When reading, records may also be given as arrays of their fields, unknown fields are passed over, and a field given twice is an error.
-/

namespace SpatialComputer

open Binary64

namespace Json

/-! ### Writing -/

def ofNat (n : Nat) : Json := number ⟨false, n, 0, none⟩

/-- A double, or null if it is not finite. -/
def ofFloat (x : Float) : Json :=
  match value x with
  | .finite negative mantissa exponent =>
    number (Layout.dump.numeral negative (shortest Layout.dump.tie mantissa exponent))
  | _ => null

def ofOption {α : Type} (encode : α → Json) : Option α → Json
  | some value => encode value
  | none => null

def ofFields (fields : List (String × Json)) : Json :=
  object (fields.map fun (name, value) => (some name, value))

/-! ### Reading -/

/-- A natural number that fits in a word, written without point or exponent. -/
def toNat? : Json → Option Nat
  | number n =>
    if n.isIntegral && !n.negative then word? n.coefficient else none
  | _ => none

def toFloat? : Json → Option Float
  | number n => n.toFloat?
  | _ => none

def toBool? : Json → Option Bool
  | bool b => some b
  | _ => none

def toString? : Json → Option String
  | string s => s
  | _ => none

def toOption? {α : Type} (decode : Json → Option α) : Json → Option (Option α)
  | null => some none
  | value => (decode value).map some

def toList? {α : Type} (decode : Json → Option α) : Json → Option (List α)
  | array items => items.mapM decode
  | _ => none

/-- The keys of an object, if all of them have a text and none of the given names comes twice. -/
def knownKeys? (names : List String) (members : List (Option String × Json)) : Option Unit := do
  let keys ← members.mapM fun (key, _) => key
  guard (names.all fun name => keys.count name ≤ 1)

/-- The fields of a record, in the order of their names, from an object or from an array that has one item for each. An absent field is `none`. -/
def toFields? (names : List String) : Json → Option (List (Option Json))
  | object members => do
    knownKeys? names members
    return names.map fun name => (members.find? fun (key, _) => key = some name).map (·.2)
  | array items =>
    if items.length = names.length then some (items.map some) else none
  | _ => none

end Json

open Json

def Vec3.toJson (v : Vec3) : Json :=
  ofFields [("x", ofFloat v.x), ("y", ofFloat v.y), ("z", ofFloat v.z)]

def Color.toJson (c : Color) : Json :=
  ofFields [("red", ofFloat c.red), ("green", ofFloat c.green), ("blue", ofFloat c.blue)]

def LifecycleRequests.toJson (r : LifecycleRequests) : Json :=
  ofFields [("request_clone", .bool r.clone), ("request_death", .bool r.death)]

def DeviceSnapshot.toJson (d : DeviceSnapshot) : Json :=
  ofFields [
    ("id", .ofNat d.id),
    ("parent", ofOption .ofNat d.parent),
    ("position", d.position.toJson),
    ("radius", ofFloat d.radius),
    ("color", d.color.toJson),
    ("sensors", .array (d.sensors.map .bool)),
    ("next_transmit_time", ofFloat d.nextTransmitTime),
    ("next_compute_time", ofFloat d.nextComputeTime),
    ("last_compute_time", ofOption ofFloat d.lastComputeTime),
    ("requests", d.requests.toJson),
    ("clone_timer", ofFloat d.cloneTimer)]

def PopulationSnapshot.toJson (s : PopulationSnapshot) : Json :=
  ofFields [
    ("tick", .ofNat s.tick),
    ("time", ofFloat s.time),
    ("fingerprint", .string (some s.fingerprint)),
    ("devices", .array (s.devices.map DeviceSnapshot.toJson))]

/-- The line that a snapshot is written as, without its line break. -/
def PopulationSnapshot.line (s : PopulationSnapshot) : String :=
  .ofList s.toJson.text

def Vec3.ofJson? (j : Json) : Option Vec3 := do
  let [some x, some y, some z] ← j.toFields? ["x", "y", "z"] | none
  return ⟨← x.toFloat?, ← y.toFloat?, ← z.toFloat?⟩

def Color.ofJson? (j : Json) : Option Color := do
  let [some red, some green, some blue] ← j.toFields? ["red", "green", "blue"] | none
  return ⟨← red.toFloat?, ← green.toFloat?, ← blue.toFloat?⟩

def LifecycleRequests.ofJson? (j : Json) : Option LifecycleRequests := do
  let [some clone, some death] ← j.toFields? ["request_clone", "request_death"] | none
  return ⟨← clone.toBool?, ← death.toBool?⟩

/-- Reads a device of a dump; only its parent and the time of its latest round may be missing. -/
def DeviceSnapshot.ofJson? (j : Json) : Option DeviceSnapshot := do
  let [some id, parent, some position, some radius, some color, some sensors, some nextTransmit,
      some nextCompute, lastCompute, some requests, some cloneTimer] ←
    j.toFields? ["id", "parent", "position", "radius", "color", "sensors", "next_transmit_time",
      "next_compute_time", "last_compute_time", "requests", "clone_timer"] | none
  return {
    id := ← id.toNat?
    parent := ← (parent.getD .null).toOption? toNat?
    position := ← Vec3.ofJson? position
    radius := ← radius.toFloat?
    color := ← Color.ofJson? color
    sensors := ← sensors.toList? toBool?
    nextTransmitTime := ← nextTransmit.toFloat?
    nextComputeTime := ← nextCompute.toFloat?
    lastComputeTime := ← (lastCompute.getD .null).toOption? Json.toFloat?
    requests := ← LifecycleRequests.ofJson? requests
    cloneTimer := ← cloneTimer.toFloat? }

def PopulationSnapshot.ofJson? (j : Json) : Option PopulationSnapshot := do
  let [some tick, some time, some fingerprint, some devices] ←
    j.toFields? ["tick", "time", "fingerprint", "devices"] | none
  return {
    tick := ← tick.toNat?
    time := ← time.toFloat?
    fingerprint := ← fingerprint.toString?
    devices := ← devices.toList? DeviceSnapshot.ofJson? }

def PopulationSnapshot.ofLine? (line : String) : Option PopulationSnapshot := do
  PopulationSnapshot.ofJson? (← Json.ofText? line.toList)

end SpatialComputer
