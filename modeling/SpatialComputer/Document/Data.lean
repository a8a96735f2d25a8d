import SpatialComputer.Binary64.Rounding
import SpatialComputer.Word

/-!
# Configuration data

The tree that a configuration document stands for, whatever language it was written in, and how records, choices and numbers are read off it. A record is a table of named fields or a list of the fields in order; of a table, unknown entries are passed over. A choice gives its kind along with the fields that the kind has. An integer will do where a double is wanted, but not the other way round.
-/

namespace SpatialComputer

open Binary64

inductive Data where
  | null
  | bool (value : Bool)
  | int (value : Int)
  /-- An integer of a language that tells counts from signed integers. A count may also stand for a kind, by its place among the kinds. -/
  | nat (value : Nat)
  | float (value : Float)
  | text (value : String)
  /-- A date or a time of day. It has parts of its own, so where a record is wanted it counts as a table without any known entry. -/
  | moment
  | list (items : List Data)
  | table (entries : List (String × Data))

/-- How lists are read. A lenient reading passes over the items of a record's list beyond its last field, and takes an empty list for an empty table; a strict one refuses both. -/
inductive Reading where
  | lenient
  | strict
deriving DecidableEq, Repr

namespace Data

def toBool? : Data → Option Bool
  | bool b => some b
  | _ => none

/-- A double; an integer is rounded to the nearest one. -/
def toFloat? : Data → Option Float
  | int n => some (ofInt n)
  | nat n => some (ofNat n)
  | float x => some x
  | _ => none

def toNat? : Data → Option Nat
  | int n => if 0 ≤ n then word? n.toNat else none
  | nat n => word? n
  | _ => none

def toText? : Data → Option String
  | text s => some s
  | _ => none

def toOption? {α : Type} (decode : Data → Option α) : Data → Option (Option α)
  | null => some none
  | value => (decode value).map some

def toList? {α : Type} (decode : Data → Option α) : Data → Option (List α)
  | list items => items.mapM decode
  | _ => none

def member? (entries : List (String × Data)) (name : String) : Option Data :=
  (entries.find? fun (key, _) => key = name).map (·.2)

/-- The items of a list as the fields of a record; fields beyond the end are absent. -/
def positional? (reading : Reading) (names : List String) (items : List Data) :
    Option (List (Option Data)) :=
  if reading = .strict ∧ names.length < items.length then none
  else some ((List.range names.length).map (items[·]?))

def toFields? (reading : Reading) (names : List String) : Data → Option (List (Option Data))
  | table entries => some (names.map (member? entries))
  | list items => positional? reading names items
  | moment => some (names.map fun _ => none)
  | _ => none

/-- A kind out of the given ones, by its name or by its place among them. -/
def toKind? (kinds : List String) : Data → Option String
  | text name => some name
  | nat place => kinds[place]?
  | _ => none

/-- The kind of a choice and what accompanies it: the entry `kind` of a table, or the first item of a list. -/
def toChoice? (kinds : List String) : Data → Option (String × Data)
  | table entries => do
    let kind ← member? entries "kind"
    return (← kind.toKind? kinds, table entries)
  | list (kind :: items) => do
    return (← kind.toKind? kinds, list items)
  | _ => none

/-- The fields that accompany the kind of a choice. They are always read strictly. -/
def toChoiceFields? (names : List String) (rest : Data) : Option (List (Option Data)) :=
  rest.toFields? .strict names

def isVoid (reading : Reading) : Data → Bool
  | null | table [] => true
  | list [] => reading = .lenient
  | _ => false

/-- A bare name: a text, or the only entry of a table if nothing is in it. -/
def toName? (reading : Reading) : Data → Option String
  | text name => some name
  | table [(name, payload)] => if payload.isVoid reading then some name else none
  | _ => none

def fieldD {α : Type} (default : α) (decode : Data → Option α) : Option Data → Option α
  | none => some default
  | some value => decode value

end Data

end SpatialComputer
