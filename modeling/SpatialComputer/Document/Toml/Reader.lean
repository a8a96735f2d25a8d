import SpatialComputer.Document.Toml.Scalar
import SpatialComputer.Document.Toml.Table

/-!
# TOML documents

A document is a sequence of lines: blank ones, headers that open a table, and entries of the table opened last. Values may nest up to a fixed depth.
-/

namespace SpatialComputer.Toml

mutual

/-- A value. `fuel` bounds the length of the text, and `depth` is the number of arrays and inline tables around it. -/
def readValue (fuel depth : Nat) (cs : List Char) : Option (Data × List Char) :=
  match fuel with
  | 0 => none
  | fuel + 1 =>
    match cs with
    | '"' :: _ | '\'' :: _ => do
      let (s, rest) ← readString cs
      return (.text s, rest)
    | '[' :: rest => do
      guard (depth + 1 < depthLimit)
      let (items, rest) ← readItems fuel (depth + 1) rest
      return (.list items, rest)
    | '\x7b' :: rest => do
      guard (depth + 1 < depthLimit)
      match skipBlanks rest with
      | '\x7d' :: rest => return (.table [], rest)
      | rest =>
        let (table, rest) ← readEntries fuel (depth + 1) (.empty .header) rest
        return (table.toData, rest)
    | 't' :: 'r' :: 'u' :: 'e' :: rest => some (.bool true, rest)
    | 'f' :: 'a' :: 'l' :: 's' :: 'e' :: rest => some (.bool false, rest)
    | cs => readNumber cs

def readItems (fuel depth : Nat) (cs : List Char) : Option (List Data × List Char) :=
  match fuel with
  | 0 => none
  | fuel + 1 => do
    let cs ← skipLines fuel cs
    match cs with
    | ']' :: rest => return ([], rest)
    | cs =>
      let (item, rest) ← readValue fuel depth cs
      match ← skipLines fuel rest with
      | ',' :: rest =>
        let (items, rest) ← readItems fuel depth rest
        return (item :: items, rest)
      | ']' :: rest => return ([item], rest)
      | _ => none

/-- The entries of an inline table, from the key of the next one on. -/
def readEntries (fuel depth : Nat) (table : Table) (cs : List Char) : Option (Table × List Char) :=
  match fuel with
  | 0 => none
  | fuel + 1 => do
    let ((path, key), rest) ← readKey cs
    let (data, rest) ← readValue fuel depth (skipBlanks (← expect '=' rest))
    let table ← table.addValue path key data
    match skipBlanks rest with
    | ',' :: rest => readEntries fuel depth table rest
    | '\x7d' :: rest => return (table, rest)
    | _ => none

end

/-- A document being read: all tables, and the path of the one that entries go into. -/
structure State where
  root : Table := .empty .header
  path : List String := []

def State.openTable (s : State) (path : List String) (key : String) : Option State := do
  return { root := ← s.root.openTable path key, path := path ++ [key] }

def State.openElement (s : State) (path : List String) (key : String) : Option State := do
  return { root := ← s.root.openElement path key, path := path ++ [key] }

def State.addValue (s : State) (path : List String) (key : String) (data : Data) :
    Option State := do
  return { s with root := ← s.root.descend false (Table.addValue path key data) s.path }

/-- Reads a line that is not blank, up to but not including its end. -/
def readLine (fuel : Nat) (s : State) (cs : List Char) : Option (State × List Char) :=
  match cs with
  | '[' :: '[' :: rest => do
    let ((path, key), rest) ← readKey rest
    let rest ← expect ']' (← expect ']' rest)
    return (← s.openElement path key, rest)
  | '[' :: rest => do
    let ((path, key), rest) ← readKey rest
    let rest ← expect ']' rest
    return (← s.openTable path key, rest)
  | cs => do
    let ((path, key), rest) ← readKey cs
    let (data, rest) ← readValue fuel 0 (skipBlanks (← expect '=' rest))
    return (← s.addValue path key data, rest)

def readLines (s : State) : Nat → List Char → Option State
  | 0, _ => none
  | fuel + 1, cs =>
    match skipBlanks cs with
    | [] => some s
    | '#' :: _ | '\n' :: _ | '\r' :: _ => do readLines s fuel (← lineEnd? cs)
    | rest => do
      let (s, rest) ← readLine fuel s rest
      readLines s fuel (← lineEnd? rest)

/-- The data of a document. A byte order mark at its beginning is skipped. -/
def ofText? (text : String) : Option Data := do
  let cs := match text.toList with
    | '\ufeff' :: rest => rest
    | cs => cs
  let s ← readLines {} (2 * cs.length + 2) cs
  return s.root.toData

end SpatialComputer.Toml
