import SpatialComputer.Document.Data

/-!
# Tables under construction

The tables of a TOML document while its lines are read. A table remembers how it came to be, since that decides what may still be added: a header may complete a table that was only passed through by other headers, and dotted keys may extend a table that dotted keys began, but nothing is defined twice.
-/

namespace SpatialComputer.Toml

inductive Origin where
  /-- By a header of its own, or as an element of an array of tables. -/
  | header
  | implied
  | dotted
deriving DecidableEq, Repr

mutual

inductive Node where
  /-- A finished value; inline tables and static arrays are finished as well. -/
  | value (data : Data)
  | table (table : Table)
  | tables (tables : List Table)

inductive Table where
  | mk (origin : Origin) (entries : List (String × Node))

end

namespace Table

def origin : Table → Origin
  | mk origin _ => origin

def entries : Table → List (String × Node)
  | mk _ entries => entries

def empty (origin : Origin) : Table := mk origin []

def get? (t : Table) (key : String) : Option Node :=
  (t.entries.find? fun (k, _) => k = key).map (·.2)

def set (t : Table) (key : String) (node : Node) : Table :=
  if t.entries.any fun (k, _) => k = key then
    mk t.origin (t.entries.map fun (k, n) => if k = key then (k, node) else (k, n))
  else mk t.origin (t.entries ++ [(key, node)])

def withOrigin (t : Table) (origin : Origin) : Table := mk origin t.entries

/-- Changes the table at the end of a path, creating what is missing on the way. Dotted keys do not enter a table that has a header; of an array of tables the latest element is entered. -/
def descend (dotted : Bool) (act : Table → Option Table) : List String → Table → Option Table
  | [], t => act t
  | key :: path, t =>
    match t.get? key with
    | none => do
      let child ← descend dotted act path (empty (if dotted then .dotted else .implied))
      return t.set key (.table child)
    | some (.table child) =>
      if dotted && child.origin = .header then none
      else do
        let child ← descend dotted act path child
        return t.set key (.table child)
    | some (.tables (latest :: earlier)) => do
      let latest ← descend dotted act path latest
      return t.set key (.tables (latest :: earlier))
    | some (.tables []) | some (.value _) => none

/-- Adds a value under a dotted key: the last part names the entry, and the parts before it the way there. -/
def addValue (path : List String) (key : String) (data : Data) : Table → Option Table :=
  descend true (fun t =>
    let mixed := (t.origin == .dotted) == path.isEmpty
    if mixed || (t.get? key).isSome then none else some (t.set key (.value data))) path

def openTable (path : List String) (key : String) : Table → Option Table :=
  descend false (fun t =>
    match t.get? key with
    | none => some (t.set key (.table (empty .header)))
    | some (.table child) =>
      if child.origin = .implied then some (t.set key (.table (child.withOrigin .header))) else none
    | some _ => none) path

def openElement (path : List String) (key : String) : Table → Option Table :=
  descend false (fun t =>
    match t.get? key with
    | none => some (t.set key (.tables [empty .header]))
    | some (.tables elements) => some (t.set key (.tables (empty .header :: elements)))
    | some _ => none) path

end Table

mutual

def Node.toData : Node → Data
  | .value data => data
  | .table t => t.toData
  | .tables ts => .list (tablesData ts).reverse

def Table.toData : Table → Data
  | .mk _ entries => .table (entriesData entries)

def tablesData : List Table → List Data
  | [] => []
  | t :: ts => t.toData :: tablesData ts

def entriesData : List (String × Node) → List (String × Data)
  | [] => []
  | (key, node) :: entries => (key, node.toData) :: entriesData entries

end

end SpatialComputer.Toml
