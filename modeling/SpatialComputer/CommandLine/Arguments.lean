import SpatialComputer.Program.Decode

/-!
# Command line arguments

Every option takes a value, which follows as the next argument or is attached: `--ticks 7`, `--ticks=7`, `-t 7`, `-t7` and `-t=7` mean the same. Arguments are read from left to right, and the first one that asks for help or is wrong settles the matter. An option may be given once, and nothing but options may be given.
-/

namespace SpatialComputer.CommandLine

inductive Setting where
  | config
  | ticks
  | seed
  | program
  | dump
  | dumpPeriod
  | logLevel
deriving DecidableEq, Repr

inductive Switch where
  | setting (setting : Setting)
  | help
  | version
deriving DecidableEq, Repr

def longNames : List (String × Switch) :=
  [("config", .setting .config), ("ticks", .setting .ticks), ("seed", .setting .seed),
    ("program", .setting .program), ("dump", .setting .dump),
    ("dump-period", .setting .dumpPeriod), ("log-level", .setting .logLevel),
    ("help", .help), ("version", .version)]

def shortNames : List (Char × Switch) :=
  [('c', .setting .config), ('t', .setting .ticks), ('p', .setting .program), ('h', .help),
    ('V', .version)]

structure Word where
  switch : Switch
  attached : Option String := none
deriving DecidableEq, Repr

namespace Word

/-- An option by its long name; a value is attached with an equals sign. Only settings take one. -/
def ofLong? (cs : List Char) : Option Word := do
  let name := cs.takeWhile (· ≠ '=')
  let switch ← longNames.lookup (.ofList name)
  match switch, cs.drop name.length with
  | switch, [] => return { switch := switch }
  | .setting s, _ :: value => return { switch := .setting s, attached := some (.ofList value) }
  | _, _ :: _ => none

/-- An option by its short name; what follows it is its value. What follows a request for help is not looked at. -/
def ofShort? (name : Char) (rest : List Char) : Option Word := do
  match ← shortNames.lookup name, rest with
  | .setting s, '=' :: value => return { switch := .setting s, attached := some (.ofList value) }
  | .setting s, c :: value => return { switch := .setting s, attached := some (.ofList (c :: value)) }
  | switch, _ => return { switch := switch }

def ofArgument? (argument : String) : Option Word :=
  match argument.toList with
  | '-' :: '-' :: cs => ofLong? cs
  | '-' :: c :: cs => ofShort? c cs
  | _ => none

end Word

structure Arguments where
  config : Option String := none
  ticks : Option Nat := none
  seed : Option Nat := none
  program : Option Program := none
  dump : Option String := none
  dumpPeriod : Option Nat := none
  logLevel : Option String := none
deriving DecidableEq

/-- A natural number that fits in a word, in decimal digits, perhaps with a plus sign. -/
def count? (text : String) : Option Nat :=
  let digits := match text.toList with
    | '+' :: cs => cs
    | cs => cs
  if digits.isEmpty || digits.any (!·.isDigit) then none
  else word? (digits.foldl (fun n c => 10 * n + (c.toNat - '0'.toNat)) 0)

/-- A path, which is not empty. -/
def path? (text : String) : Option String :=
  if text.isEmpty then none else some text

def fill {α : Type} (place : Option α) (value : Option α) : Option (Option α) :=
  if place.isSome then none else value.map some

/-- The arguments with a further setting, unless it is already there or its value is no good. -/
def Arguments.set (a : Arguments) (setting : Setting) (value : String) : Option Arguments := do
  match setting with
  | .config => return { a with config := ← fill a.config (path? value) }
  | .ticks => return { a with ticks := ← fill a.ticks (count? value) }
  | .seed => return { a with seed := ← fill a.seed (count? value) }
  | .program => return { a with program := ← fill a.program (Program.ofName? value false) }
  | .dump => return { a with dump := ← fill a.dump (path? value) }
  | .dumpPeriod => return { a with dumpPeriod := ← fill a.dumpPeriod (count? value) }
  | .logLevel => return { a with logLevel := ← fill a.logLevel (some value) }

inductive Request where
  | run (arguments : Arguments)
  | help
  | version
deriving DecidableEq

/-- Whether an argument can be the value of the option before it: it does not begin with a hyphen, or is nothing but one. -/
def isValue (argument : String) : Bool :=
  argument = "-" || argument.toList.head? != some '-'

/-- Reads arguments after those already read. Two hyphens at the very end change nothing. -/
def readArguments (given : Arguments) : List String → Option Request
  | [] => some (.run given)
  | ["--"] => some (.run given)
  | argument :: rest =>
    match Word.ofArgument? argument with
    | none => none
    | some ⟨.help, _⟩ => some .help
    | some ⟨.version, _⟩ => some .version
    | some ⟨.setting s, some value⟩ => do readArguments (← given.set s value) rest
    | some ⟨.setting s, none⟩ =>
      match rest with
      | [] => none
      | value :: rest => do
        guard (isValue value)
        readArguments (← given.set s value) rest

/-- What the arguments ask for, or `none` if they are wrong. -/
def Request.ofArguments? (arguments : List String) : Option Request :=
  readArguments {} arguments

end SpatialComputer.CommandLine
