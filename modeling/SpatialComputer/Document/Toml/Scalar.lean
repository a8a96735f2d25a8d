import SpatialComputer.Binary64.Numeral
import SpatialComputer.Document.Data

/-!
# TOML scalars

Blanks, comments, keys, strings, numbers and dates. Every reader takes the rest of the text and returns what it read with what comes after it, or nothing if the text is malformed.
-/

namespace SpatialComputer.Toml

open Binary64

/-! ### Blanks and comments -/

def isBlank (c : Char) : Bool := c = ' ' || c = '\t'

def skipBlanks (cs : List Char) : List Char := cs.dropWhile isBlank

/-- Whether a character may stand in a comment: no control character but the tab. -/
def isPrintable (c : Char) : Bool := c = '\t' || (0x20 ≤ c.toNat && c.toNat ≠ 0x7f)

/-- The text after a line break, if there is one. A carriage return counts only before a line feed. -/
def lineBreak? : List Char → Option (List Char)
  | '\n' :: rest => some rest
  | '\r' :: '\n' :: rest => some rest
  | _ => none

def skipComment (cs : List Char) : List Char :=
  match cs with
  | '#' :: rest => rest.dropWhile isPrintable
  | cs => cs

/-- The text after the end of a line, which may have blanks and a comment before its break. -/
def lineEnd? (cs : List Char) : Option (List Char) :=
  match skipComment (skipBlanks cs) with
  | [] => some []
  | rest => lineBreak? rest

/-- The text after any blanks, comments and line breaks; a comment has to end in a line break. -/
def skipLines : Nat → List Char → Option (List Char)
  | 0, cs => some cs
  | fuel + 1, cs =>
    match skipBlanks cs with
    | '#' :: rest => do skipLines fuel (← lineBreak? (rest.dropWhile isPrintable))
    | '\n' :: rest => skipLines fuel rest
    | '\r' :: rest => do skipLines fuel (← lineBreak? ('\r' :: rest))
    | rest => some rest

/-! ### Strings -/

def hexValue? (digits : List Char) : Option Nat :=
  digits.foldlM (fun n c =>
    if c.isDigit then some (16 * n + (c.toNat - '0'.toNat))
    else if 'a' ≤ c ∧ c ≤ 'f' then some (16 * n + (c.toNat - 'a'.toNat + 10))
    else if 'A' ≤ c ∧ c ≤ 'F' then some (16 * n + (c.toNat - 'A'.toNat + 10))
    else none) 0

/-- The character of a code that is not a surrogate. -/
def charOf? (code : Nat) : Option Char :=
  if code.isValidChar then some (.ofNat code) else none

def readCode (count : Nat) (cs : List Char) : Option (Char × List Char) := do
  let digits := cs.take count
  guard (digits.length == count)
  return (← charOf? (← hexValue? digits), cs.drop count)

def readEscape : List Char → Option (Char × List Char)
  | 'b' :: rest => some ('\x08', rest)
  | 'f' :: rest => some ('\x0c', rest)
  | 'n' :: rest => some ('\n', rest)
  | 'r' :: rest => some ('\r', rest)
  | 't' :: rest => some ('\t', rest)
  | '"' :: rest => some ('"', rest)
  | '\\' :: rest => some ('\\', rest)
  | 'u' :: rest => readCode 4 rest
  | 'U' :: rest => readCode 8 rest
  | _ => none

/-- The rest of a one-line string with escapes, after its opening quote. What was read is kept latest first. -/
def readBasic (read : List Char) : Nat → List Char → Option (String × List Char)
  | 0, _ => none
  | _, [] => none
  | _ + 1, '"' :: rest => some (.ofList read.reverse, rest)
  | fuel + 1, '\\' :: rest => do
    let (c, rest) ← readEscape rest
    readBasic (c :: read) fuel rest
  | fuel + 1, c :: rest => if isPrintable c then readBasic (c :: read) fuel rest else none

/-- The rest of a one-line string without escapes, after its opening quote. -/
def readLiteral (cs : List Char) : Option (String × List Char) :=
  let inside := cs.takeWhile fun c => isPrintable c && c ≠ '\''
  match cs.drop inside.length with
  | '\'' :: rest => some (.ofList inside, rest)
  | _ => none

/-- Takes a run of quotes in a string of several lines. Fewer than three are text; of three to five the last three close the string. The first result is the text so far, and whether the string is closed. -/
def readQuotes (quote : Char) (read cs : List Char) : Option ((List Char × Bool) × List Char) :=
  let run := cs.takeWhile (· = quote)
  let rest := cs.drop run.length
  if run.length < 3 then some ((run ++ read, false), rest)
  else if run.length ≤ 5 then some ((run.drop 3 ++ read, true), rest)
  else none

/-- The text after the blanks and line breaks that a backslash at the end of a line swallows, if this is the end of a line. -/
def continuation? (cs : List Char) : Option (List Char) := do
  let rest ← lineBreak? (skipBlanks cs)
  go rest.length rest
where
  go : Nat → List Char → Option (List Char)
    | 0, cs => some cs
    | fuel + 1, cs =>
      let cs := skipBlanks cs
      match lineBreak? cs with
      | some rest => go fuel rest
      | none => some cs

/-- The rest of a string of several lines, after its opening quotes and the line break that may follow them. Line breaks become line feeds. -/
def readLong (quote : Char) (escapes : Bool) (read : List Char) : Nat → List Char → Option (String × List Char)
  | 0, _ => none
  | _, [] => none
  | fuel + 1, c :: rest => do
    if c = quote then
      let ((read, closed), rest) ← readQuotes quote read (c :: rest)
      if closed then return (.ofList read.reverse, rest)
      readLong quote escapes read fuel rest
    else if escapes && c = '\\' then
      match continuation? rest with
      | some rest => readLong quote escapes read fuel rest
      | none =>
        let (c, rest) ← readEscape rest
        readLong quote escapes (c :: read) fuel rest
    else match lineBreak? (c :: rest) with
      | some rest => readLong quote escapes ('\n' :: read) fuel rest
      | none => if isPrintable c then readLong quote escapes (c :: read) fuel rest else none

def skipLineBreak (cs : List Char) : List Char := (lineBreak? cs).getD cs

def readString (cs : List Char) : Option (String × List Char) :=
  match cs with
  | '"' :: '"' :: '"' :: rest => readLong '"' true [] (rest.length + 1) (skipLineBreak rest)
  | '"' :: rest => readBasic [] (rest.length + 1) rest
  | '\'' :: '\'' :: '\'' :: rest => readLong '\'' false [] (rest.length + 1) (skipLineBreak rest)
  | '\'' :: rest => readLiteral rest
  | _ => none

/-! ### Keys -/

def isKeyChar (c : Char) : Bool := c.isAlphanum || c = '_' || c = '-'

def readKeyPart (cs : List Char) : Option (String × List Char) :=
  match cs with
  | '"' :: rest => readBasic [] (rest.length + 1) rest
  | '\'' :: rest => readLiteral rest
  | cs =>
    let name := cs.takeWhile isKeyChar
    if name.isEmpty then none else some (.ofList name, cs.drop name.length)

def depthLimit : Nat := 80

/-- The parts of a key with points between them, and blanks around each part. -/
def readKeyParts : Nat → List Char → Option (List String × List Char)
  | 0, _ => none
  | fuel + 1, cs => do
    let (part, rest) ← readKeyPart (skipBlanks cs)
    match skipBlanks rest with
    | '.' :: rest =>
      let (parts, rest) ← readKeyParts fuel rest
      return (part :: parts, rest)
    | rest => return ([part], rest)

/-- A key: the parts before the last one, and the last one. -/
def readKey (cs : List Char) : Option ((List String × String) × List Char) := do
  let (parts, rest) ← readKeyParts (depthLimit - 1) cs
  let last ← parts.getLast?
  return ((parts.dropLast, last), rest)

/-! ### Dates -/

def readField (count least greatest : Nat) (cs : List Char) : Option (Nat × List Char) := do
  let digits := cs.take count
  guard (digits.length == count && digits.all Char.isDigit)
  let n := digits.foldl (fun n c => 10 * n + (c.toNat - '0'.toNat)) 0
  guard (least ≤ n && n ≤ greatest)
  return (n, cs.drop count)

def expect (c : Char) : List Char → Option (List Char)
  | d :: rest => if d = c then some rest else none
  | [] => none

def daysInMonth (year month : Nat) : Nat :=
  if month = 2 then
    if year % 4 = 0 ∧ (year % 100 ≠ 0 ∨ year % 400 = 0) then 29 else 28
  else if month = 4 ∨ month = 6 ∨ month = 9 ∨ month = 11 then 30
  else 31

def skipDate (cs : List Char) : Option (List Char) := do
  let (year, rest) ← readField 4 0 9999 cs
  let (month, rest) ← readField 2 1 12 (← expect '-' rest)
  let (_, rest) ← readField 2 1 (daysInMonth year month) (← expect '-' rest)
  return rest

/-- The text after the digits of a fraction of a second, if there is one. -/
def skipFraction (cs : List Char) : List Char :=
  match cs with
  | '.' :: c :: rest => if c.isDigit then rest.dropWhile Char.isDigit else cs
  | cs => cs

def skipTime (cs : List Char) : Option (List Char) := do
  let (_, rest) ← readField 2 0 23 cs
  let (_, rest) ← readField 2 0 59 (← expect ':' rest)
  let (_, rest) ← readField 2 0 60 (← expect ':' rest)
  return skipFraction rest

/-- The text after an offset from universal time, if there is one. -/
def skipOffset (cs : List Char) : Option (List Char) :=
  match cs with
  | 'Z' :: rest | 'z' :: rest => some rest
  | '+' :: rest | '-' :: rest => do
    let (_, rest) ← readField 2 0 23 rest
    let (_, rest) ← readField 2 0 59 (← expect ':' rest)
    return rest
  | cs => some cs

/-- The text after a date that may have a time and an offset with it. -/
def skipDateTime (cs : List Char) : Option (List Char) := do
  let rest ← skipDate cs
  match rest with
  | c :: time =>
    if (c = 'T' ∨ c = 't' ∨ c = ' ') ∧ (readField 2 0 23 time).isSome then
      skipOffset (← skipTime time)
    else return rest
  | [] => return rest

/-- Whether a text begins like a date: four digits and a hyphen. -/
def beginsDate (cs : List Char) : Bool :=
  (cs.take 4).length == 4 && (cs.take 4).all Char.isDigit && (cs.drop 4).head? == some '-'

/-- Whether a text begins like a time of day: an hour and a colon. -/
def beginsTime (cs : List Char) : Bool :=
  (readField 2 0 23 cs).isSome && (cs.drop 2).head? == some ':'

/-! ### Numbers -/

/-- Digits of a kind, which may have single underscores between them. The underscores are dropped. -/
def readDigits (isDigit : Char → Bool) : List Char → Option (List Char × List Char)
  | [] => none
  | [c] => if isDigit c then some ([c], []) else none
  | c :: '_' :: rest => do
    guard (isDigit c)
    let (digits, rest) ← readDigits isDigit rest
    return (c :: digits, rest)
  | c :: d :: rest =>
    if !isDigit c then none
    else if isDigit d then do
      let (digits, rest) ← readDigits isDigit (d :: rest)
      return (c :: digits, rest)
    else some ([c], d :: rest)

def digitsValue (base : Nat) (digits : List Char) : Nat :=
  digits.foldl (fun n c =>
    let d :=
      if c.isDigit then c.toNat - '0'.toNat
      else if 'a' ≤ c then c.toNat - 'a'.toNat + 10
      else c.toNat - 'A'.toNat + 10
    base * n + d) 0

def integer? (n : Int) : Option Data :=
  if -0x8000000000000000 ≤ n ∧ n < 0x8000000000000000 then some (.int n) else none

def readBased (base : Nat) (isDigit : Char → Bool) (cs : List Char) : Option (Data × List Char) := do
  let (digits, rest) ← readDigits isDigit cs
  return (← integer? (digitsValue base digits), rest)

def isHexDigit (c : Char) : Bool :=
  c.isDigit || ('a' ≤ c && c ≤ 'f') || ('A' ≤ c && c ≤ 'F')

def readExponent (cs : List Char) : Option (Int × List Char) :=
  match cs with
  | '-' :: rest => do
    let (digits, rest) ← readDigits Char.isDigit rest
    return (-(digitsValue 10 digits : Int), rest)
  | '+' :: rest => do
    let (digits, rest) ← readDigits Char.isDigit rest
    return (digitsValue 10 digits, rest)
  | cs => do
    let (digits, rest) ← readDigits Char.isDigit cs
    return (digitsValue 10 digits, rest)

/-- The whole digits of a decimal number; a zero stands alone. -/
def readWhole (cs : List Char) : Option (List Char × List Char) :=
  match cs with
  | '0' :: rest => some (['0'], rest)
  | cs => readDigits Char.isDigit cs

/-- A double. What lies below every finite one is negative infinity, and nothing may lie above them. -/
def float? (numeral : Numeral) : Option Data :=
  let x := numeral.decimal.toFloat numeral.negative
  if x.isFinite || numeral.negative then some (.float x) else none

def readDecimal (negative : Bool) (cs : List Char) : Option (Data × List Char) := do
  let (whole, rest) ← readWhole cs
  let (fraction, hasPoint, rest) ← match rest with
    | '.' :: rest => do
      let (fraction, rest) ← readDigits Char.isDigit rest
      pure (fraction, true, rest)
    | rest => pure ([], false, rest)
  let coefficient := digitsValue 10 (whole ++ fraction)
  let withExponent (e : Option Int) : Option Data :=
    float? ⟨negative, coefficient, fraction.length, e⟩
  match rest with
  | 'e' :: rest | 'E' :: rest => do
    let (e, rest) ← readExponent rest
    return (← withExponent (some e), rest)
  | rest =>
    if hasPoint then return (← withExponent none, rest)
    else
      let n : Int := coefficient
      return (← integer? (if negative then -n else n), rest)

/-- A double that is not finite, after its sign, or a decimal number. -/
def readSigned (negative : Bool) (cs : List Char) : Option (Data × List Char) :=
  match cs with
  | 'i' :: 'n' :: 'f' :: rest => some (.float (ofMagnitude negative infinityBits), rest)
  | 'n' :: 'a' :: 'n' :: rest => some (.float (0 / 0), rest)
  | cs => readDecimal negative cs

def readNumber (cs : List Char) : Option (Data × List Char) :=
  if beginsDate cs then (skipDateTime cs).map fun rest => (.moment, rest)
  else if beginsTime cs then (skipTime cs).map fun rest => (.moment, rest)
  else match cs with
    | '0' :: 'x' :: rest => readBased 16 isHexDigit rest
    | '0' :: 'o' :: rest => readBased 8 (fun c => '0' ≤ c && c ≤ '7') rest
    | '0' :: 'b' :: rest => readBased 2 (fun c => c = '0' || c = '1') rest
    | '+' :: rest => readSigned false rest
    | '-' :: rest => readSigned true rest
    | cs => readSigned false cs

end SpatialComputer.Toml
