import SpatialComputer.Binary64.Numeral

/-!
# JSON

JSON documents as trees, their compact text, and a reader. Numbers are kept as written, so nothing is lost before it is known what a number is for. A string may escape half of a surrogate pair; such a string has no text, and is an error only where its text is wanted.
-/

namespace SpatialComputer

open Binary64

inductive Json where
  | null
  | bool (value : Bool)
  | number (numeral : Numeral)
  /-- A string, without a text if it holds an unpaired surrogate. -/
  | string (text : Option String)
  | array (items : List Json)
  | object (members : List (Option String × Json))

namespace Json

/-! ### Writing -/

def hexDigit (n : Nat) : Char := Nat.digitChar n

def escaped (c : Char) : List Char :=
  match c with
  | '"' => ['\\', '"']
  | '\\' => ['\\', '\\']
  | '\n' => ['\\', 'n']
  | '\r' => ['\\', 'r']
  | '\t' => ['\\', 't']
  | '\x08' => ['\\', 'b']
  | '\x0c' => ['\\', 'f']
  | c =>
    if c.toNat < 0x20 then ['\\', 'u', '0', '0', hexDigit (c.toNat / 16), hexDigit (c.toNat % 16)]
    else [c]

/-- A string in quotes. One without a text is written as an unpaired surrogate. -/
def stringText : Option String → List Char
  | some text => '"' :: text.toList.flatMap escaped ++ ['"']
  | none => "\"\\ud800\"".toList

mutual

def text : Json → List Char
  | null => "null".toList
  | bool true => "true".toList
  | bool false => "false".toList
  | number numeral => numeral.text true
  | string s => stringText s
  | array [] => "[]".toList
  | array (item :: items) => '[' :: item.text ++ itemsText items
  | object [] => "\x7b\x7d".toList
  | object ((key, item) :: members) =>
    '\x7b' :: stringText key ++ ':' :: item.text ++ membersText members

def itemsText : List Json → List Char
  | [] => [']']
  | item :: items => ',' :: item.text ++ itemsText items

def membersText : List (Option String × Json) → List Char
  | [] => ['\x7d']
  | (key, item) :: members => ',' :: stringText key ++ ':' :: item.text ++ membersText members

end

/-! ### Reading -/

def isBlank (c : Char) : Bool := c = ' ' || c = '\n' || c = '\t' || c = '\r'

def skipBlanks (cs : List Char) : List Char := cs.dropWhile isBlank

def spanDigits (cs : List Char) : List Char × List Char :=
  (cs.takeWhile Char.isDigit, cs.dropWhile Char.isDigit)

def digitsValue (digits : List Char) : Nat :=
  digits.foldl (fun n c => 10 * n + (c.toNat - '0'.toNat)) 0

/-- The digits after a point, at least one of them if there is a point. -/
def readFraction : List Char → Option (List Char × List Char)
  | '.' :: cs =>
    let (digits, rest) := spanDigits cs
    if digits.isEmpty then none else some (digits, rest)
  | cs => some ([], cs)

def readExponentDigits (negative : Bool) (cs : List Char) : Option (Option Int × List Char) :=
  let (digits, rest) := spanDigits cs
  if digits.isEmpty then none
  else
    let n : Int := digitsValue digits
    some (some (if negative then -n else n), rest)

/-- An exponent, if there is one. -/
def readExponent (cs : List Char) : Option (Option Int × List Char) :=
  match cs with
  | c :: rest =>
    if c = 'e' ∨ c = 'E' then
      match rest with
      | '-' :: rest => readExponentDigits true rest
      | '+' :: rest => readExponentDigits false rest
      | rest => readExponentDigits false rest
    else some (none, cs)
  | [] => some (none, cs)

/-- A number without its sign. Leading zeros are not allowed. -/
def readUnsigned (negative : Bool) (cs : List Char) : Option (Numeral × List Char) := do
  let (whole, rest) := spanDigits cs
  guard (!whole.isEmpty && (whole.length == 1 || whole.head? != some '0'))
  let (fraction, rest) ← readFraction rest
  let (exponent, rest) ← readExponent rest
  return ({
    negative := negative
    coefficient := digitsValue (whole ++ fraction)
    places := fraction.length
    exponent := exponent }, rest)

def readNumber (cs : List Char) : Option (Numeral × List Char) :=
  match cs with
  | '-' :: rest => readUnsigned true rest
  | cs => readUnsigned false cs

def hexValue (c : Char) : Option Nat :=
  if c.isDigit then some (c.toNat - '0'.toNat)
  else if 'a' ≤ c ∧ c ≤ 'f' then some (c.toNat - 'a'.toNat + 10)
  else if 'A' ≤ c ∧ c ≤ 'F' then some (c.toNat - 'A'.toNat + 10)
  else none

def readHex4 : List Char → Option (Nat × List Char)
  | a :: b :: c :: d :: rest => do
    let a ← hexValue a
    let b ← hexValue b
    let c ← hexValue c
    let d ← hexValue d
    return (((a * 16 + b) * 16 + c) * 16 + d, rest)
  | _ => none

def simpleEscape : Char → Option Char
  | '"' => some '"'
  | '\\' => some '\\'
  | '/' => some '/'
  | 'b' => some '\x08'
  | 'f' => some '\x0c'
  | 'n' => some '\n'
  | 'r' => some '\r'
  | 't' => some '\t'
  | _ => none

def isHighSurrogate (n : Nat) : Bool := 0xd800 ≤ n && n ≤ 0xdbff

def isLowSurrogate (n : Nat) : Bool := 0xdc00 ≤ n && n ≤ 0xdfff

/-- The rest of a string after its opening quote. `read` holds what was read so far, latest first, or `none` once an unpaired surrogate was met. -/
def readString (read : Option (List Char)) : Nat → List Char → Option (Option String × List Char)
  | 0, _ => none
  | _, [] => none
  | _ + 1, '"' :: rest => some (read.map fun cs => .ofList cs.reverse, rest)
  | fuel + 1, '\\' :: 'u' :: rest => do
    let (unit, rest) ← readHex4 rest
    if isHighSurrogate unit then
      match rest with
      | '\\' :: 'u' :: after => do
        let (second, afterPair) ← readHex4 after
        if isLowSurrogate second then
          let code := 0x10000 + (unit - 0xd800) * 0x400 + (second - 0xdc00)
          readString (read.map (.ofNat code :: ·)) fuel afterPair
        else readString none fuel rest
      | _ => readString none fuel rest
    else if isLowSurrogate unit then readString none fuel rest
    else readString (read.map (.ofNat unit :: ·)) fuel rest
  | fuel + 1, '\\' :: c :: rest => do
    let c ← simpleEscape c
    readString (read.map (c :: ·)) fuel rest
  | fuel + 1, c :: rest =>
    if c.toNat < 0x20 then none else readString (read.map (c :: ·)) fuel rest

mutual

/-- A document, after any blanks. `fuel` bounds the length of the text. -/
def readValue (fuel : Nat) (cs : List Char) : Option (Json × List Char) :=
  match fuel with
  | 0 => none
  | fuel + 1 =>
    match skipBlanks cs with
    | 'n' :: 'u' :: 'l' :: 'l' :: rest => some (null, rest)
    | 't' :: 'r' :: 'u' :: 'e' :: rest => some (bool true, rest)
    | 'f' :: 'a' :: 'l' :: 's' :: 'e' :: rest => some (bool false, rest)
    | '"' :: rest => do
      let (s, rest) ← readString (some []) (rest.length + 1) rest
      return (string s, rest)
    | '[' :: rest =>
      match skipBlanks rest with
      | ']' :: rest => some (array [], rest)
      | rest => do
        let (item, rest) ← readValue fuel rest
        let (items, rest) ← readItems fuel rest
        return (array (item :: items), rest)
    | '\x7b' :: rest =>
      match skipBlanks rest with
      | '\x7d' :: rest => some (object [], rest)
      | rest => do
        let (first, rest) ← readMember fuel rest
        let (members, rest) ← readMembers fuel rest
        return (object (first :: members), rest)
    | cs => do
      let (numeral, rest) ← readNumber cs
      return (number numeral, rest)

def readItems (fuel : Nat) (cs : List Char) : Option (List Json × List Char) :=
  match fuel with
  | 0 => none
  | fuel + 1 =>
    match skipBlanks cs with
    | ']' :: rest => some ([], rest)
    | ',' :: rest => do
      let (item, rest) ← readValue fuel rest
      let (items, rest) ← readItems fuel rest
      return (item :: items, rest)
    | _ => none

def readMember (fuel : Nat) (cs : List Char) : Option ((Option String × Json) × List Char) :=
  match fuel with
  | 0 => none
  | fuel + 1 =>
    match skipBlanks cs with
    | '"' :: rest => do
      let (key, rest) ← readString (some []) (rest.length + 1) rest
      match skipBlanks rest with
      | ':' :: rest =>
        let (value, rest) ← readValue fuel rest
        return ((key, value), rest)
      | _ => none
    | _ => none

def readMembers (fuel : Nat) (cs : List Char) :
    Option (List (Option String × Json) × List Char) :=
  match fuel with
  | 0 => none
  | fuel + 1 =>
    match skipBlanks cs with
    | '\x7d' :: rest => some ([], rest)
    | ',' :: rest => do
      let (member, rest) ← readMember fuel rest
      let (members, rest) ← readMembers fuel rest
      return (member :: members, rest)
    | _ => none

end

/-- The document that a text holds, if it holds one and nothing else. -/
def ofText? (text : List Char) : Option Json := do
  let (value, rest) ← readValue (2 * text.length + 2) text
  guard (skipBlanks rest).isEmpty
  return value

end Json

end SpatialComputer
