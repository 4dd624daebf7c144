import CallTelemetry.Json.Basic

/-!
# Reading JSON text

`Json.parse?` reads one value with blanks around it and nothing else. The members of an object are
kept sorted by name, and the last of several equal names counts. A number without a point and without
an exponent is an integer if it is in range, any other number is the double nearest to it; a number too
large for a double, and half of a surrogate pair, are no JSON. What is kept of members and whole numbers is
up to the reader (`Keeping`); `Keeping.everything` forgets nothing.
-/

namespace CallTelemetry.Json

open Decimal (Double)

/-- What a reader keeps of an object, and which whole numbers it keeps as integers. -/
structure Keeping where
  members : List (String × Json) → List (String × Json)
  isInteger : Int → Bool

namespace Keeping

/-- The last member of each name, sorted, and integers of 64 bits. -/
def sorted : Keeping where
  members := sortMembers
  isInteger := Json.isInteger

/-- All members in their order, and all integers. -/
def everything : Keeping where
  members := id
  isInteger _ := true

end Keeping

def isBlank (c : Char) : Bool :=
  c = ' ' || c = '\t' || c = '\n' || c = '\r'

def skipBlanks (cs : List Char) : List Char :=
  cs.dropWhile isBlank

/-- The value of a hexadecimal digit. -/
def hexValue? (c : Char) : Option Nat :=
  if '0' ≤ c ∧ c ≤ '9' then some (c.toNat - 48)
  else if 'a' ≤ c ∧ c ≤ 'f' then some (c.toNat - 87)
  else if 'A' ≤ c ∧ c ≤ 'F' then some (c.toNat - 55)
  else none

/-- The number that four hexadecimal digits write. -/
def unit? (a b c d : Char) : Option Nat := do
  return (((← hexValue? a) * 16 + (← hexValue? b)) * 16 + (← hexValue? c)) * 16 + (← hexValue? d)

/-- The character that a backslash and a letter stand for. -/
def simpleEscape? (c : Char) : Option Char :=
  match c with
  | '"' | '\\' | '/' => some c
  | 'b' => some '\x08'
  | 'f' => some '\x0c'
  | 'n' => some '\n'
  | 'r' => some '\r'
  | 't' => some '\t'
  | _ => none

/-- The rest of a string after its opening quote. `high` is the first half of a surrogate pair whose
second half has to come next, and `done` holds the characters read, last one first. -/
def readString (high : Option Nat) (done : List Char) : List Char → Option (List Char × List Char)
  | [] => none
  | '"' :: rest => if high.isSome then none else some (done.reverse, rest)
  | '\\' :: 'u' :: a :: b :: c :: d :: rest => do
    let unit ← unit? a b c d
    match high with
    | none =>
      if 0xD800 ≤ unit ∧ unit < 0xDC00 then readString (some unit) done rest
      else if 0xDC00 ≤ unit ∧ unit < 0xE000 then none
      else readString none (Char.ofNat unit :: done) rest
    | some h =>
      if 0xDC00 ≤ unit ∧ unit < 0xE000 then
        readString none (Char.ofNat (0x10000 + (h - 0xD800) * 0x400 + (unit - 0xDC00)) :: done) rest
      else none
  | '\\' :: e :: rest =>
    match high, simpleEscape? e with
    | none, some c => readString none (c :: done) rest
    | _, _ => none
  | c :: rest => if high.isSome || c.toNat < 0x20 then none else readString none (c :: done) rest

/-- The value of decimal digits. -/
def digitsValue (cs : List Char) : Nat :=
  cs.foldl (fun n c => n * 10 + (c.toNat - 48)) 0

/-- A point with its digits: whether there was one, its digits, and the rest. -/
def readFraction (cs : List Char) : Bool × List Char × List Char :=
  match cs with
  | '.' :: rest => (true, rest.takeWhile Char.isDigit, rest.dropWhile Char.isDigit)
  | _ => (false, [], cs)

/-- An exponent mark with its digits: whether there was one, its value, and the rest. -/
def readExponent (cs : List Char) : Option (Bool × Int × List Char) :=
  match cs with
  | 'e' :: rest | 'E' :: rest =>
    let (negative, rest) := match rest with
      | '-' :: r => (true, r)
      | '+' :: r => (false, r)
      | r => (false, r)
    let digits := rest.takeWhile Char.isDigit
    if digits.isEmpty then none
    else
      let n : Int := digitsValue digits
      some (true, if negative then -n else n, rest.dropWhile Char.isDigit)
  | _ => some (false, 0, cs)

/-- A number behind its sign and the rest of the text. -/
def readMagnitude (keeping : Keeping) (negative : Bool) (cs : List Char) : Option (Json × List Char) := do
  let whole := cs.takeWhile Char.isDigit
  let rest := cs.dropWhile Char.isDigit
  if whole.isEmpty || (whole.length > 1 && whole.head? = some '0') then none
  let (isFraction, fraction, rest) := readFraction rest
  if isFraction && fraction.isEmpty then none
  let (isScaled, exponent, rest) ← readExponent rest
  let digits := digitsValue (whole ++ fraction)
  let integer : Int := if negative then -digits else digits
  if !isFraction && !isScaled && keeping.isInteger integer && !(negative && digits = 0) then
    return (.int integer, rest)
  let d := Double.nearest negative digits (exponent - fraction.length)
  if d.isFinite then return (.float d, rest) else none

/-- A number and the rest of the text. -/
def readNumber (keeping : Keeping) (cs : List Char) : Option (Json × List Char) :=
  match cs with
  | '-' :: rest => readMagnitude keeping true rest
  | rest => readMagnitude keeping false rest

mutual

/-- One value and the rest of the text. Every call costs one unit of fuel. -/
def readValue (keeping : Keeping) : Nat → List Char → Option (Json × List Char)
  | 0, _ => none
  | fuel + 1, cs =>
    match skipBlanks cs with
    | '\x7b' :: rest =>
      match skipBlanks rest with
      | '\x7d' :: rest => some (.obj (keeping.members []), rest)
      | rest => readMembers keeping fuel [] rest
    | '[' :: rest =>
      match skipBlanks rest with
      | ']' :: rest => some (.arr [], rest)
      | rest => readItems keeping fuel [] rest
    | '"' :: rest => do
      let (s, rest) ← readString none [] rest
      return (.str (String.ofList s), rest)
    | 't' :: 'r' :: 'u' :: 'e' :: rest => some (.bool true, rest)
    | 'f' :: 'a' :: 'l' :: 's' :: 'e' :: rest => some (.bool false, rest)
    | 'n' :: 'u' :: 'l' :: 'l' :: rest => some (.null, rest)
    | cs => readNumber keeping cs

/-- The items of an array from the next one on; `done` holds those before, last one first. -/
def readItems (keeping : Keeping) : Nat → List Json → List Char → Option (Json × List Char)
  | 0, _, _ => none
  | fuel + 1, done, cs => do
    let (item, rest) ← readValue keeping fuel cs
    match skipBlanks rest with
    | ',' :: rest => readItems keeping fuel (item :: done) rest
    | ']' :: rest => return (.arr (item :: done).reverse, rest)
    | _ => none

/-- The members of an object from the next one on; `done` holds those before, last one first. -/
def readMembers (keeping : Keeping) : Nat → List (String × Json) → List Char → Option (Json × List Char)
  | 0, _, _ => none
  | fuel + 1, done, cs =>
    match skipBlanks cs with
    | '"' :: rest => do
      let (name, rest) ← readString none [] rest
      match skipBlanks rest with
      | ':' :: rest =>
        let (value, rest) ← readValue keeping fuel rest
        let done := (String.ofList name, value) :: done
        match skipBlanks rest with
        | ',' :: rest => readMembers keeping fuel done rest
        | '\x7d' :: rest => return (.obj (keeping.members done.reverse), rest)
        | _ => none
      | _ => none
    | _ => none

end

/-- The value that a text writes, as a reader keeps it. -/
def read? (keeping : Keeping) (text : String) : Option Json := do
  let cs := text.toList
  let (value, rest) ← readValue keeping (2 * cs.length + 2) cs
  if (skipBlanks rest).isEmpty then return value else none

/-- The value that a text writes. -/
def parse? (text : String) : Option Json := read? .sorted text

end CallTelemetry.Json
