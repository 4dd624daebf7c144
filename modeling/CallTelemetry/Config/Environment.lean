import CallTelemetry.Json.Merge
import CallTelemetry.Text.Ascii
import CallTelemetry.Text.Blank
import CallTelemetry.Yaml.Scalar

/-!
# Settings from the environment

Variables whose names start with `EGRESS_`, in any letter case, override settings. The rest of the name
in small letters is the name of the setting; two underscores step into a nested setting. The text of a
variable is read as a truth value, a list in brackets, a map in braces with `=` between name and value,
a quoted text, a character in single quotes, a number or a bare text; a text that is not used up by one
of these stands for itself.
-/

namespace CallTelemetry.Environment

open Decimal (Double)

/-- What the names of the variables start with. -/
def namesStart : String := "EGRESS_"

/-- The blanks of ASCII. -/
def isBlank (c : Char) : Bool :=
  c = ' ' || c = '\t' || c = '\n' || c = '\r' || c = '\x0c'

def skipBlanks (cs : List Char) : List Char := cs.dropWhile isBlank

/-- Whether a character delimits bare texts. -/
def isSeparator (c : Char) : Bool := c = '[' || c = ']' || c = '\x7b' || c = '\x7d' || c = ','

def isNameChar (c : Char) : Bool := c.isAlphanum || c = '_' || c = '-'

/-- The number that digits write, with no sign but perhaps a plus. -/
def natural? (cs : List Char) : Option Nat :=
  Yaml.digits? 10 (match cs with
    | '+' :: rest => rest
    | rest => rest)

/-- The value of a bare text: a number with a point, a whole number of 64 bits, or the text. -/
def bare (cs : List Char) : Json :=
  let cs := Text.trimList cs
  let asText := Json.str (String.ofList cs)
  let whole : Json :=
    match cs with
    | '-' :: rest =>
      match Yaml.digits? 10 rest with
      | some n => if n ≤ Nat.pow 2 63 then .int (-(n : Int)) else asText
      | none => asText
    | cs =>
      match natural? cs with
      | some n => if n < Nat.pow 2 64 then .int n else asText
      | none => asText
  if cs.contains '.' then
    match Yaml.double? cs with
    | some d => Yaml.ofDouble d
    | none => whole
  else whole

/-- The rest of a text up to a closing quote that no backslash escapes, and what follows it. -/
def untilQuote (quote : Char) : List Char → Option (List Char × List Char)
  | [] => none
  | c :: rest =>
    if c = quote then some ([], rest)
    else if c = '\\' then
      match rest with
      | [] => none
      | e :: rest => (untilQuote quote rest).map fun (s, tail) => (c :: e :: s, tail)
    else (untilQuote quote rest).map fun (s, tail) => (c :: s, tail)

/-- The characters that the inside of a quoted text stands for. -/
def unescape : Nat → List Char → Option (List Char)
  | 0, _ => none
  | _ + 1, [] => some []
  | fuel + 1, c :: rest =>
    if c = '\\' then
      match rest with
      | [] => none
      | e :: rest =>
        match [('\\', '\\'), ('"', '"'), ('\'', '\''), ('b', '\x08'), ('f', '\x0c'), ('n', '\n'),
            ('r', '\r'), ('t', '\t')].lookup e with
        | some c => (unescape fuel rest).map (c :: ·)
        | none => do
          let count ← [('u', 4), ('U', 8)].lookup e
          let n ← Yaml.digits? 16 (rest.take count)
          if rest.length < count || !n.isValidChar then none
          (unescape fuel (rest.drop count)).map (Char.ofNat n :: ·)
    else if c = '\t' || (0x20 ≤ c.toNat && c.toNat != 0x7F) then (unescape fuel rest).map (c :: ·)
    else none

/-- The inside of a quoted text and what follows it. -/
def readQuoted (quote : Char) (cs : List Char) : Option (List Char × List Char) := do
  let (inner, rest) ← untilQuote quote cs
  let s ← unescape (inner.length + 1) inner
  return (s, rest)

mutual

/-- A value and what follows it. -/
def readValue : Nat → List Char → Option (Json × List Char)
  | 0, _ => none
  | fuel + 1, cs => do
    let (value, rest) ← match skipBlanks cs with
      | 't' :: 'r' :: 'u' :: 'e' :: rest => some (Json.bool true, rest)
      | 'f' :: 'a' :: 'l' :: 's' :: 'e' :: rest => some (Json.bool false, rest)
      | '\x7b' :: rest => readMap fuel [] rest
      | '[' :: rest => readList fuel [] rest
      | '"' :: rest => (readQuoted '"' rest).map fun (s, rest) => (Json.str (String.ofList s), rest)
      | '\'' :: rest =>
        (readQuoted '\'' rest).bind fun (s, rest) =>
          if s.length = 1 then some (Json.str (String.ofList s), rest) else none
      | cs => some (bare (cs.takeWhile (!isSeparator ·)), cs.dropWhile (!isSeparator ·))
    return (value, skipBlanks rest)

/-- The items of a list from the next one on. -/
def readList : Nat → List Json → List Char → Option (Json × List Char)
  | 0, _, _ => none
  | fuel + 1, done, cs =>
    match cs with
    | ']' :: rest => some (.arr done.reverse, rest)
    | cs => do
      let (item, rest) ← readValue fuel cs
      match rest with
      | ',' :: rest => readList fuel (item :: done) rest
      | ']' :: rest => some (.arr (item :: done).reverse, rest)
      | _ => none

/-- The members of a map from the next one on. -/
def readMap : Nat → List (String × Json) → List Char → Option (Json × List Char)
  | 0, _, _ => none
  | fuel + 1, done, cs =>
    match cs with
    | '\x7d' :: rest => some (Json.ofMembers done.reverse, rest)
    | cs => do
      let (name, rest) ← match skipBlanks cs with
        | '"' :: rest => readQuoted '"' rest
        | cs =>
          if (cs.takeWhile isNameChar).isEmpty then none
          else some (cs.takeWhile isNameChar, cs.dropWhile isNameChar)
      match skipBlanks rest with
      | '=' :: rest => do
        let (value, rest) ← readValue fuel rest
        let done := (String.ofList name, value) :: done
        match rest with
        | ',' :: rest => readMap fuel done rest
        | '\x7d' :: rest => some (Json.ofMembers done.reverse, rest)
        | _ => none
      | _ => none

end

/-- The value of a variable's text. -/
def parseValue (text : String) : Json :=
  match readValue (2 * text.length + 2) text.toList with
  | some (value, []) => value
  | _ => .str text

/-- A text cut at every two underscores and at every point. -/
def splitPath : List Char → List (List Char)
  | [] => [[]]
  | '_' :: '_' :: rest => [] :: splitPath rest
  | c :: rest =>
    if c = '.' then [] :: splitPath rest
    else
      match splitPath rest with
      | [] => [[c]]
      | part :: more => (c :: part) :: more

/-- A value under a path of names. An empty name ends the path. -/
def nest (value : Json) : List (List Char) → Json
  | [] => value
  | name :: more => if name.isEmpty then value else .obj [(String.ofList name, nest value more)]

/-- The setting that a variable makes, if its name is one for this program. -/
def setting? (assignment : String × String) : Option (List (String × Json)) :=
  let name := assignment.1.toList.map Char.toLower
  let start := (Text.lower namesStart).toList
  if start.isPrefixOf name then
    match nest (parseValue assignment.2) (splitPath (name.drop start.length)) with
    | .obj members => some members
    | _ => none
  else none

/-- The settings of an environment, those of later variables on top. -/
def settings (environment : List (String × String)) : List (String × Json) :=
  (environment.filterMap setting?).foldl Json.mergeMembers []

end CallTelemetry.Environment
