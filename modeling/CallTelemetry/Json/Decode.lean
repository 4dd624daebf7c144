import CallTelemetry.Json.Basic
import CallTelemetry.Text.Quoted

/-!
# Decoding JSON into records

The decoders of the library read a value into a type or say what stands in the way (`DecodeError`). A
record is read from an object, whose unknown members are ignored, or from an array of its fields in the
order of their declaration. A field that is missing takes its default if it has one; `null` is a value
like any other and no substitute for a missing field.
-/

namespace CallTelemetry

/-- Why a value does not decode. -/
inductive DecodeError where
  | invalidType (found : Json) (expected : String)
  | outOfRange (found : Json) (expected : String)
  | tooLong (count : Nat)
  | missing (field : String)
  | unknownVariant (name : String)
  deriving DecidableEq, Repr

namespace Json

/-- How a diagnostic names a value. -/
def describe : Json → String
  | .null => "null"
  | .bool b => "boolean `" ++ (if b then "true" else "false") ++ "`"
  | .int n => "integer `" ++ toString n ++ "`"
  | .float d => "floating point `" ++ numberLayout.render d ++ "`"
  | .str s => "string " ++ Text.quote s
  | .arr _ => "sequence"
  | .obj _ => "map"

end Json

namespace DecodeError

/-- The text of a decoding error. -/
def message : DecodeError → String
  | invalidType found expected => "invalid type: " ++ found.describe ++ ", expected " ++ expected
  | outOfRange found expected => "invalid value: " ++ found.describe ++ ", expected " ++ expected
  | tooLong count => "invalid length " ++ toString count ++ ", expected fewer elements in array"
  | missing field => "missing field `" ++ field ++ "`"
  | unknownVariant name => "unknown variant `" ++ name ++ "`"

end DecodeError

/-- A reader of values into a type. -/
abbrev Decoder (α : Type) := Json → Except DecodeError α

namespace Decoder

/-- Any value, as it is. -/
def value : Decoder Json := .ok

def bool : Decoder Bool
  | .bool b => .ok b
  | j => .error (.invalidType j "a boolean")

def string : Decoder String
  | .str s => .ok s
  | j => .error (.invalidType j "a string")

/-- A natural number below `2 ^ bits`. -/
def word (bits : Nat) : Decoder Nat
  | .int n =>
    if 0 ≤ n ∧ n < Nat.pow 2 bits then .ok n.toNat
    else .error (.outOfRange (.int n) ("u" ++ toString bits))
  | j => .error (.invalidType j ("u" ++ toString bits))

/-- A word of 64 bits. -/
def uint64 : Decoder UInt64 := fun j => UInt64.ofNat <$> word 64 j

/-- A list of values of one kind. -/
def list {α : Type} (item : Decoder α) : Decoder (List α)
  | .arr items => items.mapM item
  | j => .error (.invalidType j "a sequence")

/-- A map from names to values of one kind, in the order of the members. -/
def map {α : Type} (item : Decoder α) : Decoder (List (String × α))
  | .obj members => members.mapM fun m => do return (m.1, ← item m.2)
  | j => .error (.invalidType j "a map")

/-- A value that `null` leaves out. -/
def nullable {α : Type} (item : Decoder α) : Decoder (Option α)
  | .null => .ok none
  | j => some <$> item j

/-- Exactly two values. -/
def pair {α β : Type} (first : Decoder α) (second : Decoder β) : Decoder (α × β)
  | .arr [a, b] => do return (← first a, ← second b)
  | .arr items => .error (.tooLong items.length)
  | j => .error (.invalidType j "a tuple of size 2")

/-- One of the named values: its name, or an object that maps the name to `null`. -/
def variant {α : Type} (cases : List (String × α)) : Decoder α
  | .str s => pick s
  | .obj [(s, .null)] => pick s
  | j => .error (.invalidType j "a variant")
where
  /-- The value of a name. -/
  pick (s : String) : Except DecodeError α :=
    match cases.lookup s with
    | some a => .ok a
    | none => .error (.unknownVariant s)

end Decoder

/-- The members of a record in the order in which they are read. -/
abbrev Members := List (String × Json)

/-- A record with these fields from its members. An array has to hold the first `needed` of the fields;
items past the last one are refused after all the others have been read. -/
def Decoder.record {α : Type} (name : String) (fields : List String) (needed : Nat)
    (read : Members → Except DecodeError α) : Decoder α
  | .obj members => read members
  | .arr items => do
    if items.length < needed then throw (.missing (fields[items.length]?.getD ""))
    let a ← read (fields.zip items)
    if fields.length < items.length then throw (.tooLong items.length)
    return a
  | j => .error (.invalidType j ("struct " ++ name))

namespace Members

/-- A field that has to be there. -/
def required {α : Type} (members : Members) (name : String) (decoder : Decoder α) :
    Except DecodeError α :=
  match members.lookup name with
  | some j => decoder j
  | none => .error (.missing name)

/-- A field with a default. -/
def optional {α : Type} (members : Members) (name : String) (default : α) (decoder : Decoder α) :
    Except DecodeError α :=
  match members.lookup name with
  | some j => decoder j
  | none => .ok default

theorem optional_of_lookup {α : Type} {members : Members} {name : String} {j : Json}
    (h : members.lookup name = some j) (default : α) (decoder : Decoder α) :
    members.optional name default decoder = decoder j := by
  simp [optional, h]

theorem optional_of_lookup_none {α : Type} {members : Members} {name : String}
    (h : members.lookup name = none) (default : α) (decoder : Decoder α) :
    members.optional name default decoder = .ok default := by
  simp [optional, h]

end Members

end CallTelemetry
