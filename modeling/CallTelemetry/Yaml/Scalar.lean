import CallTelemetry.Json.Reader

/-!
# Scalars

What a scalar without quotes stands for: null, a truth value, a whole number in base ten or behind
`0x`, `0o` or `0b`, a decimal number, or else its own text. Digits behind a leading zero are text. A
tag asks for one of these kinds and is refused by a scalar of another kind.
-/

namespace CallTelemetry.Yaml

open Decimal (Double)

/-- The value of digits in a base, none if there are no digits or others. -/
def digits? (base : Nat) (cs : List Char) : Option Nat :=
  if cs.isEmpty then none
  else cs.foldlM (fun n c => do
    let d ← Json.hexValue? c
    if d < base then some (n * base + d) else none) 0

/-- The value of a whole number without its sign. -/
def magnitude? : List Char → Option Nat
  | '0' :: 'x' :: rest => digits? 16 rest
  | '0' :: 'o' :: rest => digits? 8 rest
  | '0' :: 'b' :: rest => digits? 2 rest
  | cs => digits? 10 cs

/-- Whether a text is a zero with digits after it. -/
def isPadded (cs : List Char) : Bool :=
  cs.length > 1 && cs.head? == some '0' && cs.all Char.isDigit

/-- A text without its sign, and whether the sign is a minus. -/
def splitSign : List Char → Bool × List Char
  | '-' :: rest => (true, rest)
  | '+' :: rest => (false, rest)
  | rest => (false, rest)

/-- A whole number of at most 128 bits. -/
def integer? (cs : List Char) : Option Int := do
  let (negative, rest) := splitSign cs
  if isPadded rest then none
  let n ← magnitude? rest
  let value : Int := if negative then -n else n
  if -(Nat.pow 2 127 : Int) ≤ value ∧ value < Nat.pow 2 128 then some value else none

/-- The digits and the power of ten of a decimal number without its sign: digits with or without a
point, at least one of them, and perhaps an exponent. -/
def decimal? (cs : List Char) : Option (Nat × Int) := do
  let whole := cs.takeWhile Char.isDigit
  let (fraction, rest) := match cs.dropWhile Char.isDigit with
    | '.' :: r => (r.takeWhile Char.isDigit, r.dropWhile Char.isDigit)
    | r => ([], r)
  if whole.isEmpty && fraction.isEmpty then none
  let (_, exponent, rest) ← Json.readExponent rest
  if !rest.isEmpty then none
  return (Json.digitsValue (whole ++ fraction), exponent - fraction.length)

/-- A decimal number. -/
def double? (cs : List Char) : Option Double := do
  let (negative, rest) := splitSign cs
  let (digits, exponent) ← decimal? rest
  return Double.nearest negative digits exponent

/-- A number that JSON has no text for becomes null. -/
def ofDouble (d : Double) : Json := if d.isFinite then .float d else .null

/-- The words for null. -/
def isNull (cs : List Char) : Bool :=
  ["~", "null", "Null", "NULL"].contains (String.ofList cs)

/-- The words for the truth values. -/
def truth? (cs : List Char) : Option Bool :=
  [("true", true), ("True", true), ("TRUE", true), ("false", false), ("False", false),
    ("FALSE", false)].lookup (String.ofList cs)

/-- The words for infinity, which may have a sign, and for what is not a number, which may not. -/
def isSpecial (cs : List Char) : Bool :=
  [".inf", ".Inf", ".INF"].contains (String.ofList (splitSign cs).2) ||
    [".nan", ".NaN", ".NAN"].contains (String.ofList cs)

/-- A decimal number that is finite, or null for one of the special words. -/
def float? (cs : List Char) : Option Json :=
  if isSpecial cs then some .null
  else (double? cs).bind fun d => if d.isFinite then some (.float d) else none

/-- The value of a scalar without quotes and without a tag. -/
def resolve (cs : List Char) : Json :=
  let text := Json.str (String.ofList cs)
  if cs.isEmpty || isNull cs then .null
  else
    match truth? cs, integer? cs with
    | some b, _ => .bool b
    | none, some n => .int n
    | none, none => if isPadded (splitSign cs).2 then text else (float? cs).getD text

/-- What a tag asks of a node. -/
inductive Tag where
  | null
  | bool
  | int
  | float
  /-- A text, or a collection. -/
  | other
  deriving DecidableEq, Repr

namespace Tag

/-- The tag of a name. -/
def ofName (name : String) : Tag :=
  ([("null", null), ("bool", bool), ("int", int), ("float", float)].lookup name).getD other

/-- The value of a scalar with a tag, with or without quotes. -/
def resolve (tag : Tag) (cs : List Char) : Option Json :=
  match tag with
  | null => if isNull cs then some .null else none
  | bool => (truth? cs).map .bool
  | int => (integer? cs).map .int
  | float => float? cs
  | other => some (.str (String.ofList cs))

end Tag

end CallTelemetry.Yaml
