import CallTelemetry.Decimal.Double

/-!
# The shortest decimal of a double

Of the decimal numbers that lie in the interval of reals which round to a double, `shortest` takes one
with the fewest digits, and of those the nearest; a tie goes to the even digit. Everything is exact
arithmetic on natural numbers.
-/

namespace CallTelemetry.Decimal

/-- A positive number `value / scale`, and the ends of the interval that rounds to it. -/
structure Interval where
  low : Nat
  value : Nat
  high : Nat
  scale : Nat
  /-- Whether the ends themselves round to the number. -/
  closed : Bool

/-- The interval of a finite double other than zero. -/
def Interval.ofDouble (d : Double) : Interval :=
  let (m, q) := d.magnitude
  let up := Nat.pow 2 q.toNat
  { low := 4 * m * up - (if d.opensBinade then up else 2 * up)
    value := 4 * m * up
    high := 4 * m * up + 2 * up
    scale := 4 * Nat.pow 2 (-q).toNat
    closed := m % 2 == 0 }

/-- The number of leading zeros after the point of `value / scale`, which is below one. -/
def leadingZeros (value scale : Nat) : Nat → Nat
  | 0 => 0
  | fuel + 1 => if scale ≤ value * 10 then 0 else leadingZeros (value * 10) scale fuel + 1

/-- The place of the decimal point: the number lies between `10 ^ (place - 1)` and `10 ^ place`. -/
def Interval.place (i : Interval) : Int :=
  if i.scale ≤ i.value then (Nat.toDigits 10 (i.value / i.scale)).length
  else -(leadingZeros i.value i.scale 400 : Int)

/-- Whether `n * 10 ^ exponent` rounds to the number. -/
def Interval.holds (i : Interval) (n : Nat) (exponent : Int) : Bool :=
  let grid := n * Nat.pow 10 exponent.toNat * i.scale
  let unit := Nat.pow 10 (-exponent).toNat
  if i.closed then i.low * unit ≤ grid && grid ≤ i.high * unit
  else i.low * unit < grid && grid < i.high * unit

/-- The better neighbour of the number on the grid of multiples of `10 ^ exponent`, if one rounds to it. -/
def Interval.onGrid (i : Interval) (exponent : Int) : Option Nat :=
  let unit := Nat.pow 10 (-exponent).toNat
  let cell := Nat.pow 10 exponent.toNat * i.scale
  let n := i.value * unit / cell
  let below := i.value * unit - n * cell
  let above := (n + 1) * cell - i.value * unit
  match i.holds n exponent, i.holds (n + 1) exponent with
  | true, true => some (if below < above || (below == above && n % 2 == 0) then n else n + 1)
  | true, false => some n
  | false, true => some (n + 1)
  | false, false => none

/-- The first grid, from the coarsest on, that has a point for the number. -/
def Interval.search (i : Interval) (place : Int) : List Nat → Nat × Int
  | [] => (0, 0)
  | count :: more =>
    match i.onGrid (place - count) with
    | some n => (n, place - count)
    | none => i.search place more

/-- Digits without the zeros at their end, which move into the exponent. -/
def stripZeros (n : Nat) (exponent : Int) : Nat → Nat × Int
  | 0 => (n, exponent)
  | fuel + 1 => if n % 10 = 0 && n != 0 then stripZeros (n / 10) (exponent + 1) fuel else (n, exponent)

/-- The shortest digits of a finite double other than zero, and their power of ten. -/
def shortest (d : Double) : Nat × Int :=
  let i := Interval.ofDouble d
  let (n, exponent) := i.search i.place ((List.range 17).map (· + 1))
  stripZeros n exponent 20

/-- How far a decimal may stand from its point before an exponent is written instead. -/
structure Layout where
  /-- Digits before the point at most. -/
  most : Nat
  /-- Zeros right after the point at most. -/
  zeros : Nat

/-- The text of digits and a power of ten, with at least one digit after the point where it is positional. -/
def Layout.write (layout : Layout) (digits : Nat) (exponent : Int) : String :=
  let cs := Nat.toDigits 10 digits
  let place : Int := cs.length + exponent
  if 0 < place && place.toNat ≤ layout.most then
    let whole := cs.take place.toNat ++ List.replicate exponent.toNat '0'
    let rest := cs.drop place.toNat
    String.ofList (whole ++ '.' :: (if rest.isEmpty then ['0'] else rest))
  else if place ≤ 0 && (-place).toNat ≤ layout.zeros then
    String.ofList ('0' :: '.' :: List.replicate (-place).toNat '0' ++ cs)
  else
    let mark := String.ofList (cs.take 1 ++ (if cs.length ≤ 1 then [] else '.' :: cs.drop 1))
    mark ++ "e" ++ toString (place - 1)

/-- The text of a double. -/
def Layout.render (layout : Layout) (d : Double) : String :=
  let sign := if d.isNegative then "-" else ""
  if !d.isFinite then (if d.fraction = 0 then sign ++ "inf" else "NaN")
  else if d.storedExponent = 0 && d.fraction = 0 then sign ++ "0.0"
  else
    let (n, exponent) := shortest d
    sign ++ layout.write n exponent

end CallTelemetry.Decimal
