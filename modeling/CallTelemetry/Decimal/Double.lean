/-!
# Doubles by their bits

A double-precision number is kept as its 64 bits, so that equality is decidable and tells zero from
negative zero. `magnitude` reads the bits of a finite number as `mantissa * 2 ^ exponent`, and `nearest`
gives the bits of the double closest to a decimal number.
-/

namespace CallTelemetry.Decimal

/-- A double by its bits: sign, eleven bits of exponent, fifty-two bits of fraction. -/
structure Double where
  bits : UInt64
  deriving DecidableEq, Repr

namespace Double

def isNegative (d : Double) : Bool := d.bits.toNat / Nat.pow 2 63 == 1

/-- The stored exponent, 2047 for the infinities and for what is not a number. -/
def storedExponent (d : Double) : Nat := d.bits.toNat / Nat.pow 2 52 % Nat.pow 2 11

def fraction (d : Double) : Nat := d.bits.toNat % Nat.pow 2 52

def isFinite (d : Double) : Bool := d.storedExponent != 2047

/-- The number without its sign, as a mantissa and a power of two. -/
def magnitude (d : Double) : Nat × Int :=
  if d.storedExponent = 0 then (d.fraction, -1074)
  else (Nat.pow 2 52 + d.fraction, (d.storedExponent : Int) - 1075)

/-- Whether the gap to the next smaller double is half the gap to the next larger one. -/
def opensBinade (d : Double) : Bool := d.fraction == 0 && 1 < d.storedExponent

def infinity (negative : Bool) : Double := ⟨if negative then 0xFFF0000000000000 else 0x7FF0000000000000⟩

def zero (negative : Bool) : Double := ⟨if negative then 0x8000000000000000 else 0⟩

/-- The double nearest to `digits * 10 ^ exponent` under a sign. Far outside the range of doubles the
answer is infinity or zero, without computing the power. -/
def nearest (negative : Bool) (digits : Nat) (exponent : Int) : Double :=
  let size : Int := (Nat.toDigits 10 digits).length + exponent
  if digits = 0 || size < -330 then zero negative
  else if 310 < size then infinity negative
  else
    let magnitude := Float.ofScientific digits (exponent < 0) exponent.natAbs
    ⟨(if negative then -magnitude else magnitude).toBits⟩

end Double

end CallTelemetry.Decimal
