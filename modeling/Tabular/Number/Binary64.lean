/-! Exact arithmetic on 64-bit floating-point numbers.

A finite number is a whole count of units of 2^-1074 with a sign, so reading and
writing decimals is arithmetic on naturals. `ofRatio` rounds to the nearest number,
and of two equally near ones takes that with the even last bit.
-/

set_option autoImplicit false

namespace Tabular.Number

def unitsInOne : Nat := Nat.pow 2 1074

def units (x : Float) : Nat :=
  let bits := x.toBits.toNat % Nat.pow 2 63
  let exponent := bits / Nat.pow 2 52
  let fraction := bits % Nat.pow 2 52
  if exponent = 0 then fraction else (Nat.pow 2 52 + fraction) * Nat.pow 2 (exponent - 1)

/-- Whether the sign bit is set; it is set on one of the two zeros. -/
def isNegative (x : Float) : Bool := decide (Nat.pow 2 63 ≤ x.toBits.toNat)

def infinity : Float := Float.ofBits 0x7FF0000000000000

def notANumber : Float := Float.ofBits 0x7FF8000000000000

def roundHalfEven (numerator denominator : Nat) : Nat :=
  let quotient := numerator / denominator
  let doubled := 2 * (numerator % denominator)
  if doubled < denominator then quotient
  else if denominator < doubled then quotient + 1
  else quotient + quotient % 2

/-- The nearest number to a quotient; beyond the finite range it is infinity.

A mantissa rounded up to the next power of two carries into the exponent field,
so the bits are a plain sum. -/
def ofRatio (numerator denominator : Nat) : Float :=
  let scaled := numerator * unitsInOne
  let shift := (scaled / denominator).log2 - 52
  let mantissa := roundHalfEven scaled (denominator * Nat.pow 2 shift)
  Float.ofBits (UInt64.ofNat (min (shift * Nat.pow 2 52 + mantissa) 0x7FF0000000000000))

def ofNat (n : Nat) : Float := ofRatio n 1

def withSign (negative : Bool) (x : Float) : Float := if negative then -x else x

def ofInt (n : Int) : Float := withSign (decide (n < 0)) (ofNat n.natAbs)

def wholeValue? (x : Float) : Option Int :=
  let count := units x
  if count % unitsInOne = 0 then
    let magnitude : Int := count / unitsInOne
    some (if isNegative x then -magnitude else magnitude)
  else none

def wholePart (x : Float) : Nat := units x / unitsInOne

end Tabular.Number
