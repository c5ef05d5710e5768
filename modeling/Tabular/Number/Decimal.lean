import Tabular.Number.Binary64

/-! Decimals, the number a decimal reads as, and the shortest decimal of a number.

The shortest decimal of a number has the fewest digits among those that read back as it,
and of two such decimals it is the nearer one.
-/

set_option autoImplicit false

namespace Tabular.Number

/-- The number `digits * 10 ^ exponent`. -/
structure Decimal where
  digits : Nat
  exponent : Int
  deriving DecidableEq, Repr

/-- The nearest number. Exponents far outside the range are settled without large powers. -/
def Decimal.toFloat (decimal : Decimal) : Float :=
  if decimal.digits = 0 then ofNat 0
  else if 400 < decimal.exponent then infinity
  else if 0 ≤ decimal.exponent then ofNat (decimal.digits * Nat.pow 10 decimal.exponent.toNat)
  else if (decimal.digits.log2 + 1100 : Int) < -3 * decimal.exponent then ofNat 0
  else ofRatio decimal.digits (Nat.pow 10 (-decimal.exponent).toNat)

inductive Tie where
  | upward
  | toEven
  deriving DecidableEq, Repr

def digitCount (n : Nat) : Nat := (Nat.toDigits 10 n).length

/-- The number of digits before the decimal point of a positive count of units; for a
number below a tenth it counts the zeros that follow the point, negatively. -/
def pointOf (count : Nat) : Int :=
  if unitsInOne ≤ count then digitCount (count / unitsInOne)
  else 1 - (digitCount ((unitsInOne - 1) / count) : Int)

/-- The neighbour of a positive number on the grid of multiples of `10 ^ exponent` that reads
back as it, if there is one; of two, the nearer. -/
def neighbour? (tie : Tie) (x : Float) (exponent : Int) : Option Decimal :=
  let numerator := units x * Nat.pow 10 (-exponent).toNat
  let denominator := unitsInOne * Nat.pow 10 exponent.toNat
  let below := numerator / denominator
  let doubled := 2 * (numerator % denominator)
  let lower : Decimal := ⟨below, exponent⟩
  let upper : Decimal := ⟨below + 1, exponent⟩
  let preferUpper := denominator < doubled
    || (denominator == doubled && (tie == .upward || below % 2 == 1))
  match lower.toFloat == x, upper.toFloat == x with
  | true, true => some (if preferUpper then upper else lower)
  | true, false => some lower
  | false, true => some upper
  | false, false => none

/-- The shortest decimal of a positive finite number. Seventeen digits always suffice; the
exact value stands behind them. -/
def shortest (tie : Tie) (x : Float) : Decimal :=
  let point := pointOf (units x)
  let found := (List.range 17).findSome? fun extra => neighbour? tie x (point - (extra + 1 : Nat))
  found.getD ⟨units x * Nat.pow 5 1074, -1074⟩

end Tabular.Number
