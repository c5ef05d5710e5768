import Tabular.Number.Decimal

/-! The text of a finite number, as a layout of its shortest decimal. -/

set_option autoImplicit false

namespace Tabular.Number

structure Layout where
  tie : Tie
  /-- Which exponents of the leading digit are written without an exponent part. -/
  plain : Int → Bool
  /-- Whether a whole number keeps a point and a zero. -/
  pointZero : Bool

def zeros (count : Int) : List Char := List.replicate count.toNat '0'

def positional (pointZero : Bool) (digits : List Char) (point : Int) : List Char :=
  if point ≤ 0 then '0' :: '.' :: (zeros (-point) ++ digits)
  else if digits.length ≤ point then
    digits ++ zeros (point - digits.length) ++ (if pointZero then ['.', '0'] else [])
  else digits.take point.toNat ++ '.' :: digits.drop point.toNat

def scientific (digits : List Char) (exponent : Int) : List Char :=
  let fraction := digits.drop 1
  let mark := if exponent < 0 then ['e', '-'] else ['e', '+']
  digits.take 1 ++ (if fraction.isEmpty then [] else '.' :: fraction) ++ mark
    ++ Nat.toDigits 10 exponent.natAbs

def dropZeros (digits : List Char) : List Char := (digits.reverse.dropWhile (· == '0')).reverse

def magnitudeText (layout : Layout) (x : Float) : List Char :=
  if units x = 0 then if layout.pointZero then ['0', '.', '0'] else ['0']
  else
    let decimal := shortest layout.tie x
    let digits := Nat.toDigits 10 decimal.digits
    let point := digits.length + decimal.exponent
    if layout.plain (point - 1) then positional layout.pointZero (dropZeros digits) point
    else scientific (dropZeros digits) (point - 1)

def finiteText (layout : Layout) (x : Float) : List Char :=
  if isNegative x then '-' :: magnitudeText layout (-x) else magnitudeText layout x

/-- Never an exponent part, and no point after a whole number. -/
def plainLayout : Layout := ⟨.upward, fun _ => true, false⟩

end Tabular.Number
