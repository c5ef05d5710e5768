import Tabular.Number.Decimal
import Tabular.Number.Word64
import Tabular.Text.Word

/-! Numerals: the written forms of numbers, each read whole or not at all. -/

set_option autoImplicit false

namespace Tabular.Number

open Tabular.Text

def splitSign : List Char → Bool × List Char
  | '-' :: rest => (true, rest)
  | '+' :: rest => (false, rest)
  | rest => (false, rest)

def readExponent (chars : List Char) : Option Int :=
  let (negative, digits) := splitSign chars
  if digits.isEmpty || !digits.all isAsciiDigit then none
  else
    let value : Int := digitsValue digits 0
    some (if negative then -value else value)

def readDecimal (chars : List Char) : Option Decimal :=
  let (whole, rest) := chars.span isAsciiDigit
  let (fraction, rest) := match rest with
    | '.' :: rest => rest.span isAsciiDigit
    | rest => ([], rest)
  let exponent := match rest with
    | [] => some 0
    | mark :: rest => if mark = 'e' || mark = 'E' then readExponent rest else none
  if whole.isEmpty && fraction.isEmpty then none
  else exponent.map fun exponent => ⟨digitsValue (whole ++ fraction) 0, exponent - fraction.length⟩

def readSigned (chars : List Char) : Option Float :=
  let (negative, rest) := splitSign chars
  (readDecimal rest).map fun decimal => withSign negative decimal.toFloat

def digitIn (base : Nat) (c : Char) : Option Nat :=
  let value :=
    if '0' ≤ c && c ≤ '9' then some (c.toNat - '0'.toNat)
    else if 'a' ≤ c && c ≤ 'f' then some (c.toNat - 'a'.toNat + 10)
    else if 'A' ≤ c && c ≤ 'F' then some (c.toNat - 'A'.toNat + 10)
    else none
  value.filter (· < base)

/-- Digits of a base, read from the left onto what has been read before. -/
def readDigits (base : Nat) : List Char → Nat → Option Nat
  | [], value => some value
  | c :: rest, value => (digitIn base c).bind fun digit => readDigits base rest (value * base + digit)

/-- A 64-bit natural: at least one digit of the base, after an optional plus. -/
def readWord (base : Nat) (chars : List Char) : Option Nat :=
  let digits := match chars with
    | '+' :: rest => rest
    | rest => rest
  if digits.isEmpty then none else (readDigits base digits 0).filter (· < wordLimit)

def readInteger (chars : List Char) : Option Int :=
  let (negative, digits) := splitSign chars
  if digits.isEmpty then none
  else
    ((readDigits 10 digits 0).map fun value => if negative then -(value : Int) else value).filter
      isSigned

def baseOf (mark : Char) : Option Nat :=
  if mark = 'x' || mark = 'X' then some 16
  else if mark = 'o' || mark = 'O' then some 8
  else if mark = 'b' || mark = 'B' then some 2
  else none

end Tabular.Number
