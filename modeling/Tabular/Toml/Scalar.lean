import Tabular.Number.Numeral
import Tabular.Toml.Basic

/-! The TOML values that are single words: numbers, truth values, dates and times.

A word is taken whole and then read, and a word that reads as nothing is no value.
-/

set_option autoImplicit false

namespace Tabular.Toml

open Number (Decimal)
open Text (isAsciiDigit digitsValue)

/-- Digits without the underscores between them. Underscores stand between digits only. -/
def ungrouped (accepts : Char → Bool) : List Char → Option (List Char)
  | [] => none
  | [c] => if accepts c then some [c] else none
  | c :: '_' :: rest => if accepts c then (ungrouped accepts rest).map (c :: ·) else none
  | c :: rest => if accepts c then (ungrouped accepts rest).map (c :: ·) else none

def wholeDigits (chars : List Char) : Option (List Char) :=
  (ungrouped isAsciiDigit chars).filter fun digits => digits.head? != some '0' || digits.length == 1

def baseOf (mark : Char) : Option Nat := if mark.isLower then Number.baseOf mark else none

def unsignedDigits (chars : List Char) : Option Nat :=
  (wholeDigits chars).map fun digits => digitsValue digits 0

def readMagnitude (signed : Bool) (chars : List Char) : Option Nat :=
  match signed, chars with
  | false, '0' :: mark :: digits =>
    match baseOf mark with
    | some base =>
      (ungrouped (fun c => (Number.digitIn base c).isSome) digits).bind fun digits =>
        Number.readDigits base digits 0
    | none => unsignedDigits chars
  | _, _ => unsignedDigits chars

def isSign (c : Char) : Bool := c == '+' || c == '-'

/-- An integer of 64 bits; one in another base has no sign. -/
def readInteger (chars : List Char) : Option Int :=
  let (negative, magnitude) := Number.splitSign chars
  ((readMagnitude (chars.head?.any isSign) magnitude).map fun value =>
    if negative then -(value : Int) else value).filter Number.isSigned

def readExponent (chars : List Char) : Option Int :=
  let (negative, digits) := Number.splitSign chars
  (ungrouped isAsciiDigit digits).map fun digits =>
    let value : Int := digitsValue digits 0
    if negative then -value else value

def readTail (whole : List Char) : List Char → Option Decimal
  | '.' :: rest =>
    let (fraction, rest) := rest.span fun c => isAsciiDigit c || c == '_'
    (ungrouped isAsciiDigit fraction).bind fun fraction =>
      let digits := digitsValue (whole ++ fraction) 0
      match rest with
      | [] => some ⟨digits, -fraction.length⟩
      | mark :: rest =>
        if mark = 'e' || mark = 'E' then
          (readExponent rest).map fun exponent => ⟨digits, exponent - fraction.length⟩
        else none
  | mark :: rest =>
    if mark = 'e' || mark = 'E' then
      (readExponent rest).map fun exponent => ⟨digitsValue whole 0, exponent⟩
    else none
  | [] => none

/-- A real. What is too large is minus infinity when it is negative and no value otherwise. -/
def readReal (chars : List Char) : Option Float :=
  let (negative, magnitude) := Number.splitSign chars
  if magnitude = ['i', 'n', 'f'] then some (Number.withSign negative Number.infinity)
  else if magnitude = ['n', 'a', 'n'] then some (Number.withSign negative Number.notANumber)
  else
    let (whole, rest) := magnitude.span fun c => isAsciiDigit c || c == '_'
    (((wholeDigits whole).bind fun whole => readTail whole rest).map fun decimal =>
      Number.withSign negative decimal.toFloat).filter fun value => negative || !value.isInf

def fixedDigits (count : Nat) (chars : List Char) : Option (Nat × List Char) :=
  let digits := chars.take count
  if digits.length = count && digits.all isAsciiDigit then
    some (digitsValue digits 0, chars.drop count)
  else none

def skipChar (c : Char) : List Char → Option (List Char)
  | [] => none
  | head :: rest => if head = c then some rest else none

def isLeapYear (year : Nat) : Bool := year % 4 == 0 && (year % 100 != 0 || year % 400 == 0)

def daysIn (year month : Nat) : Nat :=
  if month = 2 then if isLeapYear year then 29 else 28
  else if month = 4 || month = 6 || month = 9 || month = 11 then 30
  else 31

def paddedTo (count value : Nat) : List Char :=
  let digits := Nat.toDigits 10 value
  List.replicate (count - digits.length) '0' ++ digits

def readDate (chars : List Char) : Option (List Char × List Char) := do
  let (year, rest) ← fixedDigits 4 chars
  let rest ← skipChar '-' rest
  let (month, rest) ← fixedDigits 2 rest
  let rest ← skipChar '-' rest
  let (day, rest) ← fixedDigits 2 rest
  if 1 ≤ month && month ≤ 12 && 1 ≤ day && day ≤ daysIn year month then
    some (paddedTo 4 year ++ '-' :: (paddedTo 2 month ++ '-' :: paddedTo 2 day), rest)
  else none

def fractionText (digits : List Char) : List Char :=
  let kept := ((digits.take 9).reverse.dropWhile (· == '0')).reverse
  if kept.isEmpty then [] else '.' :: kept

def readTime (chars : List Char) : Option (List Char × List Char) := do
  let (hour, rest) ← fixedDigits 2 chars
  let rest ← skipChar ':' rest
  let (minute, rest) ← fixedDigits 2 rest
  let rest ← skipChar ':' rest
  let (second, rest) ← fixedDigits 2 rest
  let clock := paddedTo 2 hour ++ ':' :: (paddedTo 2 minute ++ ':' :: paddedTo 2 second)
  if 23 < hour || 59 < minute || 60 < second then none
  else match rest with
    | '.' :: rest =>
      let (digits, rest) := rest.span isAsciiDigit
      if digits.isEmpty then none else some (clock ++ fractionText digits, rest)
    | rest => some (clock, rest)

def readOffset : List Char → Option (List Char)
  | [] => some []
  | [c] => if c = 'Z' || c = 'z' then some ['Z'] else none
  | sign :: chars => do
    let (hour, rest) ← fixedDigits 2 chars
    let rest ← skipChar ':' rest
    let (minute, rest) ← fixedDigits 2 rest
    if isSign sign && hour ≤ 23 && minute ≤ 59 && rest.isEmpty then
      let shown := if hour = 0 && minute = 0 then '+' else sign
      some (shown :: (paddedTo 2 hour ++ ':' :: paddedTo 2 minute))
    else none

def readMoment (chars : List Char) : Option (List Char) :=
  match readDate chars with
  | some (date, []) => some date
  | some (date, mark :: rest) =>
    if mark = 'T' || mark = 't' || mark = ' ' then do
      let (time, rest) ← readTime rest
      let offset ← readOffset rest
      some (date ++ 'T' :: (time ++ offset))
    else none
  | none => (readTime chars).bind fun (time, rest) => if rest.isEmpty then some time else none

def ofWord (word : List Char) : Option Toml :=
  if word = ['t', 'r', 'u', 'e'] then some (.boolean true)
  else if word = ['f', 'a', 'l', 's', 'e'] then some (.boolean false)
  else match readInteger word with
    | some value => some (.integer value)
    | none =>
      match readReal word with
      | some value => some (.real value)
      | none => (readMoment word).map fun chars => .moment (String.ofList chars)

end Tabular.Toml
