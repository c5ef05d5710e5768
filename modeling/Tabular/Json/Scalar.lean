import Tabular.Json.Reader
import Tabular.Number.Numeral

/-! The words, numerals and strings of JSON.

A value that is wanted is read with care. A value that nobody wants is skimmed: its shape
is checked, but neither the range of its numerals nor the pairing of its escapes.
-/

set_option autoImplicit false

namespace Tabular.Json

open Number (Decimal)
open Text (Reader behind digitsValue isAsciiDigit length_dropWhile_le)

inductive Care where
  | careful
  | skimming
  deriving DecidableEq, Repr

def Care.cutNumeral : Care → Fault
  | .careful => .ends .value
  | .skimming => .badNumber

def digits (care : Care) : Reading (List Char) := fun
  | [] => .error care.cutNumeral
  | c :: rest =>
    if isAsciiDigit c then
      .ok ⟨c :: rest.takeWhile isAsciiDigit, rest.dropWhile isAsciiDigit,
        Nat.le_succ_of_le (length_dropWhile_le isAsciiDigit rest)⟩
    else .error .badNumber

def wholeDigits (care : Care) : Reading (List Char) := (digits care).andThen fun
  | '0' :: _ :: _ => Reader.fail .badNumber
  | found => Reader.done found

def fraction (care : Care) : Reading (List Char) := fun
  | '.' :: rest => Reader.afterOne (digits care rest)
  | input => Reader.done [] input

def signedExponent (care : Care) : Reading Int := fun
  | '-' :: rest =>
    Reader.afterOne ((digits care).map (fun found => -(digitsValue found 0 : Int)) rest)
  | '+' :: rest => Reader.afterOne ((digits care).map (fun found => (digitsValue found 0 : Int)) rest)
  | input => (digits care).map (fun found => (digitsValue found 0 : Int)) input

def exponent (care : Care) : Reading (Option Int) := fun
  | 'e' :: rest => Reader.afterOne ((signedExponent care).map some rest)
  | 'E' :: rest => Reader.afterOne ((signedExponent care).map some rest)
  | input => Reader.done none input

/-- The number of a numeral. Integers are those of 64 bits; minus zero is a real. A decimal is
rounded once, to the nearest number. That is an assumption: a decoder may round the digits and the
power of ten one after the other, and so miss some decimals of sixteen and more digits by a unit. -/
def numeralValue (negative : Bool) (whole fraction : List Char) (exponent : Option Int) : Json :=
  let value := digitsValue whole 0
  let real := Number.withSign negative <|
    (Decimal.mk (digitsValue fraction value) (exponent.getD 0 - fraction.length)).toFloat
  if !fraction.isEmpty || exponent.isSome then .real real
  else if negative then
    if 0 < value ∧ value ≤ Number.signedLimit then .integer (-value) else .real real
  else if value < Number.wordLimit then .integer value
  else .real real

def magnitude (care : Care) (negative : Bool) : Reading Json :=
  (wholeDigits care).andThen fun whole =>
  (fraction care).andThen fun fraction =>
  (exponent care).andThen fun exponent =>
    let value := numeralValue negative whole fraction exponent
    match care, value with
    | .careful, .real x => if x.isInf then Reader.fail .numberTooLarge else Reader.done value
    | _, _ => Reader.done value

/-- The value of four hexadecimal digits. Four bytes have to be left, whatever they hold. -/
def fourDigits : Reading Nat := fun
  | a :: b :: c :: d :: rest =>
    match Number.readDigits 16 [a, b, c, d] 0 with
    | some value => .ok ⟨value, rest, by simp only [List.length_cons]; omega⟩
    | none => .error .badEscape
  | input =>
    if (String.ofList input).utf8ByteSize < 4 then .error (.ends .text) else .error .badEscape

def isLead (unit : Nat) : Bool := decide (0xD800 ≤ unit ∧ unit ≤ 0xDBFF)

def isTrail (unit : Nat) : Bool := decide (0xDC00 ≤ unit ∧ unit ≤ 0xDFFF)

def trailAfter (lead : Nat) : Reading Char := fun
  | [] => .error (.ends .text)
  | '\\' :: rest => Reader.afterOne <| match rest with
    | [] => .error (.ends .text)
    | 'u' :: rest => Reader.afterOne <| (fourDigits.andThen fun trail =>
        if isTrail trail then
          Reader.done (Char.ofNat (0x10000 + (lead - 0xD800) * 0x400 + (trail - 0xDC00)))
        else Reader.fail .halfPair) rest
    | _ => .error .brokenPair
  | _ => .error .brokenPair

/-- A character by its code. Skimming, half a pair passes for a character. -/
def codeEscape (care : Care) : Reading Char := fourDigits.andThen fun unit =>
  match care with
  | .skimming => Reader.done (Char.ofNat unit)
  | .careful =>
    if isTrail unit then Reader.fail .halfPair
    else if isLead unit then trailAfter unit
    else Reader.done (Char.ofNat unit)

def escape (care : Care) : Reading Char := fun
  | [] => .error (.ends .text)
  | c :: rest => Reader.afterOne <| match c with
    | '"' => Reader.done '"' rest
    | '\\' => Reader.done '\\' rest
    | '/' => Reader.done '/' rest
    | 'b' => Reader.done '\x08' rest
    | 'f' => Reader.done '\x0c' rest
    | 'n' => Reader.done '\n' rest
    | 'r' => Reader.done '\r' rest
    | 't' => Reader.done '\t' rest
    | 'u' => codeEscape care rest
    | _ => .error .badEscape

def textRest (care : Care) : Reading (List Char)
  | [] => .error (.ends .text)
  | c :: rest =>
    if c = '"' then .ok ⟨[], rest, Nat.le_succ _⟩
    else if c = '\\' then
      match escape care rest with
      | .error fault => .error fault
      | .ok first =>
        have : first.rest.length < (c :: rest).length := Nat.lt_succ_of_le first.within
        behind (Nat.le_of_lt this) <|
          match textRest care first.rest with
          | .error fault => .error fault
          | .ok others => .ok ⟨first.value :: others.value, others.rest, others.within⟩
    else if c < ' ' then .error .controlCharacter
    else
      match textRest care rest with
      | .error fault => .error fault
      | .ok others => .ok ⟨c :: others.value, others.rest, Nat.le_succ_of_le others.within⟩
  termination_by input => input.length
  decreasing_by all_goals simp only [List.length_cons] at *; omega

def textAfterQuote (care : Care) : Reading String := (textRest care).map String.ofList

def scalar (care : Care) : Reading Json := fun
  | [] => .error (.ends .value)
  | c :: rest =>
    if c = 'n' then Reader.afterOne ((wordRest ['u', 'l', 'l']).map (fun _ => Json.null) rest)
    else if c = 't' then
      Reader.afterOne ((wordRest ['r', 'u', 'e']).map (fun _ => Json.boolean true) rest)
    else if c = 'f' then
      Reader.afterOne ((wordRest ['a', 'l', 's', 'e']).map (fun _ => Json.boolean false) rest)
    else if c = '"' then Reader.afterOne ((textAfterQuote care).map Json.text rest)
    else if c = '-' then Reader.afterOne (magnitude care true rest)
    else if isAsciiDigit c then magnitude care false (c :: rest)
    else .error .noValue

end Tabular.Json
