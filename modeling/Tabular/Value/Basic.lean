import Tabular.Number.Layout

/-! Cell values.

A cell holds nothing, a truth value, a number or text. Its display form is what
grouping compares and what the text predicates search.
-/

set_option autoImplicit false

namespace Tabular

inductive Value where
  | null
  | boolean (value : Bool)
  | number (value : Float)
  | text (value : String)
  deriving DecidableEq

instance : Inhabited Value := ⟨.null⟩

namespace Value

def asNumber : Value → Option Float
  | .number value => some value
  | _ => none

def asText : Value → Option String
  | .text value => some value
  | _ => none

def asBoolean : Value → Option Bool
  | .boolean value => some value
  | _ => none

def isNull : Value → Bool
  | .null => true
  | _ => false

/-- Both zeros display alike, and no number displays with an exponent. -/
def displayNumber (x : Float) : String :=
  if x.isNaN then "NaN"
  else if x.isInf then if Number.isNegative x then "-Infinity" else "Infinity"
  else if Number.units x = 0 then "0"
  else String.ofList (Number.finiteText Number.plainLayout x)

def display : Value → String
  | .null => "null"
  | .boolean true => "true"
  | .boolean false => "false"
  | .number value => displayNumber value
  | .text value => value

end Value

end Tabular
