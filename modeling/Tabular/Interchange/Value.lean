import Tabular.Json.Printer
import Tabular.Json.Record
import Tabular.Value.Basic

/-! The JSON form of values. -/

set_option autoImplicit false

namespace Tabular.Value

open Json (Form)

def ofJson? : Json → Option Value
  | .null => some .null
  | .boolean value => some (.boolean value)
  | .integer value => some (.number (Number.ofInt value))
  | .real value => some (.number value)
  | .text value => some (.text value)
  | .list _ => none
  | .object _ => none

def form : Form Value := .anyOf "Value" ofJson?

def maxExact : Nat := Nat.pow 2 53 - 1

/-- Whole numbers that floats hold exactly are integers; numbers that are not finite are null. -/
def toJson : Value → Json
  | .null => .null
  | .boolean value => .boolean value
  | .number value =>
    if value.isNaN || value.isInf then .null
    else match Number.wholeValue? value with
      | some whole => if whole.natAbs ≤ maxExact then .integer whole else .real value
      | none => .real value
  | .text value => .text value

end Tabular.Value
