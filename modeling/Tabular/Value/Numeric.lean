import Tabular.Number.Numeral
import Tabular.Text.Blank
import Tabular.Text.Case
import Tabular.Value.Basic

/-! The numeric view of values.

Text counts as a number when, apart from blanks around it, it is a decimal, a signed
Infinity, or a 64-bit literal in base sixteen, eight or two. Blank text and null have no
numeric view.
-/

set_option autoImplicit false

namespace Tabular.Value

def readNumeral (chars : List Char) : Option Float :=
  if chars = "Infinity".toList || chars = "+Infinity".toList then some Number.infinity
  else if chars = "-Infinity".toList then some (-Number.infinity)
  else match chars with
    | '0' :: mark :: digits =>
      match Number.baseOf mark with
      | some base => (Number.readWord base digits).map Number.ofNat
      | none => Number.readSigned chars
    | _ => Number.readSigned chars

def parseNumber (text : String) : Option Float := readNumeral (Text.trimChars text.toList)

/-- The number a value stands for in comparisons and reductions; NaN when there is none. -/
def toNumber : Value → Float
  | .number value => value
  | .boolean true => Number.ofNat 1
  | .boolean false => Number.ofNat 0
  | .text value => (parseNumber value).getD Number.notANumber
  | .null => Number.notANumber

def ofCell (raw : String) : Value :=
  if raw.toList.all Text.isBlank then .null
  else if Text.sameIgnoringAsciiCase raw "true" then .boolean true
  else if Text.sameIgnoringAsciiCase raw "false" then .boolean false
  else match parseNumber raw with
    | some value => .number value
    | none => .text raw

end Tabular.Value
