import Tabular.Value.Numeric

/-! Equality and order of values.

Equality is loose: text equals the number it reads as, and a truth value equals the
number it stands for. The order is total: numbers come first, NaN after the others, and
all other values follow by the collation of their display forms.
-/

set_option autoImplicit false

namespace Tabular.Value

/-- Operands of one kind compare directly; null equals only null. -/
def looselyEquals : Value → Value → Bool
  | .null, .null => true
  | .null, _ => false
  | _, .null => false
  | .text first, .text second => first == second
  | .boolean first, .boolean second => first == second
  | .number first, .number second => first == second
  | .number value, .text raw => (parseNumber raw).any (· == value)
  | .text raw, .number value => (parseNumber raw).any (· == value)
  | first, second => first.toNumber == second.toNumber

def lowerText (value : Value) : List Char := Text.lowerChars value.display.toList

/-- Texts compare without regard to case; of texts that differ in case alone, the one with
the greater code point at the first difference comes first. -/
def collate (first second : String) : Ordering :=
  (compare (Text.lowerChars first.toList) (Text.lowerChars second.toList)).then
    (compare second.toList first.toList)

def compareNumbers (first second : Float) : Ordering :=
  if first < second then .lt
  else if second < first then .gt
  else compare first.isNaN second.isNaN

def order : Value → Value → Ordering
  | .number first, .number second => compareNumbers first second
  | .number _, _ => .lt
  | _, .number _ => .gt
  | first, second => collate first.display second.display

end Tabular.Value
