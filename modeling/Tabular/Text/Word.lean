import Tabular.Text.WordRanges
import Tabular.Text.DigitRanges

/-! The characters of words and the digits of all scripts. -/

set_option autoImplicit false

namespace Tabular.Text

def isWord (c : Char) : Bool := inRanges wordRanges c.toNat

def isDigit (c : Char) : Bool := inRanges digitRanges c.toNat

def isAsciiDigit (c : Char) : Bool := '0' ≤ c && c ≤ '9'

/-- The value of a numeral, read from the left onto what has been read before. -/
def digitsValue (digits : List Char) (start : Nat) : Nat :=
  digits.foldl (fun value c => value * 10 + (c.toNat - '0'.toNat)) start

end Tabular.Text
