/-! The ranges of whole numbers of 64 bits. -/

set_option autoImplicit false

namespace Tabular.Number

def wordLimit : Nat := Nat.pow 2 64

/-- Integers of 64 bits are below this number, and not below its negative. -/
def signedLimit : Nat := Nat.pow 2 63

def isSigned (value : Int) : Bool := decide (-(signedLimit : Int) ≤ value ∧ value < signedLimit)

end Tabular.Number
