/-! Sets of characters given by ranges of code points.

Ranges are listed in increasing order, so a search stops at the first range that
begins beyond the code point asked for.
-/

set_option autoImplicit false

namespace Tabular.Text

def inRanges : List (Nat × Nat) → Nat → Bool
  | [], _ => false
  | (first, last) :: ranges, code =>
    if code < first then false
    else if code ≤ last then true
    else inRanges ranges code

end Tabular.Text
