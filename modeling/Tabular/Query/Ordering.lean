import Tabular.Row
import Tabular.Value.Compare

/-! Ordering of result rows by one column.

Sorting is stable: rows level in the column keep their order in either direction.
-/

set_option autoImplicit false

namespace Tabular

inductive Direction where
  | ascending
  | descending
  deriving DecidableEq, Repr

namespace Direction

/-- Anything but `desc`, in any ASCII case, is ascending. -/
def ofName (name : String) : Direction :=
  if Text.sameIgnoringAsciiCase name "desc" then .descending else .ascending

def apply : Direction → Ordering → Ordering
  | .ascending, ordering => ordering
  | .descending, ordering => ordering.swap

end Direction

structure SortBy where
  column : String
  direction : Direction
  deriving DecidableEq, Repr

namespace SortBy

def compare (sortBy : SortBy) (first second : Row) : Ordering :=
  sortBy.direction.apply ((first.value sortBy.column).order (second.value sortBy.column))

def sort (sortBy : SortBy) (rows : List Row) : List Row :=
  rows.mergeSort fun first second => (sortBy.compare first second).isLE

end SortBy

def takeLimit (limit : Option Nat) (rows : List Row) : List Row :=
  match limit with
  | some count => rows.take count
  | none => rows

def orderAndLimit (sortBy : Option SortBy) (limit : Option Nat) (rows : List Row) : List Row :=
  takeLimit limit <| match sortBy with
    | some sortBy => sortBy.sort rows
    | none => rows

end Tabular
