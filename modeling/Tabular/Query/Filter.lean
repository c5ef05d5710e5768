import Tabular.Query.Operator
import Tabular.Row

/-! Filters: conditions on one column, of which a row has to meet all. -/

set_option autoImplicit false

namespace Tabular

structure Filter where
  column : String
  operator : Operator
  value : Value
  /-- The upper bound of a range. -/
  high : Option Value
  deriving DecidableEq

namespace Filter

def between (column : String) (low high : Value) : Filter := ⟨column, .between, low, some high⟩

def accepts (filter : Filter) (row : Row) : Bool :=
  filter.operator.holds (row.value filter.column) filter.value filter.high

def keep (filters : List Filter) (rows : List Row) : List Row :=
  rows.filter fun row => filters.all fun filter => filter.accepts row

end Filter

end Tabular
