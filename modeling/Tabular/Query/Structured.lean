import Tabular.Query.Filter
import Tabular.Query.Grouping
import Tabular.Query.Ordering

/-! Structured queries: filter, then group or project, then order, then limit. -/

set_option autoImplicit false

namespace Tabular

structure StructuredQuery where
  columns : List Selection := []
  filters : List Filter := []
  groupBy : List String := []
  orderBy : Option SortBy := none
  limit : Option Nat := none
  deriving DecidableEq

namespace StructuredQuery

def aggregates (query : StructuredQuery) : Bool :=
  query.columns.any fun selection => selection.aggregation != .none

/-- Grouping takes both grouping columns and an aggregation. -/
def shape (query : StructuredQuery) (rows : List Row) : List Row :=
  if !query.groupBy.isEmpty && query.aggregates then
    Group.aggregate query.groupBy query.columns rows
  else Selection.projectAll query.columns rows

def run (query : StructuredQuery) (rows : List Row) : List Row :=
  orderAndLimit query.orderBy query.limit (query.shape (Filter.keep query.filters rows))

end StructuredQuery

end Tabular
