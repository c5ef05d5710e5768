import Tabular.Column

/-! Named tables of rows with their column types. -/

set_option autoImplicit false

namespace Tabular

structure Dataset where
  id : String
  columns : List Column
  rows : List Row
  deriving DecidableEq

namespace Dataset

def ofRows (id : String) (rows : List Row) : Dataset :=
  ⟨id, (columnNames rows).map fun name => Column.infer name rows, rows⟩

def column? (dataset : Dataset) (name : String) : Option Column :=
  dataset.columns.find? fun column => column.name == name

end Dataset

end Tabular
