import Tabular.Dataset
import Tabular.Text.Grid

/-! Listings of rows and of datasets as text. -/

set_option autoImplicit false

namespace Tabular

/-- A cell that a row lacks stays blank, and a null is shown as such. -/
def Row.cellText (row : Row) (column : String) : String :=
  match row.get? column with
  | none => ""
  | some .null => "NULL"
  | some value => value.display

def listRows (rows : List Row) : String :=
  if rows.isEmpty then "(0 rows)\n"
  else
    let columns := columnNames rows
    Text.grid columns (rows.map fun row => columns.map row.cellText)
      ++ "\n(" ++ toString rows.length ++ " rows)\n"

def Column.summary (column : Column) : String := column.name ++ " (" ++ column.type.name ++ ")"

def Dataset.summary (dataset : Dataset) : List String :=
  [dataset.id, toString dataset.rows.length, ", ".intercalate (dataset.columns.map Column.summary)]

def listDatasets (datasets : List Dataset) : String :=
  Text.grid ["dataset", "rows", "columns"] (datasets.map Dataset.summary) ++ "\n"

end Tabular
