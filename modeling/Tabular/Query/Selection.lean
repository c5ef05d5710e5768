import Tabular.Query.Aggregation

/-! Selected columns, and the rows they make without grouping. -/

set_option autoImplicit false

namespace Tabular

structure Selection where
  column : String
  aggregation : Aggregation
  /-- The name given to the column in the result. -/
  label : Option String
  deriving DecidableEq, Repr

namespace Selection

def plain (column : String) : Selection := ⟨column, .none, none⟩

def outputName (selection : Selection) : String := selection.label.getD selection.column

def project (selections : List Selection) (row : Row) : Row :=
  Row.ofList (selections.map fun selection => (selection.outputName, row.value selection.column))

/-- Without selected columns the rows stay whole. -/
def projectAll (selections : List Selection) (rows : List Row) : List Row :=
  if selections.isEmpty then rows else rows.map (project selections)

end Selection

end Tabular
