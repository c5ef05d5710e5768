import Tabular.Row

/-! Columns and the types inferred for them. -/

set_option autoImplicit false

namespace Tabular

inductive ColumnType where
  | number
  | boolean
  | text
  deriving DecidableEq, Repr

def ColumnType.name : ColumnType → String
  | .number => "number"
  | .boolean => "boolean"
  | .text => "text"

structure Column where
  name : String
  type : ColumnType
  deriving DecidableEq, Repr

/-- Cells that are not null decide the type: all numbers, all truth values, or else text.
Without such a cell the type is text. -/
def ColumnType.infer (cells : List Value) : ColumnType :=
  let present := cells.filter fun cell => !cell.isNull
  if present.isEmpty then .text
  else if present.all fun cell => cell.asNumber.isSome then .number
  else if present.all fun cell => cell.asBoolean.isSome then .boolean
  else .text

def Column.infer (name : String) (rows : List Row) : Column :=
  ⟨name, ColumnType.infer (rows.filterMap fun row => row.get? name)⟩

def firstSeen : List String → List String
  | [] => []
  | name :: rest => name :: (firstSeen rest).filter (· != name)

def columnNames (rows : List Row) : List String := firstSeen (rows.flatMap Row.columns)

end Tabular
