import Tabular.Query.Selection

/-! Grouping: rows with one key form a group, and each group makes one result row.

The key of a row joins the display forms of its grouping columns with a bar. Groups come
in the order of their first rows.
-/

set_option autoImplicit false

namespace Tabular

/-- The rows of one key; the first of them stands for the group. -/
structure Group where
  key : String
  first : Row
  others : List Row
  deriving DecidableEq

namespace Group

def rows (group : Group) : List Row := group.first :: group.others

def keyOf (columns : List String) (row : Row) : String :=
  "|".intercalate (columns.map fun column => (row.value column).display)

/-- A new first row moves its group to the front. -/
def addFirst (key : String) (row : Row) (groups : List Group) : List Group :=
  match groups.find? fun group => group.key == key with
  | some group => ⟨key, row, group.rows⟩ :: groups.filter fun group => group.key != key
  | none => ⟨key, row, []⟩ :: groups

def partition (columns : List String) (rows : List Row) : List Group :=
  rows.foldr (fun row groups => addFirst (keyOf columns row) row groups) []

def summarize (group : Group) (selection : Selection) : Value :=
  match selection.aggregation.reduce (Aggregation.numbersIn group.rows selection.column) with
  | some number => .number number
  | none => group.first.value selection.column

def summary (columns : List String) (selections : List Selection) (group : Group) : Row :=
  let keyed := Row.ofList (columns.map fun column => (column, group.first.value column))
  keyed.insertAll
    (selections.map fun selection => (selection.outputName, group.summarize selection))

def aggregate (columns : List String) (selections : List Selection) (rows : List Row) :
    List Row :=
  (partition columns rows).map (summary columns selections)

end Group

end Tabular
