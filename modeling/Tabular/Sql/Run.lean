import Tabular.Catalog
import Tabular.Query.Filter
import Tabular.Query.Grouping
import Tabular.Query.Ordering
import Tabular.Sql.Clauses

/-! Running the clauses of a statement.

The limit cuts the rows of the table before the condition and the grouping see them. A
clause that is absent, or that makes no sense, changes nothing.
-/

set_option autoImplicit false

namespace Tabular.Sql

def Condition.operator? (condition : Condition) : Option Operator :=
  match condition.operator with
  | "=" => some .equals
  | ">" => some .greaterThan
  | "<" => some .lessThan
  | _ => none

/-- Rows that meet a condition; one with another operator is met by all. -/
def Condition.keep (condition : Condition) (rows : List Row) : List Row :=
  match condition.operator? with
  | some operator =>
    rows.filter fun row => operator.holds (row.value condition.column) (.text condition.value) none
  | none => rows

def summary (column : String) (aggregates : List Aggregate) (group : Group) : Row :=
  let keyed := Row.empty.insert column (group.first.value column)
  keyed.insertAll <| aggregates.map fun aggregate =>
    let numbers := Aggregation.numbersIn group.rows aggregate.column
    (aggregate.outputName,
      .number ((aggregate.function.reduce numbers).getD (Number.ofNat 0)))

def Clauses.run (clauses : Clauses) (rows : List Row) : List Row :=
  let limited := takeLimit clauses.limit rows
  let kept := match clauses.condition with
    | some condition => condition.keep limited
    | none => limited
  match clauses.groupBy with
  | some column => (Group.partition [column] kept).map (summary column clauses.aggregates)
  | none => kept

/-- A statement names its table itself; without a known table there are no rows. -/
def runOn (find : String → Option Dataset) (statement : String) : List Row :=
  let clauses := Clauses.ofStatement statement
  match clauses.source.bind find with
  | some dataset => clauses.run dataset.rows
  | none => []

def run (catalog : Catalog) (statement : String) : List Row := runOn catalog.get? statement

end Tabular.Sql
