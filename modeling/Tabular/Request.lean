import Tabular.Query.Structured
import Tabular.Sql.Run

/-! Requests, and the responses that a catalog gives to them. -/

set_option autoImplicit false

namespace Tabular

inductive Query where
  | sql (statement : String)
  | structured (query : StructuredQuery)
  deriving DecidableEq

structure Response where
  data : List Row
  rowCount : Nat
  deriving DecidableEq

namespace Response

def ofRows (rows : List Row) : Response := ⟨rows, rows.length⟩

def empty : Response := ⟨[], 0⟩

end Response

structure Request where
  datasetId : String
  query : Query
  deriving DecidableEq

/-- A statement names its dataset itself; a structured query runs on the dataset of the
request, and gives no rows when there is none of that id. -/
def Request.runOn (find : String → Option Dataset) (request : Request) : Response :=
  .ofRows <| match request.query with
    | .sql statement => Sql.runOn find statement
    | .structured query =>
      match find request.datasetId with
      | some dataset => query.run dataset.rows
      | none => []

def Request.run (catalog : Catalog) (request : Request) : Response := request.runOn catalog.get?

end Tabular
