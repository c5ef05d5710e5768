import Tabular.Interchange.Request

/-! The service: requests to a catalog, with a cap on the rows of an answer.

The cap is not a limit of the query. An answer tells how many rows there were without it.
-/

set_option autoImplicit false

namespace Tabular

structure Answer where
  data : List Row
  rowCount : Nat
  totalRowCount : Nat
  truncated : Bool
  deriving DecidableEq

namespace Answer

def ofRows (cap : Option Nat) (rows : List Row) : Answer :=
  let data := takeLimit cap rows
  ⟨data, data.length, rows.length, decide (data.length < rows.length)⟩

def toJson (answer : Answer) : Json :=
  .object [("data", .list (answer.data.map Row.toJson)), ("rowCount", .integer answer.rowCount),
    ("totalRowCount", .integer answer.totalRowCount), ("truncated", .boolean answer.truncated)]

end Answer

structure Service where
  catalog : Catalog
  cap : Option Nat

namespace Service

def handle (service : Service) (request : Request) : Answer :=
  .ofRows service.cap (request.run service.catalog).data

/-- A request and its answer as texts. Only a request that cannot be read is refused. -/
def handleText (service : Service) (body : String) : Except Json.Fault String :=
  match Request.form.decode body with
  | .ok request => .ok (service.handle request).toJson.render
  | .error fault => .error fault

end Service

end Tabular
