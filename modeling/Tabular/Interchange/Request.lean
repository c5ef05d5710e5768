import Tabular.Interchange.Dataset
import Tabular.Interchange.Query
import Tabular.Request

/-! The JSON forms of requests and responses. -/

set_option autoImplicit false

namespace Tabular

open Json (Form Fields)

namespace Query

def sqlForm : Form String :=
  .record "SqlQuery" (fun (_ : Unit) statement => statement) <|
    .required "type" (.choice [("sql", ())]) <| .required "sql" .text .complete

/-- What is not a statement may be a structured query, whatever it says of its type. -/
def ofJson? (json : Json) : Option Query :=
  match sqlForm.ofJson? json with
  | some statement => some (.sql statement)
  | none => (StructuredQuery.form.ofJson? json).map .structured

def form : Form Query := .anyOf "Query" ofJson?

end Query

def Request.form : Form Request :=
  .record "QueryRequest" Request.mk <|
    .withDefault "datasetId" .text "" <| .required "query" Query.form .complete

namespace Response

def form : Form Response :=
  .record "QueryResponse" Response.mk <|
    .required "data" (.list Row.form) <| .required "rowCount" .count .complete

def toJson (response : Response) : Json :=
  .object [("data", .list (response.data.map Row.toJson)),
    ("rowCount", .integer response.rowCount)]

end Response

end Tabular
