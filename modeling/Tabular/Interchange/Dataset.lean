import Tabular.Dataset
import Tabular.Interchange.Value

/-! The JSON forms of rows, columns and datasets. -/

set_option autoImplicit false

namespace Tabular

open Json (Form Fields Reading)
open Text (Reader)

namespace Row

def insertMembers? : Row → List (String × Json) → Option Row
  | row, [] => some row
  | row, (name, json) :: rest =>
    (Value.ofJson? json).bind fun value => (row.insert name value).insertMembers? rest

/-- The members of an object, of which a repeated name keeps its place and takes the later value. -/
def form : Form Row where
  read depth := Json.afterGap fun
    | [] => .error (.ends .value)
    | c :: rest =>
      if c = '\x7b' then
        let inside (depth : Nat) : Reading Row :=
          Json.members .careful (fun row name => Json.colon.andThen fun _ =>
            (Value.form.read depth).map fun value => row.insert name value) empty
        Reader.afterOne (Json.enter inside depth rest)
      else Json.mismatch "a map of column name to scalar value" (c :: rest)
  ofJson?
    | .object members => empty.insertMembers? members
    | _ => none

def toJson (row : Row) : Json :=
  .object (row.fields.map fun field => (field.1, field.2.toJson))

end Row

def ColumnType.form : Form ColumnType :=
  .choice [("number", .number), ("boolean", .boolean), ("text", .text)]

namespace Column

def form : Form Column :=
  .record "ColumnMeta" Column.mk <|
    .required "name" .text <| .required "type" ColumnType.form .complete

def toJson (column : Column) : Json :=
  .object [("name", .text column.name), ("type", .text column.type.name)]

end Column

namespace Dataset

def form : Form Dataset :=
  .record "Dataset" Dataset.mk <|
    .required "id" .text <| .required "columns" (.list Column.form) <|
    .required "data" (.list Row.form) .complete

def toJson (dataset : Dataset) : Json :=
  .object [("id", .text dataset.id), ("columns", .list (dataset.columns.map Column.toJson)),
    ("data", .list (dataset.rows.map Row.toJson))]

end Dataset

end Tabular
