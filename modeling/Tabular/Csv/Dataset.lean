import Tabular.Csv.Records
import Tabular.Dataset
import Tabular.Value.Numeric

/-! Datasets from comma-separated text.

The first record names the columns. Records may be shorter, and then lack the columns at
the end, or longer, and then lose the cells without a name.
-/

set_option autoImplicit false

namespace Tabular.Dataset

def rowOfRecord (header record : List String) : Row :=
  Row.ofList ((header.zip record).map fun cell => (cell.1, Value.ofCell cell.2))

def ofRecords (id : String) (header : List String) (records : List (List String)) : Dataset :=
  let rows := records.map (rowOfRecord header)
  ⟨id, header.map fun name => Column.infer name rows, rows⟩

def ofCsv (id : String) (bytes : List UInt8) : Except Csv.BadField Dataset :=
  match Csv.decodeRecords (Csv.records bytes) with
  | .ok (header :: records) => .ok (ofRecords id header records)
  | .ok [] => .ok (ofRecords id [] [])
  | .error bad => .error bad

end Tabular.Dataset
