import Tabular.Interchange.Value
import Tabular.Number.Word64
import Tabular.Query.Structured

/-! The JSON form of structured queries.

The form is lenient. Operators, aggregations and directions may be any document and count
as the empty name unless they are strings, and a limit that is not a natural number is no
limit.
-/

set_option autoImplicit false

namespace Tabular

open Json (Form Fields)

def nameOf (json : Json) : String := json.asText.getD ""

def Aggregation.form : Form Aggregation := .ofDocument fun json => ofName (nameOf json)

def Operator.form : Form Operator := .ofDocument fun json => ofName (nameOf json)

def Direction.form : Form Direction := .ofDocument fun json => ofName (nameOf json)

namespace Selection

def fields : Fields Selection (String → Aggregation → Option String → Selection) :=
  .required "column" .text <| .withDefault "aggregation" Aggregation.form .none <|
    .withDefault "alias" (.optional .text) none .complete

/-- A string is the name of a plain column. A list of the fields is no selected column. -/
def ofJson? : Json → Option Selection
  | .text column => some (plain column)
  | .object members => fields.ofMembers? Selection.mk members
  | _ => none

def form : Form Selection := .anyOf "RawSelectColumn" ofJson?

end Selection

def Filter.form : Form Filter :=
  .record "Filter" Filter.mk <|
    .withDefault "column" .text "" <| .withDefault "operator" Operator.form Operator.missing <|
    .withDefault "value" Value.form .null <|
    .withDefault "value2" (.optional Value.form) none .complete

def SortBy.form : Form SortBy :=
  .record "OrderBy" SortBy.mk <|
    .required "column" .text <| .withDefault "direction" Direction.form .ascending .complete

namespace StructuredQuery

/-- The whole part of a number that is not negative, up to the greatest 64-bit natural. -/
def limitOf (json : Json) : Option Nat :=
  match json.asNumber with
  | some x =>
    if Number.isNegative x && Number.units x != 0 then none
    else some (min (Number.wholePart x) (Number.wordLimit - 1))
  | none => none

def form : Form StructuredQuery :=
  .record "DeclarativeQuery" StructuredQuery.mk <|
    .withDefault "columns" (.list Selection.form) [] <|
    .withDefault "filters" (.list Filter.form) [] <|
    .withDefault "groupBy" (.list .text) [] <|
    .withDefault "orderBy" (.optional SortBy.form) none <|
    .withDefault "limit" (.ofDocument limitOf) none .complete

end StructuredQuery

end Tabular
