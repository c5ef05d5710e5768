import Tabular.Interchange.Request
import Tabular.Proofs.Json.Form
import Tabular.Proofs.Row.Insertion

/-! Results sent as JSON are received as they were.

A number that is not finite arrives as null and minus zero as zero, for they have no numerals of
their own. Everything else arrives unchanged and in its place, so what was received is sent on as
the same text. This takes a decoder that reads back every numeral that is printed for a number, and
that is an assumption: the one here rounds a decimal once, to the nearest number.
-/

set_option autoImplicit false

namespace Tabular

open Json

namespace Value

/-- What arrives of a value. -/
def carried : Value → Value
  | .number x =>
    if x.isNaN || x.isInf then .null else if x = -0 then .number 0 else .number x
  | value => value

theorem toJson_of_units {x : Float} (finite : Number.IsFinite x) (none : Number.units x = 0) :
    (number x).toJson = .integer 0 := by
  have sent : ¬(x.isNaN || x.isInf) = true := Bool.eq_false_iff.mp finite
  simp only [toJson, if_neg sent, Number.wholeValue?_of_units none]
  rfl

/-- A finite number is sent as the integer that it equals, or else as a real that is not zero. -/
theorem toJson_number {x : Float} (finite : Number.IsFinite x) :
    (∃ whole, Number.wholeValue? x = some whole ∧ whole.natAbs ≤ maxExact ∧
      (number x).toJson = .integer whole) ∨
    Number.units x ≠ 0 ∧ (number x).toJson = .real x := by
  by_cases none : Number.units x = 0
  · exact .inl ⟨0, Number.wholeValue?_of_units none, Nat.zero_le _, toJson_of_units finite none⟩
  · have sent : ¬(x.isNaN || x.isInf) = true := Bool.eq_false_iff.mp finite
    simp only [toJson, if_neg sent]
    cases Number.wholeValue? x with
    | none => exact .inr ⟨none, rfl⟩
    | some whole =>
      by_cases exact' : whole.natAbs ≤ maxExact
      · exact .inl ⟨whole, rfl, exact', if_pos exact'⟩
      · exact .inr ⟨none, if_neg exact'⟩

theorem carried_number {x : Float} (finite : Number.IsFinite x) :
    (number x).carried = .number (if Number.units x = 0 then 0 else x) := by
  have sent : ¬(x.isNaN || x.isInf) = true := Bool.eq_false_iff.mp finite
  simp only [carried, if_neg sent]
  by_cases none : Number.units x = 0
  · rcases Number.eq_zero_of_units finite none with rfl | rfl <;>
      simp [Number.units_zero, Number.units_minus_zero]
  · have nonzero : x ≠ -0 := fun zero => none (zero ▸ Number.units_minus_zero)
    rw [if_neg nonzero, if_neg none]

theorem carried_of_not_isFinite {x : Float} (infinite : ¬Number.IsFinite x) :
    (number x).carried = .null ∧ (number x).toJson = .null := by
  have dropped : (x.isNaN || x.isInf) = true := (Bool.not_eq_false _).mp infinite
  simp only [carried, toJson, dropped, if_true, and_self]

theorem ofJson?_toJson (value : Value) : ofJson? value.toJson = some value.carried := by
  cases value with
  | number x =>
    by_cases finite : Number.IsFinite x
    · rw [carried_number finite]
      rcases toJson_number finite with ⟨whole, equals, -, sent⟩ | ⟨nonzero, sent⟩
      · rw [sent, ofJson?, Number.ofInt_of_wholeValue? finite equals]
      · rw [sent, ofJson?, if_neg nonzero]
    · obtain ⟨arrives, sent⟩ := carried_of_not_isFinite finite
      rw [arrives, sent, ofJson?]
  | _ => rfl

theorem legible_toJson (value : Value) : value.toJson.Legible := by
  cases value with
  | number x =>
    by_cases finite : Number.IsFinite x
    · rcases toJson_number finite with ⟨whole, -, bounded, sent⟩ | ⟨-, sent⟩
      · have small : maxExact ≤ Number.signedLimit := by decide
        have large : maxExact < Number.wordLimit := by decide
        rw [sent]
        exact ⟨by omega, by omega⟩
      · rw [sent]
        exact finite
    · rw [(carried_of_not_isFinite finite).2]
      trivial
  | _ => trivial

theorem toJson_carried (value : Value) : value.carried.toJson = value.toJson := by
  cases value with
  | number x =>
    by_cases finite : Number.IsFinite x
    · rw [carried_number finite]
      -- Both zeros are sent as the same integer.
      by_cases none : Number.units x = 0
      · rw [if_pos none, toJson_of_units finite none,
          toJson_of_units Number.isFinite_zero Number.units_zero]
      · rw [if_neg none]
    · obtain ⟨arrives, sent⟩ := carried_of_not_isFinite finite
      rw [arrives, sent, toJson]
  | _ => rfl

theorem takes_form (value : Value) (depth : Nat) :
    Takes (form.read depth) value.toJson.compact value.carried :=
  Form.takes_anyOf value.legible_toJson value.ofJson?_toJson

end Value

/-! ## Rows -/

namespace Row

def carried (row : Row) : Row where
  fields := row.fields.map fun field => (field.1, field.2.carried)
  distinct := by
    rw [List.map_map]
    exact row.distinct

theorem toJson_carried (row : Row) : row.carried.toJson = row.toJson := by
  simp only [toJson, carried, List.map_map, Function.comp_def, Value.toJson_carried]

theorem map_toJson_carried (rows : List Row) :
    (rows.map carried).map toJson = rows.map toJson := by
  rw [List.map_map]
  exact List.map_congr_left fun row _ => row.toJson_carried

theorem takesMembers_insertAll (depth : Nat) (row : Row) (fields : List (String × Value)) :
    TakesMembers
      (fun row name => colon.andThen fun _ =>
        (Value.form.read depth).map fun value => row.insert name value)
      row (fields.map fun field => (field.1, field.2.toJson))
      (row.insertAll (fields.map fun field => (field.1, field.2.carried))) := by
  induction fields generalizing row with
  | nil => exact .nil row
  | cons field rest ih =>
    exact .cons (takes_member (row.insert field.1) (field.2.takes_form depth)) (ih _)

theorem takes_form (row : Row) (depth : Nat) :
    Takes (form.read (depth + 1)) row.toJson.compact row.carried := by
  intro rest _
  have taken := takesMembers_insertAll depth empty row.fields
  have built : empty.insertAll (row.fields.map fun field => (field.1, field.2.carried)) =
      row.carried := row.carried.ofList_fields
  rw [built] at taken
  rw [toJson, compact, List.cons_append, List.append_assoc]
  simp only [form, enter]
  exact reads_afterGap rfl (.afterOne rfl (reads_members taken rest))

end Row

theorem takes_rows (rows : List Row) (depth : Nat) :
    Takes ((Form.list Row.form).read (depth + 2)) (Json.list (rows.map Row.toJson)).compact
      (rows.map Row.carried) := by
  refine Form.takes_list (List.forall₂_map_left_iff.mpr (List.forall₂_map_right_iff.mpr ?_))
  exact List.forall₂_same.mpr fun row _ => row.takes_form depth

/-! ## Columns -/

theorem Column.takes_form (column : Column) (depth : Nat) :
    Takes (form.read (depth + 1)) column.toJson.compact column := by
  have type : Takes (ColumnType.form.read depth) (Json.text column.type.name).compact column.type :=
    Form.takes_choice (by cases column.type <;> rfl)
  exact takes_record (.field (Form.takes_text _ _) (by simp) (.field type (by simp) (.complete _)))

theorem takes_columns (columns : List Column) (depth : Nat) :
    Takes ((Form.list Column.form).read (depth + 2)) (Json.list (columns.map Column.toJson)).compact
      columns := by
  refine Form.takes_list (List.forall₂_map_left_iff.mpr ?_)
  exact List.forall₂_same.mpr fun column _ => column.takes_form depth

/-! ## Datasets and responses -/

namespace Dataset

def carried (dataset : Dataset) : Dataset :=
  { dataset with rows := dataset.rows.map Row.carried }

theorem toJson_carried (dataset : Dataset) : dataset.carried.toJson = dataset.toJson := by
  simp only [toJson, carried, Row.map_toJson_carried]

theorem takes_form (dataset : Dataset) (depth : Nat) :
    Takes (form.read (depth + 3)) dataset.toJson.compact dataset.carried :=
  takes_record <| .field (Form.takes_text _ dataset.id) (by simp) <|
    .field (takes_columns dataset.columns depth) (by simp) <|
    .field (takes_rows dataset.rows depth) (by simp) (.complete _)

end Dataset

namespace Response

def carried (response : Response) : Response :=
  { response with data := response.data.map Row.carried }

theorem toJson_carried (response : Response) : response.carried.toJson = response.toJson := by
  simp only [toJson, carried, Row.map_toJson_carried]

theorem takes_form {response : Response} (counted : response.rowCount < Number.wordLimit)
    (depth : Nat) : Takes (form.read (depth + 3)) response.toJson.compact response.carried :=
  takes_record <| .field (takes_rows response.data depth) (by simp) <|
    .field (Form.takes_count counted) (by simp) (.complete _)

end Response

/-- Rows, datasets and responses arrive whole, and what arrived is sent on as the same text. A
count of rows is a natural of 64 bits. Decoders that round some decimals twice are not covered. -/
theorem interchange_round_trips (rows : List Row) (dataset : Dataset) (response : Response)
    (counted : response.rowCount < Number.wordLimit) :
    ((Form.list Row.form).decode (Json.list (rows.map Row.toJson)).render =
        .ok (rows.map Row.carried) ∧
      (Json.list ((rows.map Row.carried).map Row.toJson)).render =
        (Json.list (rows.map Row.toJson)).render) ∧
    (Dataset.form.decode dataset.toJson.render = .ok dataset.carried ∧
      dataset.carried.toJson.render = dataset.toJson.render) ∧
    (Response.form.decode response.toJson.render = .ok response.carried ∧
      response.carried.toJson.render = response.toJson.render) := by
  -- Rows, columns and values lie three levels deep at most, and the bound is 127.
  refine ⟨⟨Form.decode_render (takes_rows rows 125), by rw [Row.map_toJson_carried]⟩,
    ⟨Form.decode_render (dataset.takes_form 124), by rw [dataset.toJson_carried]⟩,
    Form.decode_render (Response.takes_form counted 124), by rw [response.toJson_carried]⟩

/-- Of numbers that JSON has no numeral for, one arrives as null and one as zero. -/
theorem interchange_round_trips_crooked :
    1 < Number.wordLimit ∧
    Response.form.decode (Response.toJson
        ⟨[Row.ofList [("\"", .number Number.notANumber), ("π\n", .number (-0))]], 1⟩).render =
      .ok ⟨[Row.ofList [("\"", .null), ("π\n", .number 0)]], 1⟩ := by
  have received := (interchange_round_trips [] ⟨"", [], []⟩
    ⟨[Row.ofList [("\"", .number Number.notANumber), ("π\n", .number (-0))]], 1⟩
    (by decide)).2.2.1
  have arrived : Response.carried
      ⟨[Row.ofList [("\"", .number Number.notANumber), ("π\n", .number (-0))]], 1⟩ =
      ⟨[Row.ofList [("\"", .null), ("π\n", .number 0)]], 1⟩ := by decide +kernel
  rw [arrived] at received
  exact ⟨by decide, received⟩

end Tabular
