import Tabular.Csv.Dataset
import Tabular.Proofs.Row.Insertion
import Tabular.Proofs.Value.Cell
import Tabular.Sql.Run

/-! Finding rows by what was written for them.

The row of a record holds, in each column, what the record has there read as a cell. A condition
of equality takes its operand as text, so it finds the rows that were written with this text, and
only the words of the truth values are not found.
-/

set_option autoImplicit false

namespace Tabular

/-- What a record has under a name of its header. Of columns that share the name the last one that
the record reaches counts. -/
def Csv.written (header record : List String) (column : String) : Option String :=
  ((header.zip record).reverse.find? fun cell => cell.1 == column).map Prod.snd

namespace Dataset

theorem get?_rowOfRecord (header record : List String) (column : String) :
    (rowOfRecord header record).get? column =
      (Csv.written header record column).map Value.ofCell := by
  rw [rowOfRecord, Row.get?_ofList, find?_pairs, Csv.written, Option.map_map]
  rfl

theorem value_rowOfRecord {header record : List String} {column raw : String}
    (written : Csv.written header record column = some raw) :
    (rowOfRecord header record).value column = Value.ofCell raw := by
  rw [Row.value, get?_rowOfRecord, written, Option.map_some, Option.getD_some]

theorem ofCsv_of_table {id : String} {bytes : List UInt8} {table : List (List String)}
    (decoded : Csv.decodeRecords (Csv.records bytes) = .ok table) :
    ofCsv id bytes = .ok (ofRecords id (table.headD []) table.tail) := by
  unfold ofCsv
  rw [decoded]
  cases table <;> rfl

theorem ofCsv_of_decoded {id : String} {bytes : List UInt8} {header : List String}
    {records : List (List String)}
    (decoded : Csv.decodeRecords (Csv.records bytes) = .ok (header :: records)) :
    ofCsv id bytes = .ok (ofRecords id header records) :=
  ofCsv_of_table decoded

/-- A cell is found by the text that it was written with, as a filter and as the condition of a
statement, unless this is the word of a truth value. -/
theorem written_cell_found_iff (raw : String) (filled : raw.toList.all Text.isBlank = false) :
    (Operator.equals.holds (Value.ofCell raw) (.text raw) none = true ↔
      Value.isTruthWord raw = false) ∧
    ∀ (id : String) (bytes : List UInt8) (header : List String) (records : List (List String)),
      Csv.decodeRecords (Csv.records bytes) = .ok (header :: records) →
      ∃ dataset, ofCsv id bytes = .ok dataset ∧
        ∀ (index : Nat) (record : List String) (column : String),
          records[index]? = some record → Csv.written header record column = some raw →
          ∃ row, dataset.rows[index]? = some row ∧
            (row ∈ Filter.keep [⟨column, .equals, .text raw, none⟩] dataset.rows ↔
              Value.isTruthWord raw = false) ∧
            (∀ limited : List Row, row ∈ limited →
              (row ∈ Sql.Condition.keep ⟨column, "=", raw⟩ limited ↔
                Value.isTruthWord raw = false)) ∧
            ∀ clauses : Sql.Clauses, clauses.condition = some ⟨column, "=", raw⟩ →
              clauses.groupBy = none → row ∈ takeLimit clauses.limit dataset.rows →
              (row ∈ clauses.run dataset.rows ↔ Value.isTruthWord raw = false) := by
  have equals : Operator.equals.holds (Value.ofCell raw) (.text raw) none = true ↔
      Value.isTruthWord raw = false := by
    rw [Operator.holds, Value.ofCell_looselyEquals_iff, filled]
    exact and_iff_right rfl
  refine ⟨equals, fun id bytes header records decoded => ⟨_, ofCsv_of_decoded decoded, ?_⟩⟩
  intro index record column present written
  have row : (ofRecords id header records).rows[index]? = some (rowOfRecord header record) := by
    rw [ofRecords, List.getElem?_map, present, Option.map_some]
  rw [← value_rowOfRecord written] at equals
  have kept : ∀ limited : List Row, rowOfRecord header record ∈ limited →
      (rowOfRecord header record ∈ Sql.Condition.keep ⟨column, "=", raw⟩ limited ↔
        Value.isTruthWord raw = false) := by
    intro limited within
    simp only [Sql.Condition.keep, Sql.Condition.operator?]
    rw [List.mem_filter, and_iff_right within]
    exact equals
  refine ⟨_, row, ?_, kept, ?_⟩
  · rw [Filter.keep, List.mem_filter, and_iff_right (List.mem_of_getElem? row), List.all_cons,
      List.all_nil, Bool.and_true]
    exact equals
  · intro clauses condition ungrouped within
    rw [Sql.Clauses.run, condition, ungrouped]
    exact kept _ within

/-- Two columns share their name, and the last of them holds a numeral in base sixteen. -/
theorem written_cell_found_iff_hexadecimal :
    let bytes : List UInt8 := [110, 44, 110, 10, 49, 44, 48, 120, 49, 48, 10]
    let clauses : Sql.Clauses := ⟨some "t", none, some ⟨"n", "=", "0x10"⟩, none, []⟩
    "0x10".toList.all Text.isBlank = false ∧
    (Operator.equals.holds (Value.ofCell "0x10") (.text "0x10") none = true ↔
      Value.isTruthWord "0x10" = false) ∧
    Csv.decodeRecords (Csv.records bytes) = .ok [["n", "n"], ["1", "0x10"]] ∧
    Csv.written ["n", "n"] ["1", "0x10"] "n" = some "0x10" ∧
    ∃ dataset row, ofCsv "t" bytes = .ok dataset ∧ dataset.rows[0]? = some row ∧
      (row ∈ Filter.keep [⟨"n", .equals, .text "0x10", none⟩] dataset.rows ↔
        Value.isTruthWord "0x10" = false) ∧
      (row ∈ Sql.Condition.keep ⟨"n", "=", "0x10"⟩ dataset.rows ↔
        Value.isTruthWord "0x10" = false) ∧
      (row ∈ clauses.run dataset.rows ↔ Value.isTruthWord "0x10" = false) := by
  intro bytes clauses
  have filled : "0x10".toList.all Text.isBlank = false := by decide
  have records : Csv.records bytes = [[[110], [110]], [[49], [48, 120, 49, 48]]] := by decide
  have decoded : Csv.decodeRecords (Csv.records bytes) = .ok [["n", "n"], ["1", "0x10"]] := by
    rw [records]
    cbv
  have written : Csv.written ["n", "n"] ["1", "0x10"] "n" = some "0x10" := by decide
  obtain ⟨equals, found⟩ := written_cell_found_iff "0x10" filled
  obtain ⟨dataset, loaded, rows⟩ := found "t" bytes _ _ decoded
  obtain ⟨row, first, filtered, kept, selected⟩ := rows 0 _ "n" rfl written
  have member := List.mem_of_getElem? first
  exact ⟨filled, equals, decoded, written, dataset, row, loaded, first, filtered, kept _ member,
    selected clauses rfl rfl member⟩

set_option maxRecDepth 4000 in
/-- A truth value is compared with a text through its number, and its word has none. -/
theorem written_truth_word_not_found :
    let dataset := ofRecords "shops" ["open"] [["true"]]
    "true".toList.all Text.isBlank = false ∧ Text.trim "true" = "true" ∧
    Operator.equals.holds (Value.ofCell "true") (.text "true") none = false ∧
    dataset.rows = [Row.ofList [("open", .boolean true)]] ∧
    Filter.keep [⟨"open", .equals, .text "true", none⟩] dataset.rows = [] ∧
    Sql.runOn (fun _ => some dataset) "SELECT * FROM shops WHERE open = 'true'" = [] := by
  intro dataset
  have unequal : (Value.ofCell "true").looselyEquals (.text "true") = false := by
    rw [Bool.eq_false_iff, ne_eq, Value.ofCell_looselyEquals_iff]
    decide
  have rows : dataset.rows = [rowOfRecord ["open"] ["true"]] := rfl
  have cell : (rowOfRecord ["open"] ["true"]).value "open" = Value.ofCell "true" :=
    value_rowOfRecord (by decide)
  have clauses : Sql.Clauses.ofStatement "SELECT * FROM shops WHERE open = 'true'" =
      ⟨some "shops", none, some ⟨"open", "=", "true"⟩, none, []⟩ := by
    decide
  refine ⟨by decide, by decide, unequal, by decide, ?_, ?_⟩
  · simp [rows, Filter.keep, Filter.accepts, cell, Operator.holds, unequal]
  · simp [rows, Sql.runOn, clauses, Sql.Clauses.run, takeLimit, Sql.Condition.keep,
      Sql.Condition.operator?, cell, Operator.holds, unequal]

end Dataset

end Tabular
