import Tabular.Listing
import Tabular.Proofs.Csv.Reach

/-! The columns of datasets.

A dataset of rows alone has one column for each name that its rows show, in order of first
appearance, which is also how a listing heads them. The values in a column decide its type, in
whatever order they come. The columns of a file are its header as it stands, so a name that the
header repeats is the name of several columns.
-/

set_option autoImplicit false

namespace Tabular

namespace ColumnType

def HoldOnly (test : Value → Bool) (cells : List Value) : Prop :=
  (∃ cell ∈ cells, cell ≠ .null) ∧ ∀ cell ∈ cells, cell ≠ .null → test cell = true

section Infer

variable {cells : List Value}

theorem mem_present_iff {cell : Value} :
    (cell ∈ cells.filter fun cell => !cell.isNull) ↔ cell ∈ cells ∧ cell ≠ .null := by
  rw [List.mem_filter]
  cases cell <;> simp [Value.isNull]

theorem holdOnly_iff {test : Value → Bool} :
    HoldOnly test cells ↔
      (cells.filter fun cell => !cell.isNull).isEmpty = false ∧
        (cells.filter fun cell => !cell.isNull).all test = true := by
  simp only [HoldOnly, List.isEmpty_eq_false_iff_exists_mem, List.all_eq_true, mem_present_iff,
    and_imp]

theorem infer_eq_number_iff :
    infer cells = .number ↔ HoldOnly (fun cell => cell.asNumber.isSome) cells := by
  rw [holdOnly_iff, infer]
  split_ifs <;> simp_all

theorem infer_eq_boolean_iff :
    infer cells = .boolean ↔ HoldOnly (fun cell => cell.asBoolean.isSome) cells := by
  rw [holdOnly_iff, infer]
  have apart (cell : Value) : cell.asNumber.isSome = true → cell.asBoolean.isSome = false := by
    cases cell <;> simp [Value.asNumber, Value.asBoolean]
  cases cells.filter fun cell => !cell.isNull with
  | nil => simp
  | cons cell rest =>
    rw [List.isEmpty_cons, if_neg Bool.false_ne_true]
    split_ifs with numbers truths
    · have number := List.all_eq_true.mp numbers cell List.mem_cons_self
      simp [apart cell number]
    · simp [truths]
    · simp [truths]

theorem infer_eq_text_iff :
    infer cells = .text ↔
      ¬HoldOnly (fun cell => cell.asNumber.isSome) cells ∧
        ¬HoldOnly (fun cell => cell.asBoolean.isSome) cells := by
  rw [← infer_eq_number_iff, ← infer_eq_boolean_iff]
  cases infer cells <;> simp

structure Found where
  onlyNumbers : Bool
  onlyBooleans : Bool
  any : Bool

def Found.next (found : Found) : Value → Found
  | .null => found
  | .number _ => { found with onlyBooleans := false, any := true }
  | .boolean _ => { found with onlyNumbers := false, any := true }
  | .text _ => ⟨false, false, true⟩

def Found.type : Found → ColumnType
  | ⟨true, _, true⟩ => .number
  | ⟨_, true, true⟩ => .boolean
  | _ => .text

theorem foldl_next (found : Found) (cells : List Value) :
    let present := cells.filter fun cell => !cell.isNull
    cells.foldl Found.next found =
      ⟨found.onlyNumbers && present.all fun cell => cell.asNumber.isSome,
        found.onlyBooleans && present.all fun cell => cell.asBoolean.isSome,
        found.any || !present.isEmpty⟩ := by
  induction cells generalizing found with
  | nil => simp
  | cons cell cells ih =>
    cases cell <;> simp [ih, Found.next, Value.isNull, Value.asNumber, Value.asBoolean]

/-- The type is the one that a single pass along the cells finds. -/
theorem infer_eq_foldl (cells : List Value) :
    infer cells = (cells.foldl Found.next ⟨true, true, false⟩).type := by
  rw [foldl_next, infer, Bool.true_and, Bool.true_and, Bool.false_or]
  split_ifs with empty numbers booleans
  · simp only [empty, Bool.not_true]
    cases (List.filter _ cells).all _ <;> cases (List.filter _ cells).all _ <;> rfl
  · rw [numbers, (Bool.not_eq_true _).mp empty]
    rfl
  · rw [(Bool.not_eq_true _).mp numbers, booleans, (Bool.not_eq_true _).mp empty]
    rfl
  · rw [(Bool.not_eq_true _).mp numbers, (Bool.not_eq_true _).mp booleans]
    rfl

theorem infer_perm {others : List Value} (perm : cells.Perm others) :
    infer cells = infer others := by
  have present := perm.filter fun cell => !cell.isNull
  simp only [infer, present.isEmpty_eq, present.all_eq]

end Infer

end ColumnType

namespace Dataset

/-! ## Columns of rows -/

def Fills (rows : List Row) (name : String) (value : Value) : Prop :=
  value ≠ .null ∧ ∃ row ∈ rows, row.get? name = some value

/-- Some value fills the column of a name, and each one that does passes the test. -/
def FilledBy (test : Value → Bool) (rows : List Row) (name : String) : Prop :=
  (∃ value, Fills rows name value) ∧ ∀ value, Fills rows name value → test value = true

theorem filledBy_iff {test : Value → Bool} {rows : List Row} {name : String} :
    FilledBy test rows name ↔
      ColumnType.HoldOnly test (rows.filterMap fun row => row.get? name) := by
  simp only [FilledBy, Fills, ColumnType.HoldOnly, List.mem_filterMap, and_comm, and_imp]
  exact and_congr_right fun _ => forall_congr' fun _ => forall_comm

theorem names_ofRows (id : String) (rows : List Row) :
    (ofRows id rows).columns.map Column.name = columnNames rows := by
  rw [ofRows, List.map_map]
  exact List.map_id _

theorem columns_ofRows_perm (id : String) {rows others : List Row} (perm : rows.Perm others) :
    (ofRows id rows).columns.Perm (ofRows id others).columns := by
  have names : (columnNames rows).Perm (columnNames others) := by
    rw [List.perm_ext_iff_of_nodup (nodup_columnNames rows) (nodup_columnNames others)]
    intro name
    simp only [mem_columnNames, perm.mem_iff]
  have inferred (name : String) : Column.infer name rows = Column.infer name others := by
    rw [Column.infer, Column.infer, ColumnType.infer_perm (perm.filterMap _)]
  rw [ofRows, ofRows, funext inferred]
  exact names.map _

theorem names_seen (id : String) (rows : List Row) :
    (ofRows id rows).columns.map Column.name = (rows.flatMap Row.columns).foldl seeName [] :=
  (names_ofRows id rows).trans (foldl_seeName _).symm

theorem column?_ofRows_eq_some_iff {id name : String} {rows : List Row} {column : Column} :
    (ofRows id rows).column? name = some column ↔
      column ∈ (ofRows id rows).columns ∧ column.name = name := by
  constructor
  · intro found
    have named := List.find?_some found
    exact ⟨List.mem_of_find?_eq_some found, beq_iff_eq.mp named⟩
  · rintro ⟨member, rfl⟩
    have present : ((ofRows id rows).column? column.name).isSome = true :=
      List.find?_isSome.mpr ⟨column, member, beq_self_eq_true _⟩
    obtain ⟨other, found⟩ := Option.isSome_iff_exists.mp present
    -- Columns of one name are inferred from the same cells.
    have own {column : Column} (member : column ∈ (ofRows id rows).columns) :
        column = Column.infer column.name rows := by
      obtain ⟨name, -, rfl⟩ := List.mem_map.mp member
      rfl
    have named := List.find?_some found
    have same : other = column := by
      rw [own (List.mem_of_find?_eq_some found), own member, beq_iff_eq.mp named]
    rw [found, same]

/-- The columns of rows are the names that the rows show, each once and in order of first
appearance, as a listing heads them. A column is one of numbers if numbers alone fill it, one of
truth values if these alone do, and otherwise one of text, whatever the order of the rows is. -/
theorem columns_inferred (id : String) (rows : List Row) :
    let columns := (ofRows id rows).columns
    let names := columns.map Column.name
    let shown := rows.flatMap Row.columns
    names.Nodup ∧ (∀ name, name ∈ names ↔ name ∈ shown) ∧
      names.Pairwise (fun first second => shown.idxOf first < shown.idxOf second) ∧
    (rows ≠ [] → listRows rows = Text.grid names (rows.map fun row => names.map row.cellText)
      ++ "\n(" ++ toString rows.length ++ " rows)\n") ∧
    (∀ column ∈ columns,
      (column.type = .number ↔ FilledBy (fun value => value.asNumber.isSome) rows column.name) ∧
      (column.type = .boolean ↔ FilledBy (fun value => value.asBoolean.isSome) rows column.name) ∧
      (column.type = .text ↔
        ¬FilledBy (fun value => value.asNumber.isSome) rows column.name ∧
          ¬FilledBy (fun value => value.asBoolean.isSome) rows column.name)) ∧
    ∀ others : List Row, rows.Perm others → columns.Perm (ofRows id others).columns := by
  intro columns names shown
  have listed : names = columnNames rows := names_ofRows id rows
  refine ⟨?_, fun name => ?_, ?_, fun some => ?_, fun column member => ?_,
    fun others perm => columns_ofRows_perm id perm⟩
  · rw [listed]
    exact nodup_columnNames rows
  · rw [listed]
    exact mem_firstSeen
  · rw [listed]
    exact firstSeen_pairwise_idxOf _
  · rw [listed, listRows, if_neg (by simpa using some)]
  · obtain ⟨name, -, rfl⟩ := List.mem_map.mp member
    simp only [Column.infer, filledBy_iff]
    exact ⟨ColumnType.infer_eq_number_iff, ColumnType.infer_eq_boolean_iff,
      ColumnType.infer_eq_text_iff⟩

/-- Nulls and missing values have no say, so a single truth value decides its column, and a column
of nulls is text. -/
theorem columns_inferred_gaps :
    let east := Row.ofList [("open", .null), ("sold", .number (Number.ofNat 9))]
    let west := Row.ofList [("shop", .null), ("open", .boolean true), ("sold", .text "n/a")]
    let columns := (ofRows "shops" [east, west]).columns
    [east, west] ≠ [] ∧ [east, west].Perm [west, east] ∧
    columns = [⟨"open", .boolean⟩, ⟨"sold", .text⟩, ⟨"shop", .text⟩] ∧
    FilledBy (fun value => value.asBoolean.isSome) [east, west] "open" ∧
    ¬FilledBy (fun value => value.asNumber.isSome) [east, west] "sold" ∧
    listRows [east, west] = Text.grid ["open", "sold", "shop"]
      ([east, west].map fun row => ["open", "sold", "shop"].map row.cellText)
        ++ "\n(" ++ toString 2 ++ " rows)\n" ∧
    columns.Perm (ofRows "shops" [west, east]).columns := by
  intro east west columns
  have found : columns = [⟨"open", .boolean⟩, ⟨"sold", .text⟩, ⟨"shop", .text⟩] := by decide
  have filled : [east, west] ≠ [] := by simp
  have swapped : [east, west].Perm [west, east] := .swap west east []
  obtain ⟨-, -, -, listed, types, permuted⟩ := columns_inferred "shops" [east, west]
  have opened := types ⟨"open", .boolean⟩ (by decide)
  have sold := types ⟨"sold", .text⟩ (by decide)
  exact ⟨filled, swapped, found, opened.2.1.mp rfl, (sold.2.2.mp rfl).1, listed filled,
    permuted _ swapped⟩

/-! ## Columns of files -/

theorem names_ofRecords (id : String) (header : List String) (records : List (List String)) :
    (ofRecords id header records).columns.map Column.name = header := by
  rw [ofRecords, List.map_map]
  exact List.map_id _

/-- The columns of rows never share a name, and those of a file only if its header repeats it.
Either way the columns cover all that the rows show. -/
theorem columns_named_once_iff (id : String) (bytes : List UInt8) (table : List (List String))
    (split : Csv.decodeRecords (Csv.records bytes) = .ok table) :
    (∃ dataset, ofCsv id bytes = .ok dataset ∧
      ((dataset.columns.map Column.name).Nodup ↔ (table.headD []).Nodup) ∧
      ∀ row ∈ dataset.rows, row.columns ⊆ dataset.columns.map Column.name) ∧
    ∀ rows : List Row,
      ((ofRows id rows).columns.map Column.name).Nodup ∧
      ∀ row ∈ rows, row.columns ⊆ (ofRows id rows).columns.map Column.name := by
  refine ⟨⟨_, ofCsv_of_table split, ?_, fun row member => ?_⟩, fun rows => ⟨?_, ?_⟩⟩
  · rw [names_ofRecords]
  · obtain ⟨record, -, rfl⟩ := List.mem_map.mp member
    intro name shown
    rw [columns_rowOfRecord, mem_firstSeen] at shown
    rw [names_ofRecords]
    exact List.mem_of_mem_take shown
  · rw [names_ofRows]
    exact nodup_columnNames rows
  · intro row member name shown
    rw [names_ofRows, mem_columnNames]
    exact ⟨row, member, shown⟩

/-- The record ends before the last column, which the file has all the same. -/
theorem columns_named_once_short_record :
    let bytes := "n,m,k\n1,x\n".toUTF8.data.toList
    Csv.decodeRecords (Csv.records bytes) = .ok [["n", "m", "k"], ["1", "x"]] ∧
    ∃ dataset, ofCsv "short" bytes = .ok dataset ∧
      (dataset.columns.map Column.name).Nodup ∧
      ∀ row ∈ dataset.rows, row.columns ⊆ dataset.columns.map Column.name := by
  intro bytes
  have records : Csv.records bytes = [[[110], [109], [107]], [[49], [120]]] := by decide
  have decoded : Csv.decodeRecords (Csv.records bytes) = .ok [["n", "m", "k"], ["1", "x"]] := by
    rw [records]
    cbv
  obtain ⟨⟨dataset, loaded, once, covered⟩, -⟩ := columns_named_once_iff "short" bytes _ decoded
  exact ⟨decoded, dataset, loaded, once.mpr (by decide), covered⟩

/-- A header that repeats a name makes two columns of the name, of which the rows show one. -/
theorem columns_repeated_name :
    ∃ dataset, ofCsv "t" "a,a\nx,y\n".toUTF8.data.toList = .ok dataset ∧
      dataset.columns = [⟨"a", .text⟩, ⟨"a", .text⟩] ∧
      dataset.rows = [Row.ofList [("a", .text "y")]] ∧
      ¬(dataset.columns.map Column.name).Nodup := by
  have records : Csv.records "a,a\nx,y\n".toUTF8.data.toList = [[[97], [97]], [[120], [121]]] := by
    decide
  have decoded : Csv.decodeRecords (Csv.records "a,a\nx,y\n".toUTF8.data.toList) =
      .ok [["a", "a"], ["x", "y"]] := by
    rw [records]
    cbv
  exact ⟨_, ofCsv_of_table decoded, by decide, by decide, by decide⟩

end Dataset

end Tabular
