import Mathlib.Data.List.Nodup
import Tabular.Proofs.Csv.Written

/-! Records that end early.

The row of a record has the columns that the record reaches, so the rows of a file show the header
up to the end of its longest record. The columns of the file are those that its rows alone would
have, and after them those that no record reaches.
-/

set_option autoImplicit false

namespace Tabular

theorem find?_reverse_eq_some_iff {α : Type} {test : α → Bool} {items : List α} {item : α} :
    items.reverse.find? test = some item ↔
      test item = true ∧ ∃ index : Nat, items[index]? = some item ∧
        ∀ (later : Nat) (other : α), index < later → items[later]? = some other →
          test other = false := by
  rw [List.find?_eq_some_iff_append]
  refine and_congr_right fun _ => ⟨?_, ?_⟩
  · rintro ⟨behind, before, split, failed⟩
    have whole : items = before.reverse ++ item :: behind.reverse := by
      rw [← List.reverse_reverse items, split]
      simp
    refine ⟨before.reverse.length, by simp [whole], fun later other after found => ?_⟩
    rw [whole, List.getElem?_append_right (Nat.le_of_lt after), List.getElem?_cons,
      if_neg (by omega)] at found
    have member := List.mem_reverse.mp (List.mem_of_getElem? found)
    simpa using failed other member
  · rintro ⟨index, here, failed⟩
    obtain ⟨bounded, equal⟩ := List.getElem?_eq_some_iff.mp here
    have whole : items = items.take index ++ item :: items.drop (index + 1) := by
      rw [← equal, List.getElem_cons_drop, List.take_append_drop]
    refine ⟨(items.drop (index + 1)).reverse, (items.take index).reverse, ?_, ?_⟩
    · exact (congrArg List.reverse whole).trans (by simp)
    · intro other member
      obtain ⟨offset, found⟩ := List.mem_iff_getElem?.mp (List.mem_reverse.mp member)
      rw [List.getElem?_drop] at found
      rw [failed (index + 1 + offset) other (by omega) found]
      rfl

namespace Csv

variable {header : List String}

/-- The cell of a record under a name stands in the last place of the name that the record
reaches. -/
theorem written_eq_some_iff {record : List String} {column cell : String} :
    written header record column = some cell ↔
      ∃ index : Nat, header[index]? = some column ∧ record[index]? = some cell ∧
        ∀ later : Nat, index < later → later < record.length → header[later]? ≠ some column := by
  simp only [written, Option.map_eq_some_iff, find?_reverse_eq_some_iff, beq_iff_eq,
    List.getElem?_zip_eq_some, beq_eq_false_iff_ne]
  constructor
  · rintro ⟨⟨_, _⟩, ⟨rfl, index, ⟨named, filled⟩, others⟩, rfl⟩
    refine ⟨index, named, filled, fun later after reached again => ?_⟩
    exact others later (_, record[later]) after ⟨again, List.getElem?_eq_getElem reached⟩ rfl
  · rintro ⟨index, named, filled, others⟩
    refine ⟨(column, cell), ⟨rfl, index, ⟨named, filled⟩, ?_⟩, rfl⟩
    rintro later ⟨name, _⟩ after ⟨again, reached⟩ rfl
    exact others later after (List.getElem?_eq_some_iff.mp reached).1 again

def reach (records : List (List String)) : Nat := (records.map List.length).foldr max 0

def unreached (header : List String) (records : List (List String)) : List String :=
  (header.zipIdx.filter fun place => records.all fun record => record.length ≤ place.2).map Prod.fst

theorem reach_le_iff {records : List (List String)} {bound : Nat} :
    reach records ≤ bound ↔ ∀ record ∈ records, record.length ≤ bound := by
  induction records with
  | nil => simp [reach]
  | cons record records ih =>
    rw [reach, List.map_cons, List.foldr_cons, Nat.max_le, List.forall_mem_cons, ← ih, reach]

theorem filter_zipIdx_eq_drop (bound start : Nat) :
    ((header.zipIdx start).filter fun place => bound ≤ place.2).map Prod.fst =
      header.drop (bound - start) := by
  induction header generalizing start with
  | nil => simp
  | cons name header ih =>
    rw [List.zipIdx_cons, List.filter_cons]
    by_cases reached : bound ≤ start
    · have same : bound - start = 0 := by omega
      have next : bound - (start + 1) = 0 := by omega
      simp [reached, ih, same, next]
    · have same : bound - start = bound - (start + 1) + 1 := by omega
      simp [reached, ih, same]

theorem unreached_eq_drop (header : List String) (records : List (List String)) :
    unreached header records = header.drop (reach records) := by
  have behind : ∀ place : String × Nat,
      (records.all fun record => decide (record.length ≤ place.2)) =
        decide (reach records ≤ place.2) := by
    intro place
    rw [Bool.eq_iff_iff, List.all_eq_true, decide_eq_true_iff, reach_le_iff]
    simp only [decide_eq_true_iff]
  rw [unreached, funext behind, filter_zipIdx_eq_drop, Nat.sub_zero]

theorem take_append_filter_take (distinct : header.Nodup) (first second : Nat) :
    header.take first ++
        (header.take second).filter (fun name => !(header.take first).contains name) =
      header.take (max first second) := by
  rcases Nat.le_total second first with short | long
  · have none :
        (header.take second).filter (fun name => !(header.take first).contains name) = [] := by
      refine List.filter_eq_nil_iff.mpr fun name member => ?_
      simp [List.take_subset_take_left header short member]
    rw [none, List.append_nil, Nat.max_eq_left short]
  · obtain ⟨further, rfl⟩ := Nat.exists_eq_add_of_le long
    have old :
        (header.take first).filter (fun name => !(header.take first).contains name) = [] := by
      refine List.filter_eq_nil_iff.mpr fun name member => ?_
      simp [member]
    have new : ((header.drop first).take further).filter
        (fun name => !(header.take first).contains name) = (header.drop first).take further := by
      refine List.filter_eq_self.mpr fun name member => ?_
      have absent : name ∉ header.take first := fun earlier =>
        List.disjoint_take_drop distinct (Nat.le_refl first) earlier (List.mem_of_mem_take member)
      simp [absent]
    rw [Nat.max_eq_right long, List.take_add, List.filter_append, old, new, List.nil_append]

end Csv

namespace Dataset

variable {header : List String}

theorem columns_rowOfRecord (header record : List String) :
    (rowOfRecord header record).columns = firstSeen (header.take record.length) := by
  have names : ((header.zip record).map fun cell => (cell.1, Value.ofCell cell.2)).map Prod.fst =
      header.take record.length := by
    rw [List.map_map, List.take_eq_take_min, Nat.min_comm, List.zip_eq_zip_take_min]
    exact List.map_fst_zip (by simp)
  rw [rowOfRecord, Row.columns_ofList, names]

/-- The rows show the header as far as the longest record. -/
theorem columnNames_rows (distinct : header.Nodup) (records : List (List String)) :
    columnNames (records.map (rowOfRecord header)) = header.take (Csv.reach records) := by
  induction records with
  | nil => rfl
  | cons record records ih =>
    have shown : firstSeen (header.take record.length) = header.take record.length :=
      firstSeen_of_nodup (distinct.sublist (List.take_sublist _ _))
    -- The first record shows a front of the header, and the others by induction another.
    rw [columnNames] at ih ⊢
    rw [List.map_cons, List.flatMap_cons, columns_rowOfRecord, shown, firstSeen_append, shown, ih]
    exact Csv.take_append_filter_take distinct _ _

theorem infer_of_absent {name : String} {rows : List Row}
    (absent : name ∉ columnNames rows) : Column.infer name rows = ⟨name, .text⟩ := by
  have none : (rows.filterMap fun row => row.get? name) = [] := by
    refine List.filterMap_eq_nil_iff.mpr fun row member => ?_
    rw [Row.get?_eq_none_iff]
    exact fun held => absent (mem_columnNames.mpr ⟨row, member, held⟩)
  rw [Column.infer, none]
  rfl

theorem columns_ofRecords (id : String) (distinct : header.Nodup) (records : List (List String)) :
    (ofRecords id header records).columns =
      (ofRows id (ofRecords id header records).rows).columns ++
        (Csv.unreached header records).map fun name => ⟨name, .text⟩ := by
  have shown := columnNames_rows distinct records
  have behind : (header.drop (Csv.reach records)).map
      (fun name => Column.infer name (records.map (rowOfRecord header))) =
        (header.drop (Csv.reach records)).map fun name => ⟨name, .text⟩ := by
    refine List.map_congr_left fun name member => infer_of_absent fun early => ?_
    rw [shown] at early
    exact List.disjoint_take_drop distinct (Nat.le_refl _) early member
  rw [ofRecords, ofRows, Csv.unreached_eq_drop, shown, ← behind, ← List.map_append,
    List.take_append_drop]

/-- Each record of a file makes one row, which holds under each name of the header what the record
has in the last place of this name that it reaches. If the names are distinct, the columns are those
of the rows alone and then, as text, those that no record reaches. -/
theorem ofCsv_agrees (id : String) (bytes : List UInt8) (table : List (List String))
    (split : Csv.decodeRecords (Csv.records bytes) = .ok table) :
    let header := table.headD []
    let records := table.tail
    ∃ dataset, ofCsv id bytes = .ok dataset ∧ dataset.id = id ∧
      List.Forall₂ (fun record row => ∀ (column : String) (value : Value),
          row.get? column = some value ↔
            ∃ (index : Nat) (cell : String), header[index]? = some column ∧
              record[index]? = some cell ∧ value = Value.ofCell cell ∧
              ∀ later : Nat, index < later → later < record.length → header[later]? ≠ some column)
        records dataset.rows ∧
      (header.Nodup → dataset.columns = (ofRows id dataset.rows).columns ++
        (Csv.unreached header records).map fun name => ⟨name, .text⟩) := by
  intro header records
  have loaded : ofCsv id bytes = .ok (ofRecords id header records) := by
    unfold ofCsv
    rw [split]
    cases table <;> rfl
  refine ⟨_, loaded, rfl, List.forall₂_map_right_iff.mpr (List.forall₂_same.mpr ?_),
    fun distinct => columns_ofRecords id distinct records⟩
  intro record _ column value
  simp only [get?_rowOfRecord, Option.map_eq_some_iff, Csv.written_eq_some_iff]
  constructor
  · rintro ⟨cell, ⟨index, named, filled, last⟩, rfl⟩
    exact ⟨index, cell, named, filled, rfl, last⟩
  · rintro ⟨index, cell, named, filled, rfl, last⟩
    exact ⟨cell, ⟨index, named, filled, last⟩, rfl⟩

/-- The third column is out of reach for both records, and a blank cell has no say in the type of
the first. -/
theorem ofCsv_agrees_ragged :
    let bytes := "n,m,k\n1\n,yes\n".toUTF8.data.toList
    Csv.decodeRecords (Csv.records bytes) = .ok [["n", "m", "k"], ["1"], ["", "yes"]] ∧
    ["n", "m", "k"].Nodup ∧
    ∃ dataset, ofCsv "ragged" bytes = .ok dataset ∧
      dataset.columns = (ofRows "ragged" dataset.rows).columns ++ [⟨"k", .text⟩] := by
  intro bytes
  have records : Csv.records bytes =
      [[[110], [109], [107]], [[49]], [[], [121, 101, 115]]] := by decide
  have decoded : Csv.decodeRecords (Csv.records bytes) =
      .ok [["n", "m", "k"], ["1"], ["", "yes"]] := by
    rw [records]
    cbv
  obtain ⟨dataset, loaded, -, -, columns⟩ := ofCsv_agrees "ragged" bytes _ decoded
  exact ⟨decoded, by decide, dataset, loaded, columns (by decide)⟩

end Dataset

end Tabular
