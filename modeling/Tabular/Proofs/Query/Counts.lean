import Tabular.Proofs.Csv.Typed
import Tabular.Proofs.Query.Shape

/-! Counts over groups.

A count is the number of the rows of its group that have a numeric view in the counted column. No
row is in two groups and none is left out, so together the counts are those of all rows that the
filters keep. In a column of numbers or truth values the cells that are not null have a numeric
view, so there every cell counts.
-/

set_option autoImplicit false

namespace Tabular

def Row.Counts (name : String) (row : Row) (count : Nat) : Prop :=
  ∃ x, row.get? name = some (.number x) ∧ Number.value x = ((count : ℚ) : WithTop ℚ)

def numericCount (column : String) (rows : List Row) : Nat :=
  rows.countP fun row => !(row.value column).toNumber.isNaN

def filledCount (column : String) (rows : List Row) : Nat :=
  rows.countP fun row => (row.get? column).any fun cell => !cell.isNull

theorem Aggregation.length_numbersIn (rows : List Row) (column : String) :
    (numbersIn rows column).length = numericCount column rows := by
  rw [numbersIn, numericCount, List.filter_map, List.length_map, List.countP_eq_length_filter]
  rfl

theorem deciding_append_cons {before after : List Selection} {selection : Selection}
    (last : ∀ later ∈ after, later.outputName ≠ selection.outputName) :
    deciding (before ++ selection :: after) selection.outputName = some selection := by
  have others : deciding after selection.outputName = none := deciding_eq_none last
  unfold deciding at others
  simp [deciding, List.find?_append, others]

/-- In a typed column the cells with a numeric view are those that are not null. -/
theorem numericCount_eq_filledCount {id : String} {bytes : List UInt8} {dataset : Dataset}
    (loaded : Dataset.ofCsv id bytes = .ok dataset) {column : String} {type : ColumnType}
    (listed : ⟨column, type⟩ ∈ dataset.columns) (typed : type ≠ .text) {rows : List Row}
    (within : ∀ row ∈ rows, row ∈ dataset.rows) :
    numericCount column rows = filledCount column rows := by
  refine List.countP_congr fun row member => ?_
  rw [Dataset.isNaN_of_typed loaded listed typed (within row member), Row.value]
  cases row.get? column with
  | none => simp [Value.isNull]
  | some cell => rfl

namespace Group

variable {columns : List String} {rows : List Row} {group : Group}

theorem length_rows_le (member : group ∈ partition columns rows) :
    group.rows.length ≤ rows.length := by
  rw [rows_eq_of_mem_partition member]
  exact List.length_filter_le _ _

/-- Every row with a numeric view counts in one group. -/
theorem sum_numericCount (columns : List String) (rows : List Row) (column : String) :
    ((partition columns rows).map fun group => numericCount column group.rows).sum =
      numericCount column rows := by
  rw [numericCount, ← (perm_flatMap_partition columns rows).countP_eq, List.countP_flatMap]
  rfl

theorem counts_summary {selections : List Selection} {count : Selection}
    (decided : deciding selections count.outputName = some count)
    (counting : count.aggregation = .count) (few : group.rows.length < 2 ^ 53) :
    Row.Counts count.outputName (summary columns selections group)
      (numericCount count.column group.rows) := by
  refine ⟨Number.ofNat (numericCount count.column group.rows), ?_, ?_⟩
  · rw [get?_summary_of_deciding decided, summarize, counting, ← Aggregation.length_numbersIn]
    rfl
  · exact Number.value_ofNat (Nat.lt_of_le_of_lt List.countP_le_length few)

end Group

theorem exists_perm_orderAndLimit_map {α : Type} (sortBy : Option SortBy) (make : α → Row)
    (items : List α) :
    ∃ sorted : List α, sorted.Perm items ∧
      orderAndLimit sortBy none (items.map make) = sorted.map make := by
  cases sortBy with
  | none => exact ⟨items, .refl _, rfl⟩
  | some sortBy =>
    refine ⟨_, List.mergeSort_perm items fun first second =>
      (sortBy.compare (make first) (make second)).isLE, ?_⟩
    have mapped := List.map_mergeSort (f := make) (l := items)
      (r := fun first second => (sortBy.compare (make first) (make second)).isLE)
      (s := fun first second => (sortBy.compare first second).isLE) fun _ _ _ _ => rfl
    exact mapped.symm

namespace StructuredQuery

theorem exists_groups {query : StructuredQuery} (grouped : query.groupBy ≠ [])
    (aggregated : ∃ selection ∈ query.columns, selection.aggregation ≠ .none)
    (unlimited : query.limit = none) (rows : List Row) :
    ∃ groups : List Group,
      groups.Perm (Group.partition query.groupBy (Filter.keep query.filters rows)) ∧
        query.run rows = groups.map (Group.summary query.groupBy query.columns) := by
  obtain ⟨groups, partitioned, ordered⟩ := exists_perm_orderAndLimit_map query.orderBy
    (Group.summary query.groupBy query.columns)
    (Group.partition query.groupBy (Filter.keep query.filters rows))
  refine ⟨groups, partitioned, ?_⟩
  rw [run, unlimited, shape_grouped grouped aggregated]
  exact ordered

/-- The counts of all result rows add up to the number of kept rows with a numeric view, and in a
typed column each is the number of the rows of its group that hold a value. -/
theorem run_counts (query : StructuredQuery) (rows : List Row) (few : rows.length < 2 ^ 53)
    (before : List Selection) (count : Selection) (after : List Selection)
    (selected : query.columns = before ++ count :: after) (counting : count.aggregation = .count)
    (last : ∀ later ∈ after, later.outputName ≠ count.outputName) (grouped : query.groupBy ≠ [])
    (unlimited : query.limit = none) :
    let kept := Filter.keep query.filters rows
    ∃ groups : List Group, groups.Perm (Group.partition query.groupBy kept) ∧
      query.run rows = groups.map (Group.summary query.groupBy query.columns) ∧
      ∃ counts : List Nat, List.Forall₂ (Row.Counts count.outputName) (query.run rows) counts ∧
        counts.sum = numericCount count.column kept ∧
        ∀ (id : String) (bytes : List UInt8) (dataset : Dataset) (type : ColumnType),
          Dataset.ofCsv id bytes = .ok dataset → (∀ row ∈ rows, row ∈ dataset.rows) →
          ⟨count.column, type⟩ ∈ dataset.columns → type = .number ∨ type = .boolean →
          counts = groups.map fun group => filledCount count.column group.rows := by
  intro kept
  have aggregated : ∃ selection ∈ query.columns, selection.aggregation ≠ .none := by
    refine ⟨count, ?_, by rw [counting]; decide⟩
    rw [selected]
    exact List.mem_append_right _ List.mem_cons_self
  have decided : deciding query.columns count.outputName = some count := by
    rw [selected]
    exact deciding_append_cons last
  obtain ⟨groups, partitioned, result⟩ := exists_groups grouped aggregated unlimited rows
  have subset : ∀ row ∈ kept, row ∈ rows := fun row member => (List.mem_filter.mp member).1
  refine ⟨groups, partitioned, result,
    groups.map fun group => numericCount count.column group.rows, ?_, ?_, ?_⟩
  · rw [result, List.forall₂_map_left_iff, List.forall₂_map_right_iff, List.forall₂_same]
    intro group member
    refine Group.counts_summary decided counting ?_
    calc group.rows.length
      _ ≤ kept.length := Group.length_rows_le (partitioned.mem_iff.mp member)
      _ ≤ rows.length := List.length_filter_le _ _
      _ < 2 ^ 53 := few
  · rw [(partitioned.map _).sum_nat]
    exact Group.sum_numericCount query.groupBy kept count.column
  · intro id bytes dataset type loaded within listed typed
    have real : type ≠ .text := by
      rintro rfl
      simp at typed
    refine List.map_congr_left fun group member => ?_
    refine numericCount_eq_filledCount loaded listed real fun row inside => ?_
    have kept := ((Group.mem_rows_iff (partitioned.mem_iff.mp member)).mp inside).1
    exact within row (subset row kept)

/-- One of the rows under Ulm has nothing in the counted column. The count takes the name of the
grouping column, which the result is ordered by. -/
theorem run_counts_sold :
    let bytes : List UInt8 :=
      [99, 105, 116, 121, 44, 115, 111, 108, 100, 10, 85, 108, 109, 44, 53, 10, 66, 111, 110, 110,
       44, 55, 10, 85, 108, 109, 44, 10]
    let dataset := Dataset.ofRecords "shops" ["city", "sold"]
      [["Ulm", "5"], ["Bonn", "7"], ["Ulm", ""]]
    let count : Selection := ⟨"sold", .count, some "city"⟩
    let query : StructuredQuery :=
      { columns := [count, .plain "sold"]
        groupBy := ["city"]
        orderBy := some ⟨"city", .descending⟩ }
    Dataset.ofCsv "shops" bytes = .ok dataset ∧ dataset.rows.length < 2 ^ 53 ∧
    ⟨"sold", .number⟩ ∈ dataset.columns ∧
    ∃ groups : List Group, groups.Perm (Group.partition ["city"] dataset.rows) ∧
      ∃ counts : List Nat, List.Forall₂ (Row.Counts "city") (query.run dataset.rows) counts ∧
        counts.sum = numericCount "sold" dataset.rows ∧
        counts = groups.map fun group => filledCount "sold" group.rows := by
  intro bytes dataset count query
  have records : Csv.records bytes =
      [[[99, 105, 116, 121], [115, 111, 108, 100]], [[85, 108, 109], [53]], [[66, 111, 110, 110],
       [55]], [[85, 108, 109], []]] := by
    decide
  have loaded : Dataset.ofCsv "shops" bytes = .ok dataset := by
    refine Dataset.ofCsv_of_decoded ?_
    rw [records]
    cbv
  have few : dataset.rows.length < 2 ^ 53 := by decide
  have listed : ⟨"sold", .number⟩ ∈ dataset.columns := by decide
  have last : ∀ later ∈ [Selection.plain "sold"], later.outputName ≠ count.outputName := by decide
  obtain ⟨groups, partitioned, -, counts, counted, total, typed⟩ :=
    run_counts query dataset.rows few [] count [.plain "sold"] rfl rfl last
      (List.cons_ne_nil _ _) rfl
  exact ⟨loaded, few, listed, groups, partitioned, counts, counted, total,
    typed "shops" bytes dataset .number loaded (fun _ member => member) listed (.inl rfl)⟩

end StructuredQuery

end Tabular
