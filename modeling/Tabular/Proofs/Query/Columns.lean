import Mathlib.Data.List.Forall2
import Tabular.Proofs.Query.Partition
import Tabular.Query.Structured

/-! The columns that a query reads.

A query with selected columns reads its rows through the values in these columns and in no other
way. So rows that agree there give one result, whatever else they hold, in whatever order their
columns stand, and whether a null is there or missing. The ordering of a result is no exception,
for it reads the columns of the result.
-/

set_option autoImplicit false

namespace Tabular

def Row.Agree (columns : List String) (row other : Row) : Prop :=
  ∀ column ∈ columns, row.value column = other.value column

variable {columns : List String} {row other : Row} {rows others : List Row}

theorem map_eq_of_agree {β : Type} {f : Row → β}
    (agree : List.Forall₂ (Row.Agree columns) rows others)
    (same : ∀ row other, Row.Agree columns row other → f row = f other) :
    rows.map f = others.map f := by
  rw [← List.forall₂_eq_eq_eq, List.forall₂_map_left_iff, List.forall₂_map_right_iff]
  exact agree.imp same

theorem agree_filter {test : Row → Bool} (agree : List.Forall₂ (Row.Agree columns) rows others)
    (same : ∀ row other, Row.Agree columns row other → test row = test other) :
    List.Forall₂ (Row.Agree columns) (rows.filter test) (others.filter test) :=
  List.rel_filter (fun row other paired => Bool.eq_iff_iff.mp (same row other paired)) agree

namespace Filter

theorem accepts_eq_of_agree {filter : Filter} (read : filter.column ∈ columns)
    (agree : Row.Agree columns row other) : filter.accepts row = filter.accepts other := by
  rw [accepts, accepts, agree filter.column read]

theorem agree_keep {filters : List Filter} (read : ∀ filter ∈ filters, filter.column ∈ columns)
    (agree : List.Forall₂ (Row.Agree columns) rows others) :
    List.Forall₂ (Row.Agree columns) (keep filters rows) (keep filters others) := by
  refine agree_filter agree fun row other paired => ?_
  rw [Bool.eq_iff_iff, List.all_eq_true, List.all_eq_true]
  exact forall₂_congr fun filter member => by rw [accepts_eq_of_agree (read filter member) paired]

end Filter

theorem Aggregation.numbersIn_eq_of_agree {column : String} (read : column ∈ columns)
    (agree : List.Forall₂ (Row.Agree columns) rows others) :
    numbersIn rows column = numbersIn others column := by
  have numbers := map_eq_of_agree agree (f := fun row => (row.value column).toNumber)
    fun row other same => congrArg Value.toNumber (same column read)
  rw [numbersIn, numbersIn, numbers]

theorem Selection.project_eq_of_agree {selections : List Selection}
    (read : ∀ selection ∈ selections, selection.column ∈ columns)
    (agree : Row.Agree columns row other) :
    project selections row = project selections other := by
  have cells :
      selections.map (fun selection => (selection.outputName, row.value selection.column)) =
        selections.map fun selection => (selection.outputName, other.value selection.column) :=
    List.map_congr_left fun selection member => by rw [agree _ (read selection member)]
  rw [project, project, cells]

namespace Group

variable {groupBy : List String} {selections : List Selection}

theorem keyOf_eq_of_agree (read : groupBy ⊆ columns) (agree : Row.Agree columns row other) :
    keyOf groupBy row = keyOf groupBy other := by
  have values : groupBy.map (fun column => (row.value column).display) =
      groupBy.map fun column => (other.value column).display :=
    List.map_congr_left fun column member => by rw [agree column (read member)]
  rw [keyOf, keyOf, values]

/-- Agreeing rows fall into the same groups, and the groups have agreeing rows. -/
theorem agree_partition (read : groupBy ⊆ columns)
    (agree : List.Forall₂ (Row.Agree columns) rows others) :
    List.Forall₂ (fun group same => List.Forall₂ (Row.Agree columns) group.rows same.rows)
      (partition groupBy rows) (partition groupBy others) := by
  have keys : rows.map (keyOf groupBy) = others.map (keyOf groupBy) :=
    map_eq_of_agree agree fun row other => keyOf_eq_of_agree read
  have classed : List.Forall₂ (fun kept same => List.Forall₂ (Row.Agree columns) kept.2 same.2)
      (classes (partition groupBy rows)) (classes (partition groupBy others)) := by
    rw [classes_partition, classes_partition, keys, List.forall₂_map_left_iff,
      List.forall₂_map_right_iff, List.forall₂_same]
    exact fun key _ => agree_filter agree fun row other paired => by
      rw [keyOf_eq_of_agree read paired]
  rwa [classes, classes, List.forall₂_map_left_iff, List.forall₂_map_right_iff] at classed

theorem summarize_eq_of_agree {group same : Group} {selection : Selection}
    (read : selection.column ∈ columns)
    (agree : List.Forall₂ (Row.Agree columns) group.rows same.rows) :
    group.summarize selection = same.summarize selection := by
  have first := (List.forall₂_cons.mp agree).1
  rw [summarize, summarize, Aggregation.numbersIn_eq_of_agree read agree,
    first selection.column read]

theorem summary_eq_of_agree {group same : Group} (grouping : groupBy ⊆ columns)
    (read : ∀ selection ∈ selections, selection.column ∈ columns)
    (agree : List.Forall₂ (Row.Agree columns) group.rows same.rows) :
    summary groupBy selections group = summary groupBy selections same := by
  have first := (List.forall₂_cons.mp agree).1
  have keyed : groupBy.map (fun column => (column, group.first.value column)) =
      groupBy.map fun column => (column, same.first.value column) :=
    List.map_congr_left fun column member => by rw [first column (grouping member)]
  have cells : selections.map (fun selection => (selection.outputName, group.summarize selection)) =
      selections.map fun selection => (selection.outputName, same.summarize selection) :=
    List.map_congr_left fun selection member => by
      rw [summarize_eq_of_agree (read selection member) agree]
  rw [summary, summary, keyed, cells]

theorem aggregate_eq_of_agree (grouping : groupBy ⊆ columns)
    (read : ∀ selection ∈ selections, selection.column ∈ columns)
    (agree : List.Forall₂ (Row.Agree columns) rows others) :
    aggregate groupBy selections rows = aggregate groupBy selections others := by
  rw [aggregate, aggregate, ← List.forall₂_eq_eq_eq, List.forall₂_map_left_iff,
    List.forall₂_map_right_iff]
  exact (agree_partition grouping agree).imp fun group same => summary_eq_of_agree grouping read

end Group

namespace StructuredQuery

/-- The columns of the filters, the selected columns and the grouping columns. -/
def reads (query : StructuredQuery) : List String :=
  query.filters.map Filter.column ++ query.columns.map Selection.column ++ query.groupBy

theorem shape_eq_of_agree {query : StructuredQuery} (selected : query.columns ≠ [])
    (agree : List.Forall₂ (Row.Agree query.reads) rows others) :
    query.shape rows = query.shape others := by
  have read : ∀ selection ∈ query.columns, selection.column ∈ query.reads := by
    intro selection member
    simp only [reads, List.mem_append]
    exact .inl (.inr (List.mem_map_of_mem member))
  unfold shape
  split
  · exact Group.aggregate_eq_of_agree (List.subset_append_right _ _) read agree
  · -- Rows that are left whole would show their other columns.
    have nonempty : query.columns.isEmpty = false := List.isEmpty_eq_false_iff.mpr selected
    rw [Selection.projectAll, Selection.projectAll, nonempty]
    exact map_eq_of_agree agree fun row other => Selection.project_eq_of_agree read

/-- Rows that agree in the columns that a query reads give one result. -/
theorem run_eq_of_agree (query : StructuredQuery) (selected : query.columns ≠ [])
    (rows others : List Row)
    (agree : List.Forall₂
      (fun row other => ∀ column ∈ query.reads, row.value column = other.value column)
      rows others) :
    query.run rows = query.run others := by
  have read : ∀ filter ∈ query.filters, filter.column ∈ query.reads := by
    intro filter member
    simp only [reads, List.mem_append]
    exact .inl (.inl (List.mem_map_of_mem member))
  rw [run, run, shape_eq_of_agree selected (Filter.agree_keep read agree)]

/-- The other rows name the columns in another order, leave out a null, and hold a column that
the result is ordered by but that is not in it. -/
theorem run_eq_of_agree_rearranged :
    let query : StructuredQuery :=
      { columns := [⟨"revenue", .count, some "sold"⟩]
        filters := [⟨"open", .notEquals, .null, none⟩]
        groupBy := ["city"]
        orderBy := some ⟨"size", .descending⟩
        limit := some 2 }
    let rows := [Row.ofList [("city", .text "Ulm"), ("open", .boolean true), ("revenue", .null)],
      Row.ofList [("open", .text "no"), ("city", .text "Bonn"), ("revenue", .text "5")]]
    let others := [
      Row.ofList [("size", .text "small"), ("open", .boolean true), ("city", .text "Ulm")],
      Row.ofList [("revenue", .text "5"), ("open", .text "no"), ("size", .text "tall"),
        ("city", .text "Bonn")]]
    query.columns ≠ [] ∧
    List.Forall₂ (fun row other => ∀ column ∈ query.reads, row.value column = other.value column)
      rows others ∧
    query.run rows = query.run others := by
  intro query rows others
  have selected : query.columns ≠ [] := List.cons_ne_nil _ _
  have agree : List.Forall₂
      (fun row other => ∀ column ∈ query.reads, row.value column = other.value column)
      rows others := by
    refine .cons ?_ (.cons ?_ .nil) <;> decide
  exact ⟨selected, agree, run_eq_of_agree query selected rows others agree⟩

end StructuredQuery

end Tabular
