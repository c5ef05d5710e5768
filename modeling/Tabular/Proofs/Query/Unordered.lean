import Tabular.Proofs.Query.Shape
import Tabular.Proofs.Query.Whole

/-! Ordering by a column that the result does not have.

A result has a column for each selected name, and with grouping one for each grouping column as
well. Rows are ordered by what they hold in the result. A column that is none of these reads as
null in every row, whatever the source rows hold there, so all rows are level and stay as they are.
-/

set_option autoImplicit false

namespace Tabular

/-! ## Level rows -/

namespace SortBy

variable {sortBy : SortBy} {rows : List Row}

theorem compare_of_missing {first second : Row} (missing : first.get? sortBy.column = none)
    (alsoMissing : second.get? sortBy.column = none) : sortBy.compare first second = .eq := by
  have same : first.value sortBy.column = second.value sortBy.column := by
    rw [Row.value, Row.value, missing, alsoMissing]
  have level : (second.value sortBy.column).order (second.value sortBy.column) = .eq :=
    Std.ReflCmp.compare_self
  rw [compare, same, level]
  cases sortBy.direction <;> rfl

theorem sort_of_missing (missing : ∀ row ∈ rows, row.get? sortBy.column = none) :
    sortBy.sort rows = rows := by
  apply sort_of_pairwise
  apply List.pairwise_of_forall_mem_list
  intro first left second right
  rw [InOrder, compare_of_missing (missing first left) (missing second right)]
  rfl

end SortBy

/-! ## The columns of a result -/

namespace StructuredQuery

inductive Outputs (query : StructuredQuery) (name : String) : Prop where
  | selected (member : name ∈ query.columns.map Selection.outputName) : Outputs query name
  | grouping (member : name ∈ query.groupBy)
      (aggregated : ∃ selection ∈ query.columns, selection.aggregation ≠ .none) :
      Outputs query name

variable {query : StructuredQuery} {rows : List Row} {row : Row} {name : String}

theorem outputs_iff_of_plain
    (plain : query.groupBy = [] ∨ ∀ selection ∈ query.columns, selection.aggregation = .none) :
    query.Outputs name ↔ name ∈ query.columns.map Selection.outputName := by
  constructor
  · intro outputs
    cases outputs with
    | selected member => exact member
    | grouping member aggregated =>
      obtain ⟨selection, listed, real⟩ := aggregated
      rcases plain with ungrouped | plain
      · rw [ungrouped] at member
        cases member
      · exact absurd (plain selection listed) real
  · exact .selected

theorem outputs_iff_of_aggregated
    (aggregated : ∃ selection ∈ query.columns, selection.aggregation ≠ .none) :
    query.Outputs name ↔ name ∈ query.groupBy ++ query.columns.map Selection.outputName := by
  rw [List.mem_append]
  constructor
  · intro outputs
    cases outputs with
    | selected member => exact .inr member
    | grouping member => exact .inl member
  · rintro (member | member)
    · exact .grouping member aggregated
    · exact .selected member

/-- Every row of a result has the same columns, which the source rows have no say in. -/
theorem mem_columns_shape_iff (selected : query.columns ≠ []) (member : row ∈ query.shape rows) :
    name ∈ row.columns ↔ query.Outputs name := by
  -- A result of groups has a summary for each of them, and every other one is a projection.
  by_cases grouped : query.groupBy ≠ [] ∧
      ∃ selection ∈ query.columns, selection.aggregation ≠ .none
  · obtain ⟨nonempty, aggregated⟩ := grouped
    rw [shape_grouped nonempty aggregated, Group.aggregate] at member
    obtain ⟨group, -, rfl⟩ := List.mem_map.mp member
    rw [(summaryOf_summary query.groupBy query.columns group).names, mem_firstSeen,
      outputs_iff_of_aggregated aggregated]
  · have plain : query.groupBy = [] ∨
        ∀ selection ∈ query.columns, selection.aggregation = .none := by
      by_contra neither
      push Not at neither
      exact grouped neither
    rw [shape_projected selected plain] at member
    obtain ⟨source, -, rfl⟩ := List.mem_map.mp member
    rw [(projectionOf_project query.columns source).names, mem_firstSeen,
      outputs_iff_of_plain plain]

theorem get?_of_not_outputs (selected : query.columns ≠ []) (foreign : ¬query.Outputs name)
    (member : row ∈ query.shape rows) : row.get? name = none := by
  rw [Row.get?_eq_none_iff, mem_columns_shape_iff selected member]
  exact foreign

/-- A query that is ordered by a column which its result does not have gives what it gives without
any order: the rows in the order in which they are made, up to the limit. -/
theorem run_unordered (query : StructuredQuery) (rows : List Row) (selected : query.columns ≠ [])
    (sortBy : SortBy) (ordered : query.orderBy = some sortBy)
    (foreign : ¬query.Outputs sortBy.column) :
    query.run rows = ({ query with orderBy := none } : StructuredQuery).run rows ∧
      query.run rows =
        takeLimit query.limit (query.shape (Filter.keep query.filters rows)) ∧
      ∀ row ∈ query.run rows, row.get? sortBy.column = none := by
  have missing : ∀ row ∈ query.shape (Filter.keep query.filters rows),
      row.get? sortBy.column = none :=
    fun row member => get?_of_not_outputs selected foreign member
  have whole : query.run rows =
      takeLimit query.limit (query.shape (Filter.keep query.filters rows)) := by
    rw [run, ordered, orderAndLimit, SortBy.sort_of_missing missing]
  refine ⟨whole, whole, fun row member => ?_⟩
  rw [whole] at member
  exact missing row (mem_of_mem_takeLimit member)

/-- The source rows hold the numbers that were sold, and the result counts them under another
name, so the two towns stay as they are first seen. -/
theorem run_unordered_sold :
    let rows := [Row.ofList [("town", .text "Bonn"), ("sold", .number (Number.ofNat 1))],
      Row.ofList [("town", .text "Ulm"), ("sold", .number (Number.ofNat 9))],
      Row.ofList [("town", .text "Bonn"), ("sold", .number (Number.ofNat 5))]]
    let query : StructuredQuery :=
      { columns := [⟨"sold", .count, some "times"⟩], groupBy := ["town"]
        orderBy := some ⟨"sold", .descending⟩, limit := some 2 }
    query.columns ≠ [] ∧ query.orderBy = some ⟨"sold", .descending⟩ ∧ ¬query.Outputs "sold" ∧
      query.run rows = ({ query with orderBy := none } : StructuredQuery).run rows := by
  intro rows query
  have selected : query.columns ≠ [] := List.cons_ne_nil _ _
  have foreign : ¬query.Outputs "sold" := by
    rintro (member | ⟨member, -⟩) <;> revert member <;> decide
  exact ⟨selected, rfl, foreign, (run_unordered query rows selected _ rfl foreign).1⟩

end StructuredQuery

end Tabular
