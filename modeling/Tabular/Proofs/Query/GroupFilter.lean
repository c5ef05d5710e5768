import Tabular.Proofs.Query.Comparison
import Tabular.Proofs.Query.Groups
import Tabular.Proofs.Query.Shape
import Tabular.Proofs.Query.Whole

/-! Text filters on the grouping column.

A text predicate reads a cell through what it displays and in no other way, and what a row displays
in the only grouping column is its key. So a text filter on that column holds of all rows of a group
or of none, and groups are kept or left out whole. It may as well come after the grouping, for the
row of a group displays the key in the grouping column unless a selected column takes the name.
-/

set_option autoImplicit false

namespace Tabular

theorem Operator.holds_of_display {operator : Operator}
    (textual : operator ∈ [contains, startsWith, endsWith]) (cell operand : Value)
    (high : Option Value) :
    operator.holds cell operand high = operator.holds (.text cell.display) operand high := by
  fin_cases textual <;> rfl

namespace Group

variable {columns : List String} {rows : List Row} {column : String}

theorem keyOf_singleton (column : String) (row : Row) :
    keyOf [column] row = (row.value column).display := rfl

theorem partition_filter (columns : List String) (test : String → Bool) (rows : List Row) :
    partition columns (rows.filter fun row => test (keyOf columns row)) =
      (partition columns rows).filter fun group => test group.key := by
  have keys : (rows.filter fun row => test (keyOf columns row)).map (keyOf columns) =
      (rows.map (keyOf columns)).filter test := List.filter_map.symm
  have whole : ∀ key ∈ (firstSeen (rows.map (keyOf columns))).filter test,
      classOf columns (rows.filter fun row => test (keyOf columns row)) key =
        classOf columns rows key := by
    intro key member
    have kept : ∀ row ∈ rows, (keyOf columns row == key && test (keyOf columns row)) =
        (keyOf columns row == key) := by
      intro row _
      by_cases same : keyOf columns row = key
      · simp [same, (List.mem_filter.mp member).2]
      · simp [same]
    rw [classOf, classOf, List.filter_filter, List.filter_congr kept]
  refine classes_injective ?_
  rw [classes_filter, classes_partition, classes_partition, keys, firstSeen_filter,
    List.map_congr_left whole, List.filter_map]
  rfl

theorem keyOf_first {group : Group} (member : group ∈ partition columns rows) :
    keyOf columns group.first = group.key :=
  ((mem_rows_iff member).mp List.mem_cons_self).2

end Group

theorem Filter.accepts_summary {filter : Filter} {selections : List Selection}
    (free : ∀ selection ∈ selections, selection.outputName ≠ filter.column) (group : Group) :
    filter.accepts (Group.summary [filter.column] selections group) =
      filter.accepts group.first := by
  have shown := Group.get?_summary_of_undecided (deciding_eq_none free)
    (List.mem_singleton_self filter.column) group
  rw [accepts, accepts, Row.value, shown, Option.getD_some]

section TextFilter

variable {filter : Filter} (textual : filter.operator ∈ [.contains, .startsWith, .endsWith])

include textual

/-- A text filter on the grouping column goes by the key. -/
theorem Filter.accepts_eq_of_textual (row : Row) :
    filter.accepts row =
      filter.operator.holds (.text (Group.keyOf [filter.column] row)) filter.value
        filter.high := by
  rw [accepts, Group.keyOf_singleton]
  exact Operator.holds_of_display textual _ _ _

theorem Group.partition_keep (rows : List Row) :
    partition [filter.column] (Filter.keep [filter] rows) =
      (partition [filter.column] rows).filter fun group => filter.accepts group.first := by
  have kept : Filter.keep [filter] rows = rows.filter fun row =>
      filter.operator.holds (.text (keyOf [filter.column] row)) filter.value filter.high := by
    refine List.filter_congr fun row _ => ?_
    rw [List.all_cons, List.all_nil, Bool.and_true, Filter.accepts_eq_of_textual textual]
  rw [kept, partition_filter [filter.column] fun key =>
    filter.operator.holds (.text key) filter.value filter.high]
  refine List.filter_congr fun group member => ?_
  rw [Filter.accepts_eq_of_textual textual, keyOf_first member]

theorem Group.aggregate_keep {selections : List Selection}
    (free : ∀ selection ∈ selections, selection.outputName ≠ filter.column) (rows : List Row) :
    aggregate [filter.column] selections (Filter.keep [filter] rows) =
      Filter.keep [filter] (aggregate [filter.column] selections rows) := by
  rw [aggregate, aggregate, partition_keep textual, Filter.keep, List.filter_map]
  congr 1
  refine List.filter_congr fun group _ => ?_
  rw [Function.comp_apply, List.all_cons, List.all_nil, Bool.and_true,
    Filter.accepts_summary free]

end TextFilter

/-- A text filter on the only grouping column may come before the grouping or after it, in whatever
order the result is. Groups survive it whole or vanish. -/
theorem StructuredQuery.run_text_filter (query : StructuredQuery) (column : String)
    (filter : Filter) (rows : List Row) (grouped : query.groupBy = [column])
    (aggregated : ∃ selection ∈ query.columns, selection.aggregation ≠ .none)
    (free : ∀ selection ∈ query.columns, selection.outputName ≠ column)
    (unlimited : query.limit = none) (reads : filter.column = column)
    (textual : filter.operator ∈ [.contains, .startsWith, .endsWith]) :
    (query.filteredBy (query.filters ++ [filter])).run rows =
        Filter.keep [filter] (query.run rows) ∧
      Group.partition [column] (Filter.keep (query.filters ++ [filter]) rows) =
        (Group.partition [column] (Filter.keep query.filters rows)).filter fun group =>
          filter.accepts group.first := by
  subst reads
  have nonempty : query.groupBy ≠ [] := grouped ▸ List.cons_ne_nil _ _
  constructor
  · calc (query.filteredBy (query.filters ++ [filter])).run rows
      _ = orderAndLimit query.orderBy none (Group.aggregate [filter.column] query.columns
            (Filter.keep [filter] (Filter.keep query.filters rows))) := by
        rw [run_filteredBy, unlimited, shape_grouped nonempty aggregated, grouped,
          Filter.keep_append]
      _ = Filter.keep [filter] (orderAndLimit query.orderBy none
            (Group.aggregate [filter.column] query.columns (Filter.keep query.filters rows))) := by
        rw [Group.aggregate_keep textual free, Filter.keep_orderAndLimit]
      _ = Filter.keep [filter] (query.run rows) := by
        rw [run, unlimited, shape_grouped nonempty aggregated, grouped]
  · rw [Filter.keep_append]
    exact Group.partition_keep textual _

/-- A truth value and the text of its name are in one group, which is kept, with the first of them
in its row. -/
theorem StructuredQuery.run_text_filter_truth_value :
    let yes := Row.ofList [("open", .boolean true), ("sold", .text "5")]
    let no := Row.ofList [("open", .text "no"), ("sold", .text "7")]
    let word := Row.ofList [("open", .text "true"), ("sold", .text "n/a")]
    let query : StructuredQuery :=
      { columns := [⟨"sold", .count, none⟩, ⟨"open", .none, some "door"⟩]
        groupBy := ["open"]
        orderBy := some ⟨"sold", .descending⟩ }
    let filter : Filter := ⟨"open", .endsWith, .text "UE", none⟩
    query.groupBy = ["open"] ∧ (∃ selection ∈ query.columns, selection.aggregation ≠ .none) ∧
      (∀ selection ∈ query.columns, selection.outputName ≠ "open") ∧ query.limit = none ∧
      filter.column = "open" ∧ filter.operator ∈ [.contains, .startsWith, .endsWith] ∧
      (query.filteredBy [filter]).run [yes, no, word] =
        Filter.keep [filter] (query.run [yes, no, word]) ∧
      Group.partition ["open"] (Filter.keep [filter] [yes, no, word]) =
        [⟨"true", yes, [word]⟩] := by
  intro yes no word query filter
  have aggregated : ∃ selection ∈ query.columns, selection.aggregation ≠ .none :=
    ⟨⟨"sold", .count, none⟩, List.mem_cons_self, by decide⟩
  have free : ∀ selection ∈ query.columns, selection.outputName ≠ "open" := by decide
  have textual : filter.operator ∈ [.contains, .startsWith, .endsWith] := by decide
  obtain ⟨same, groups⟩ :=
    run_text_filter query "open" filter [yes, no, word] rfl aggregated free rfl rfl textual
  exact ⟨rfl, aggregated, free, rfl, rfl, textual, same, groups.trans (by decide)⟩

end Tabular
