import Tabular.Query.Structured
import Tabular.Sql.Run

/-! Statements as structured queries.

The clauses of a statement, run over the rows that its limit leaves, give what a structured
query gives: its condition is a filter, and its aggregates are selected columns that carry
their output names as labels. Only an aggregate that names no aggregation is outside of this.
-/

set_option autoImplicit false

namespace Tabular.Sql

/-- The filters that a condition stands for; most operators make no filter. -/
def Condition.filters (condition : Condition) : List Filter :=
  if condition.operator ∈ ["=", ">", "<"] then
    [⟨condition.column, Operator.ofName condition.operator, .text condition.value, none⟩]
  else []

def Clauses.filters (clauses : Clauses) : List Filter :=
  clauses.condition.toList.flatMap Condition.filters

def Aggregate.selection (aggregate : Aggregate) : Selection :=
  ⟨aggregate.column, aggregate.function, some aggregate.outputName⟩

theorem Condition.operator?_eq (condition : Condition) :
    condition.operator? =
      if condition.operator ∈ ["=", ">", "<"] then some (Operator.ofName condition.operator)
      else none := by
  unfold Condition.operator?
  split <;> simp_all [Operator.ofName]

theorem keep_no_filters (rows : List Row) : Filter.keep [] rows = rows :=
  List.filter_eq_self.mpr fun _ _ => rfl

theorem Condition.keep_eq_filters (condition : Condition) (rows : List Row) :
    condition.keep rows = Filter.keep condition.filters rows := by
  unfold Condition.keep Condition.filters
  rw [Condition.operator?_eq]
  by_cases known : condition.operator ∈ ["=", ">", "<"]
  · simp only [known, if_true, Filter.keep, List.all_cons, List.all_nil, Bool.and_true]
    rfl
  · simp [known, keep_no_filters]

theorem Clauses.run_eq_filtered (clauses : Clauses) (rows : List Row) :
    clauses.run rows =
      match clauses.groupBy with
      | some column =>
        (Group.partition [column]
          (Filter.keep clauses.filters (takeLimit clauses.limit rows))).map
            (summary column clauses.aggregates)
      | none => Filter.keep clauses.filters (takeLimit clauses.limit rows) := by
  unfold Clauses.run Clauses.filters
  cases clauses.condition with
  | none =>
    rewrite [Option.toList_none, List.flatMap_nil, keep_no_filters]
    rfl
  | some condition =>
    rewrite [Option.toList_some, List.flatMap_singleton, ← condition.keep_eq_filters]
    rfl

theorem selection_summarize {aggregate : Aggregate} (real : aggregate.function ≠ .none)
    (group : Group) :
    group.summarize aggregate.selection =
      .number ((aggregate.function.reduce
        (Aggregation.numbersIn group.rows aggregate.column)).getD (Number.ofNat 0)) := by
  cases reduced : aggregate.function.reduce
      (Aggregation.numbersIn group.rows aggregate.column) with
  | none => exact absurd (Aggregation.reduce_eq_none_iff.mp reduced) real
  | some number => simp only [Group.summarize, Aggregate.selection, reduced, Option.getD_some]

/-- Both kinds of query write the row of a group by the same insertions. -/
theorem summary_eq_structured (column : String) {aggregates : List Aggregate}
    (real : ∀ aggregate ∈ aggregates, aggregate.function ≠ .none) (group : Group) :
    summary column aggregates group =
      Group.summary [column] (aggregates.map Aggregate.selection) group := by
  have pairs : (aggregates.map Aggregate.selection).map (fun selection =>
      (selection.outputName, group.summarize selection)) =
      aggregates.map fun aggregate => (aggregate.outputName,
        .number ((aggregate.function.reduce
          (Aggregation.numbersIn group.rows aggregate.column)).getD (Number.ofNat 0))) := by
    rw [List.map_map]
    apply List.map_congr_left
    intro aggregate member
    rw [Function.comp_apply, selection_summarize (real aggregate member)]
    rfl
  unfold summary Group.summary
  rw [pairs]
  rfl

theorem aggregates_selection {aggregates : List Aggregate} (some : aggregates ≠ [])
    (real : ∀ aggregate ∈ aggregates, aggregate.function ≠ .none) :
    (aggregates.map Aggregate.selection).any (fun selection => selection.aggregation != .none) =
      true := by
  obtain ⟨first, rest, rfl⟩ := List.exists_cons_of_ne_nil some
  have reduces := real first List.mem_cons_self
  simp [Aggregate.selection, reduces]

theorem runOn_resident {find : String → Option Dataset} {statement table : String}
    {dataset : Dataset} (named : (Clauses.ofStatement statement).source = some table)
    (resident : find table = some dataset) :
    runOn find statement = (Clauses.ofStatement statement).run dataset.rows := by
  simp only [runOn, named, Option.bind_some, resident]

/-- A statement gives what the structured query of its clauses gives on the rows within its
limit, whichever way its datasets are found. -/
theorem runOn_eq_structured (find : String → Option Dataset) (statement table : String)
    (dataset : Dataset) (named : (Clauses.ofStatement statement).source = some table)
    (resident : find table = some dataset) :
    let clauses := Clauses.ofStatement statement
    let limited := takeLimit clauses.limit dataset.rows
    (clauses.groupBy = none →
      runOn find statement = StructuredQuery.run { filters := clauses.filters } limited) ∧
    ∀ column, clauses.groupBy = some column → clauses.aggregates ≠ [] →
      (∀ aggregate ∈ clauses.aggregates, aggregate.function ≠ .none) →
      runOn find statement = StructuredQuery.run
        { columns := clauses.aggregates.map Aggregate.selection, filters := clauses.filters,
          groupBy := [column] } limited := by
  intro clauses limited
  rw [runOn_resident named resident, clauses.run_eq_filtered]
  constructor
  · intro ungrouped
    rw [ungrouped]
    rfl
  · -- One real aggregation is enough for the structured query to group as well.
    intro column grouped some real
    rw [grouped]
    have aggregates := aggregates_selection some real
    simp only [StructuredQuery.run, StructuredQuery.shape, StructuredQuery.aggregates, aggregates]
    exact List.map_congr_left fun group _ => summary_eq_structured column real group

set_option maxRecDepth 4000 in
/-- The sum takes the name of the grouping column, and takes its place in the result. -/
theorem runOn_colliding_names :
    let statement :=
      "SELECT SUM(revenue) AS region FROM \"sales\" WHERE revenue > 60 GROUP BY region LIMIT 2"
    let sales : Dataset := .ofRows "sales"
      [.ofList [("region", .text "North"), ("revenue", .number (Number.ofNat 100))],
        .ofList [("region", .text "South"), ("revenue", .number (Number.ofNat 50))],
        .ofList [("region", .text "North"), ("revenue", .number (Number.ofNat 75))]]
    (Clauses.ofStatement statement).source = some "sales" ∧
    (Clauses.ofStatement statement).groupBy = some "region" ∧
    runOn (fun id => if id = "sales" then some sales else none) statement = StructuredQuery.run
      { columns := [⟨"revenue", .sum, some "region"⟩],
        filters := [⟨"revenue", .greaterThan, .text "60", none⟩],
        groupBy := ["region"] } (sales.rows.take 2) := by
  intro statement sales
  have clauses : Clauses.ofStatement statement =
      ⟨some "sales", some 2, some ⟨"revenue", ">", "60"⟩, some "region",
        [⟨.sum, "revenue", some "region"⟩]⟩ := by
    decide
  have named : (Clauses.ofStatement statement).source = some "sales" := by rw [clauses]
  have grouped : (Clauses.ofStatement statement).groupBy = some "region" := by rw [clauses]
  have agrees := (runOn_eq_structured (fun id => if id = "sales" then some sales else none)
    statement "sales" sales named (if_pos rfl)).2 "region" grouped
  rw [clauses] at agrees
  refine ⟨named, grouped, agrees (List.cons_ne_nil _ _) ?_⟩
  decide

end Tabular.Sql
