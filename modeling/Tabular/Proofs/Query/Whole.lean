import Tabular.Proofs.Query.Sorted

/-! Queries that leave rows whole.

A query without selected columns filters, orders and cuts its rows and changes none of them, so
grouping columns have no effect on it. A filter looks at one row at a time and may as well come
after the ordering. What such a query gives meets the filters, stands in order and is within the
limit, and rows of which that holds are left as they are.
-/

set_option autoImplicit false

namespace Tabular

/-! ## The stages -/

theorem Filter.keep_append (filters others : List Filter) (rows : List Row) :
    keep (filters ++ others) rows = keep others (keep filters rows) := by
  simp only [keep, List.filter_filter, List.all_append, Bool.and_comm]

theorem Filter.keep_eq_self_iff {filters : List Filter} {rows : List Row} :
    keep filters rows = rows ↔ ∀ row ∈ rows, ∀ filter ∈ filters, filter.accepts row = true := by
  simp only [keep, List.filter_eq_self, List.all_eq_true]

theorem mem_of_mem_takeLimit {limit : Option Nat} {rows : List Row} {row : Row}
    (member : row ∈ takeLimit limit rows) : row ∈ rows := by
  rw [takeLimit_eq_take] at member
  exact List.mem_of_mem_take member

theorem takeLimit_eq_self_iff {limit : Option Nat} {rows : List Row} :
    takeLimit limit rows = rows ↔ ∀ count ∈ limit, rows.length ≤ count := by
  cases limit with
  | none => simp [takeLimit]
  | some count => simp [takeLimit, List.take_eq_self_iff]

theorem Filter.keep_orderAndLimit (filters : List Filter) (sortBy : Option SortBy)
    (rows : List Row) :
    orderAndLimit sortBy none (keep filters rows) =
      keep filters (orderAndLimit sortBy none rows) := by
  cases sortBy with
  | none => rfl
  | some sortBy => exact sortBy.sort_filter _ rows

theorem mem_orderAndLimit {sortBy : Option SortBy} {limit : Option Nat} {rows : List Row}
    {row : Row} (member : row ∈ orderAndLimit sortBy limit rows) : row ∈ rows := by
  have kept := mem_of_mem_takeLimit member
  cases sortBy with
  | none => exact kept
  | some sortBy => exact (sortBy.stablySorted_sort rows).perm.mem_iff.mp kept

theorem pairwise_orderAndLimit (sortBy : SortBy) (limit : Option Nat) (rows : List Row) :
    (orderAndLimit (some sortBy) limit rows).Pairwise (InOrder sortBy.compare) := by
  have ordered := (sortBy.stablySorted_sort rows).pairwise
  rw [orderAndLimit, takeLimit_eq_take]
  exact ordered.sublist (List.take_sublist _ _)

theorem orderAndLimit_eq_self {sortBy : Option SortBy} {limit : Option Nat} {rows : List Row}
    (ordered : ∀ given ∈ sortBy, rows.Pairwise (InOrder given.compare))
    (within : ∀ count ∈ limit, rows.length ≤ count) : orderAndLimit sortBy limit rows = rows := by
  cases sortBy with
  | none => exact takeLimit_eq_self_iff.mpr within
  | some sortBy =>
    rw [orderAndLimit, SortBy.sort_of_pairwise (ordered sortBy rfl)]
    exact takeLimit_eq_self_iff.mpr within

namespace StructuredQuery

theorem shape_whole {query : StructuredQuery} (whole : query.columns = []) (rows : List Row) :
    query.shape rows = rows := by
  simp [shape, aggregates, Selection.projectAll, whole]

theorem run_whole {query : StructuredQuery} (whole : query.columns = []) (rows : List Row) :
    query.run rows =
      orderAndLimit query.orderBy query.limit (Filter.keep query.filters rows) := by
  rw [run, shape_whole whole]

theorem run_ordered (groupBy : List String) (sortBy : Option SortBy) (rows : List Row) :
    ({ groupBy, orderBy := sortBy } : StructuredQuery).run rows =
      orderAndLimit sortBy none rows := by
  have unfiltered : Filter.keep [] rows = rows :=
    Filter.keep_eq_self_iff.mpr fun _ _ => List.forall_mem_nil _
  rw [run_whole rfl rows, unfiltered]

/-- Filtering before the ordering and after it gives the same rows in the same order, namely in the
one order of the kept rows in which rows level in the column stand as they stood. -/
theorem run_filters_after_order (rows : List Row) (filters : List Filter) (groupBy : List String) :
    (∀ sortBy : Option SortBy,
      ({ filters, groupBy, orderBy := sortBy } : StructuredQuery).run rows =
        Filter.keep filters (({ groupBy, orderBy := sortBy } : StructuredQuery).run rows)) ∧
    ∀ sortBy : SortBy,
      sortBy.Sorts (Filter.keep filters rows)
        (Filter.keep filters
          (({ groupBy, orderBy := some sortBy } : StructuredQuery).run rows)) := by
  refine ⟨fun sortBy => ?_, fun sortBy => ?_⟩
  · rw [run_ordered, run_whole rfl rows]
    exact Filter.keep_orderAndLimit filters sortBy rows
  · rw [run_ordered, sortBy.sorts_iff_stablySorted]
    exact (sortBy.stablySorted_sort rows).filter _

/-- Rows that meet the filters of a query, stand in its order and are within its limit. -/
structure Settled (query : StructuredQuery) (rows : List Row) : Prop where
  met : ∀ row ∈ rows, ∀ filter ∈ query.filters, filter.accepts row = true
  ordered : ∀ sortBy ∈ query.orderBy, rows.Pairwise (InOrder sortBy.compare)
  within : ∀ count ∈ query.limit, rows.length ≤ count

theorem settled_run {query : StructuredQuery} (whole : query.columns = []) (rows : List Row) :
    query.Settled (query.run rows) := by
  rw [run_whole whole]
  refine ⟨fun row member filter listed => ?_, fun sortBy given => ?_, fun count given => ?_⟩
  · have kept := (List.mem_filter.mp (mem_orderAndLimit member)).2
    exact List.all_eq_true.mp kept filter listed
  · rw [Option.mem_def.mp given]
    exact pairwise_orderAndLimit sortBy _ _
  · rw [Option.mem_def.mp given]
    exact List.length_take_le _ _

/-- A query without selected columns leaves just those rows as they are that are settled. -/
theorem run_eq_self_iff {query : StructuredQuery} (whole : query.columns = []) {rows : List Row} :
    query.run rows = rows ↔ query.Settled rows := by
  constructor
  · intro same
    exact same ▸ settled_run whole rows
  · rintro ⟨met, ordered, within⟩
    rw [run_whole whole, Filter.keep_eq_self_iff.mpr met]
    exact orderAndLimit_eq_self ordered within

/-- A query without selected columns changes nothing on its own result, which meets its filters,
stands in its order and is within its limit. -/
theorem run_idempotent (query : StructuredQuery) (whole : query.columns = []) (rows : List Row) :
    query.run (query.run rows) = query.run rows ∧
      (query.run rows = rows ↔ query.Settled rows) :=
  ⟨(run_eq_self_iff whole).mpr (settled_run whole rows), run_eq_self_iff whole⟩

/-- The shops of Ulm by what they have sold, numbers before other values. The two that are level
stand as they stood. -/
theorem run_idempotent_shops :
    let east := Row.ofList [("city", .text "Ulm"), ("shop", .text "East"), ("sold", .text "none")]
    let bonn := Row.ofList [("city", .text "Bonn"), ("sold", .number (Number.ofNat 9))]
    let west := Row.ofList [("city", .text "ULM"), ("sold", .number (Number.ofNat 5))]
    let north := Row.ofList [("city", .text "Ulm"), ("shop", .text "North"), ("sold", .text "none")]
    let query : StructuredQuery :=
      { filters := [⟨"city", .startsWith, .text "u", none⟩]
        groupBy := ["city"]
        orderBy := some ⟨"sold", .ascending⟩
        limit := some 3 }
    query.columns = [] ∧
      query.run (query.run [east, bonn, west, north]) = query.run [east, bonn, west, north] ∧
      query.run [west, east, north] = [west, east, north] := by
  intro east bonn west north query
  have settled : query.Settled [west, east, north] := by
    refine ⟨by decide, ?_, ?_⟩
    · rintro _ ⟨⟩
      decide
    · rintro _ ⟨⟩
      exact Nat.le_refl 3
  exact ⟨rfl, (run_idempotent query rfl _).1, (run_idempotent query rfl _).2.mpr settled⟩

end StructuredQuery

end Tabular
