import Tabular.Proofs.Query.Comparison
import Tabular.Proofs.Query.Whole

/-! Which filters matter.

A filter of an unknown operator turns no row away, and neither does a range without an upper bound.
A row is kept if it meets all other filters, so neither their order nor their number of times in the
list has an effect on the result of a query.
-/

set_option autoImplicit false

namespace Tabular

namespace Filter

/-- A filter that every row meets, for want of a known operator or of an upper bound. -/
inductive Idle : Filter → Prop where
  | unknown (column name : String) (value : Value) (high : Option Value) :
      Idle ⟨column, .unknown name, value, high⟩
  | unbounded (column : String) (value : Value) : Idle ⟨column, .between, value, none⟩

theorem Idle.accepts {filter : Filter} (idle : filter.Idle) (row : Row) :
    filter.accepts row = true := by
  cases idle <;> rfl

section Keep

variable {filters others : List Filter} {rows : List Row} {row : Row}

theorem all_accepts_iff :
    (filters.all fun filter => filter.accepts row) = true ↔
      ∀ filter ∈ filters, ¬filter.Idle → filter.accepts row = true := by
  rw [List.all_eq_true]
  refine forall₂_congr fun filter _ => ⟨fun met _ => met, fun met => ?_⟩
  by_cases idle : filter.Idle
  · exact idle.accepts row
  · exact met idle

theorem mem_keep_iff :
    row ∈ keep filters rows ↔
      row ∈ rows ∧ ∀ filter ∈ filters, ¬filter.Idle → filter.accepts row = true := by
  rw [keep, List.mem_filter, all_accepts_iff]

theorem keep_congr
    (same : ∀ filter : Filter, ¬filter.Idle → (filter ∈ filters ↔ filter ∈ others))
    (rows : List Row) : keep filters rows = keep others rows := by
  refine List.filter_congr fun row _ => ?_
  rw [Bool.eq_iff_iff, all_accepts_iff, all_accepts_iff]
  constructor
  · exact fun met filter member idle => met filter ((same filter idle).mpr member) idle
  · exact fun met filter member idle => met filter ((same filter idle).mp member) idle

theorem keep_sublist (filters : List Filter) (rows : List Row) : (keep filters rows).Sublist rows :=
  List.filter_sublist

end Keep

end Filter

/-- Filters that are not idle decide the result of a query, wherever and however often they are
listed. They may be applied one part after the other, and they keep the rows that meet each of them,
in the order of all rows. -/
theorem StructuredQuery.run_effective_filters (query : StructuredQuery)
    (filters others : List Filter) (rows : List Row)
    (same : ∀ filter : Filter, ¬filter.Idle → (filter ∈ filters ↔ filter ∈ others)) :
    (query.filteredBy filters).run rows = (query.filteredBy others).run rows ∧
    ∀ first second : List Filter,
      Filter.keep (first ++ second) rows = Filter.keep second (Filter.keep first rows) ∧
      (Filter.keep first rows).Sublist rows ∧
      ∀ row : Row, row ∈ Filter.keep first rows ↔
        row ∈ rows ∧ ∀ filter ∈ first, ¬filter.Idle → filter.accepts row = true := by
  refine ⟨?_, fun first second => ⟨?_, ?_, fun row => ?_⟩⟩
  · rw [run_filteredBy, run_filteredBy, Filter.keep_congr same rows]
  · exact Filter.keep_append first second rows
  · exact Filter.keep_sublist first rows
  · exact Filter.mem_keep_iff

/-- Two filters in either order, one of them twice, between filters that nobody has to meet. -/
theorem StructuredQuery.run_effective_filters_shuffled :
    let city : Filter := ⟨"city", .startsWith, .text "u", none⟩
    let sold : Filter := ⟨"sold", .notEquals, .null, some .null⟩
    let alike : Filter := ⟨"city", .unknown "like", .text "B%", none⟩
    let unbounded : Filter := ⟨"sold", .between, .number (Number.ofNat 9), none⟩
    let ulm := Row.ofList [("city", .text "Ulm"), ("sold", .text "5")]
    let bonn := Row.ofList [("city", .text "Bonn"), ("sold", .text "9")]
    let query : StructuredQuery := { orderBy := some ⟨"sold", .descending⟩ }
    (∀ filter : Filter, ¬filter.Idle →
      (filter ∈ [alike, sold, unbounded, city] ↔ filter ∈ [city, sold, city])) ∧
    (query.filteredBy [alike, sold, unbounded, city]).run [bonn, ulm] =
      (query.filteredBy [city, sold, city]).run [bonn, ulm] ∧
    Filter.keep [alike, sold, unbounded, city] [bonn, ulm] = [ulm] := by
  intro city sold alike unbounded ulm bonn query
  have same : ∀ filter : Filter, ¬filter.Idle →
      (filter ∈ [alike, sold, unbounded, city] ↔ filter ∈ [city, sold, city]) := by
    intro filter working
    have notAlike : filter ≠ alike := fun equal => working (equal ▸ .unknown _ _ _ _)
    have notOpen : filter ≠ unbounded := fun equal => working (equal ▸ .unbounded _ _)
    simp only [List.mem_cons, notAlike, notOpen, List.not_mem_nil, false_or, or_false]
    tauto
  exact ⟨same, (run_effective_filters query _ _ _ same).1, by decide⟩

end Tabular
