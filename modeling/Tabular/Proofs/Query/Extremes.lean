import Tabular.Proofs.Query.Counts
import Tabular.Proofs.Query.Groups

/-! Reductions that do not go by the order of rows.

The least and the greatest number of a group are found in one pass that chooses between two numbers
at a time, with NaN left out before. What is left in the end is one of the numbers, and none of them
comes before it. That says which number it is, up to the sign of a zero, so the rows of the group
may stand in any order. A count is the number of rows that take part.
-/

set_option autoImplicit false

namespace Tabular

/-! ## Reductions of the rows of a group -/

/-- What is left of a column when its numbers are chosen from: the numeric view of a cell that comes
before those of all other cells, or zero when no cell has one. -/
inductive Outermost (precedes : Float → Float → Prop) (column : String) (rows : List Row) :
    Float → Prop where
  | none : (∀ row ∈ rows, ¬(row.value column).IsNumeric) →
      Outermost precedes column rows (Number.ofNat 0)
  | cell (row : Row) : row ∈ rows → (row.value column).IsNumeric →
      (∀ other ∈ rows, (other.value column).IsNumeric →
        precedes (row.value column).toNumber (other.value column).toNumber) →
      Outermost precedes column rows (row.value column).toNumber

section Outermost

variable {precedes : Float → Float → Prop} {choose : Float → Float → Float} {column : String}
  {rows others : List Row} {x y : Float}

theorem outermost_combine (chooses : Aggregation.Chooses precedes choose) (column : String)
    (rows : List Row) :
    Outermost precedes column rows
      (Aggregation.combine choose (Aggregation.numbersIn rows column)) := by
  by_cases empty : Aggregation.numbersIn rows column = []
  · rw [empty]
    refine .none fun row member numeric => ?_
    have inside := Aggregation.mem_numbersIn.mpr ⟨row, member, numeric, rfl⟩
    rw [empty] at inside
    exact List.not_mem_nil inside
  · obtain ⟨chosen, precedes⟩ :=
      Aggregation.combine_chosen chooses empty fun _ => Aggregation.isNaN_of_mem_numbersIn
    obtain ⟨row, member, numeric, same⟩ := Aggregation.mem_numbersIn.mp chosen
    rw [← same]
    refine .cell row member numeric fun other inside otherNumeric => ?_
    rw [same]
    exact precedes _ (Aggregation.mem_numbersIn.mpr ⟨other, inside, otherNumeric, rfl⟩)

theorem Outermost.isNaN (left : Outermost precedes column rows x) : x.isNaN = false := by
  cases left with
  | none => exact Number.isNaN_ofRatio 0 1
  | cell row member numeric => exact numeric

theorem Outermost.beq (chooses : Aggregation.Chooses precedes choose)
    (reordered : others.Perm rows) (left : Outermost precedes column rows x)
    (right : Outermost precedes column others y) : (x == y) = true := by
  cases left with
  | none empty =>
    cases right with
    | none => exact Number.beq_self (Number.isNaN_ofRatio 0 1)
    | cell other member numeric => exact absurd numeric (empty other (reordered.mem_iff.mp member))
  | cell row member numeric precedes =>
    cases right with
    | none empty => exact absurd numeric (empty row (reordered.mem_iff.mpr member))
    | cell other inside otherNumeric otherPrecedes =>
      exact chooses.level (precedes other (reordered.mem_iff.mp inside) otherNumeric)
        (otherPrecedes row (reordered.mem_iff.mpr member) numeric)

end Outermost

inductive ReductionOf (column : String) (rows : List Row) : Aggregation → Float → Prop where
  | count : ReductionOf column rows .count (Number.ofNat (numericCount column rows))
  | min {least : Float} : Outermost (· ≤ ·) column rows least → ReductionOf column rows .min least
  | max {greatest : Float} : Outermost (· ≥ ·) column rows greatest →
      ReductionOf column rows .max greatest

section ReductionOf

variable {aggregation : Aggregation} {column : String} {rows others : List Row} {x y : Float}

theorem exists_reductionOf (unordered : aggregation ∈ [.count, .min, .max]) (column : String)
    (rows : List Row) :
    ∃ x, aggregation.reduce (Aggregation.numbersIn rows column) = some x ∧
      ReductionOf column rows aggregation x := by
  fin_cases unordered
  · refine ⟨_, rfl, ?_⟩
    rw [Aggregation.length_numbersIn]
    exact .count
  · exact ⟨_, rfl, .min (outermost_combine Aggregation.chooses_lesser column rows)⟩
  · exact ⟨_, rfl, .max (outermost_combine Aggregation.chooses_greater column rows)⟩

theorem ReductionOf.isNaN (reduction : ReductionOf column rows aggregation x) :
    x.isNaN = false := by
  cases reduction with
  | count => exact Number.isNaN_ofRatio _ 1
  | min least => exact least.isNaN
  | max greatest => exact greatest.isNaN

theorem ReductionOf.beq (reordered : others.Perm rows)
    (left : ReductionOf column rows aggregation x)
    (right : ReductionOf column others aggregation y) : (x == y) = true := by
  cases left with
  | count =>
    cases right with
    | count =>
      rw [numericCount, numericCount, reordered.countP_eq]
      exact Number.beq_self (Number.isNaN_ofRatio _ 1)
  | min least =>
    cases right with
    | min other => exact least.beq Aggregation.chooses_lesser reordered other
  | max greatest =>
    cases right with
    | max other => exact greatest.beq Aggregation.chooses_greater reordered other

end ReductionOf

/-! ## Groups of rows in another order -/

namespace Group

variable {columns : List String} {rows others : List Row} {group same : Group}

theorem summarize_eq_number {selection : Selection} {x : Float}
    (reduced : selection.aggregation.reduce
      (Aggregation.numbersIn group.rows selection.column) = some x) :
    group.summarize selection = .number x := by
  rw [summarize, reduced]

theorem keys_perm (columns : List String) (reordered : others.Perm rows) :
    ((partition columns others).map key).Perm ((partition columns rows).map key) := by
  rw [map_key_partition, map_key_partition,
    List.perm_ext_iff_of_nodup (nodup_firstSeen _) (nodup_firstSeen _)]
  intro key
  rw [mem_firstSeen, mem_firstSeen, (reordered.map _).mem_iff]

theorem rows_perm (reordered : others.Perm rows) (member : group ∈ partition columns rows)
    (inside : same ∈ partition columns others) (keys : same.key = group.key) :
    same.rows.Perm group.rows := by
  rw [rows_eq_of_mem_partition member, rows_eq_of_mem_partition inside, keys]
  exact reordered.filter _

end Group

/-- Rows in another order fall into groups of the same keys, and the groups of one key have equal
counts, least and greatest numbers. None of these is NaN. The least and the greatest number of a
group are those of its numeric cells, and zero when it has none. -/
theorem StructuredQuery.run_reordered (query : StructuredQuery) (rows others : List Row)
    (reordered : others.Perm rows) (grouped : query.groupBy ≠ [])
    (aggregated : ∃ selection ∈ query.columns, selection.aggregation ≠ .none)
    (unlimited : query.limit = none) :
    ∃ groups regrouped : List Group,
      groups.Perm (Group.partition query.groupBy (Filter.keep query.filters rows)) ∧
      regrouped.Perm (Group.partition query.groupBy (Filter.keep query.filters others)) ∧
      query.run rows = groups.map (Group.summary query.groupBy query.columns) ∧
      query.run others = regrouped.map (Group.summary query.groupBy query.columns) ∧
      (regrouped.map Group.key).Perm (groups.map Group.key) ∧
      (∀ (selection : Selection) (group : Group),
        deciding query.columns selection.outputName = some selection →
        (Group.summary query.groupBy query.columns group).get? selection.outputName =
          some (group.summarize selection)) ∧
      ∀ group ∈ groups, ∀ selection : Selection,
        selection.aggregation ∈ [.count, .min, .max] →
        ∃ x, group.summarize selection = .number x ∧ x.isNaN = false ∧
          ReductionOf selection.column group.rows selection.aggregation x ∧
          ∀ same ∈ regrouped, same.key = group.key →
            ∃ y, same.summarize selection = .number y ∧ (x == y) = true := by
  obtain ⟨groups, partitioned, result⟩ := exists_groups grouped aggregated unlimited rows
  obtain ⟨regrouped, repartitioned, again⟩ := exists_groups grouped aggregated unlimited others
  have kept : (Filter.keep query.filters others).Perm (Filter.keep query.filters rows) :=
    reordered.filter _
  have keys : (regrouped.map Group.key).Perm (groups.map Group.key) :=
    ((repartitioned.map _).trans (Group.keys_perm query.groupBy kept)).trans
      (partitioned.map _).symm
  refine ⟨groups, regrouped, partitioned, repartitioned, result, again, keys,
    fun selection group decided => Group.get?_summary_of_deciding decided query.groupBy group, ?_⟩
  intro group member selection unordered
  obtain ⟨x, reduced, reduction⟩ := exists_reductionOf unordered selection.column group.rows
  refine ⟨x, Group.summarize_eq_number reduced, reduction.isNaN, reduction, ?_⟩
  intro same inside keyed
  obtain ⟨y, otherReduced, otherReduction⟩ :=
    exists_reductionOf unordered selection.column same.rows
  have rows := Group.rows_perm kept (partitioned.mem_iff.mp member)
    (repartitioned.mem_iff.mp inside) keyed
  exact ⟨y, Group.summarize_eq_number otherReduced, reduction.beq rows otherReduction⟩

/-- The least change of a city is a zero, and which of the two goes by the order of the rows. -/
theorem StructuredQuery.run_reordered_zeros :
    let minusZero : Value := .number (Float.ofBits 0x8000000000000000)
    let plusZero : Value := .number (Float.ofBits 0)
    let minus := Row.ofList [("city", .text "Ulm"), ("change", minusZero)]
    let other := Row.ofList [("city", .text "Bonn"), ("change", .text "n/a")]
    let plus := Row.ofList [("city", .text "Ulm"), ("change", plusZero)]
    let most := Row.ofList [("city", .text "Ulm"), ("change", .number Number.infinity)]
    let least : Selection := ⟨"change", .min, some "least"⟩
    let query : StructuredQuery :=
      { columns := [.plain "change", least]
        groupBy := ["city"]
        orderBy := some ⟨"least", .descending⟩ }
    let group : Group := ⟨"Ulm", minus, [plus, most]⟩
    let same : Group := ⟨"Ulm", most, [plus, minus]⟩
    [most, plus, other, minus].Perm [minus, other, plus, most] ∧ query.groupBy ≠ [] ∧
      (∃ selection ∈ query.columns, selection.aggregation ≠ .none) ∧ query.limit = none ∧
      least.aggregation ∈ [.count, .min, .max] ∧
      deciding query.columns least.outputName = some least ∧ same.key = group.key ∧
      group.summarize least ≠ same.summarize least ∧
      ∃ groups regrouped : List Group, group ∈ groups ∧ same ∈ regrouped ∧
        query.run [minus, other, plus, most] = groups.map (Group.summary ["city"] query.columns) ∧
        (regrouped.map Group.key).Perm (groups.map Group.key) ∧
        ∃ x y, (Group.summary ["city"] query.columns group).get? "least" = some (.number x) ∧
          (Group.summary ["city"] query.columns same).get? "least" = some (.number y) ∧
          ReductionOf "change" group.rows .min x ∧ (x == y) = true := by
  intro minusZero plusZero minus other plus most least query group same
  have reordered : [most, plus, other, minus].Perm [minus, other, plus, most] :=
    List.reverse_perm [minus, other, plus, most]
  have aggregated : ∃ selection ∈ query.columns, selection.aggregation ≠ .none :=
    ⟨least, List.mem_cons_of_mem _ List.mem_cons_self, by decide⟩
  have unordered : least.aggregation ∈ [.count, .min, .max] := by decide
  have decided : deciding query.columns least.outputName = some least := by decide
  obtain ⟨groups, regrouped, partitioned, repartitioned, result, -, keys, shown, reductions⟩ :=
    run_reordered query _ _ reordered (List.cons_ne_nil _ _) aggregated rfl
  have member : group ∈ groups := partitioned.mem_iff.mpr (by decide)
  have inside : same ∈ regrouped := repartitioned.mem_iff.mpr (by decide)
  obtain ⟨x, summarized, -, reduction, equal⟩ := reductions group member least unordered
  obtain ⟨y, resummarized, level⟩ := equal same inside rfl
  exact ⟨reordered, List.cons_ne_nil _ _, aggregated, rfl, unordered, decided, rfl, by decide,
    groups, regrouped, member, inside, result, keys, x, y,
    (shown least group decided).trans (congrArg some summarized),
    (shown least same decided).trans (congrArg some resummarized), reduction, level⟩

end Tabular
