import Mathlib.Data.List.Forall2
import Tabular.Proofs.Query.Partition
import Tabular.Proofs.Query.Reduction
import Tabular.Proofs.Row.Insertion
import Tabular.Query.Structured

/-! The shape of results: which rows a structured query gives, and what they hold.

With grouping there is one row for each key of the rows that the filters keep, and otherwise one
for each of these rows. A name that several selected columns share keeps its first place, and
the last of them decides its value.
-/

set_option autoImplicit false

namespace Tabular

/-- The selected column that decides what stands under a name. -/
def deciding (selections : List Selection) (name : String) : Option Selection :=
  selections.reverse.find? fun selection => selection.outputName == name

/-- What the row of a group holds under a name: a value of the first row of the group, or what the
numbers of all its rows are reduced to. -/
inductive GroupCell (selections : List Selection) (first : Row) (others : List Row)
    (name : String) : Value → Prop where
  | key : deciding selections name = none →
      GroupCell selections first others name (first.value name)
  | plain (selection : Selection) : deciding selections name = some selection →
      selection.aggregation = .none →
      GroupCell selections first others name (first.value selection.column)
  | reduced (selection : Selection) (numbers : List Float) (number : Float) :
      deciding selections name = some selection → selection.aggregation ≠ .none →
      NumbersOf selection.column (first :: others) numbers →
      Reduces numbers selection.aggregation number →
      GroupCell selections first others name (.number number)

structure SummaryOf (columns : List String) (selections : List Selection) (first : Row)
    (others : List Row) (row : Row) : Prop where
  names : row.columns = firstSeen (columns ++ selections.map Selection.outputName)
  cells : ∀ name ∈ row.columns, ∃ value, row.get? name = some value ∧
    GroupCell selections first others name value

structure ProjectionOf (selections : List Selection) (source row : Row) : Prop where
  names : row.columns = firstSeen (selections.map Selection.outputName)
  cells : ∀ name ∈ row.columns, ∃ selection, deciding selections name = some selection ∧
    row.get? name = some (source.value selection.column)

section Cells

variable {selections : List Selection} {name : String}

theorem find?_selected (value : Selection → Value) :
    ((selections.map fun selection => (selection.outputName, value selection)).reverse.find?
        fun pair => pair.1 == name).map Prod.snd =
      (deciding selections name).map value :=
  find?_pairs Selection.outputName value selections name

theorem deciding_of_mem (member : name ∈ selections.map Selection.outputName) :
    ∃ selection, deciding selections name = some selection := by
  obtain ⟨selection, inside, rfl⟩ := List.mem_map.mp member
  refine Option.isSome_iff_exists.mp (List.find?_isSome.mpr ⟨selection, ?_, beq_self_eq_true _⟩)
  exact List.mem_reverse.mpr inside

theorem deciding_eq_none (free : ∀ selection ∈ selections, selection.outputName ≠ name) :
    deciding selections name = none := by
  refine List.find?_eq_none.mpr fun selection member same => ?_
  exact free selection (List.mem_reverse.mp member) (beq_iff_eq.mp same)

theorem mem_of_deciding_eq_none (undecided : deciding selections name = none) :
    name ∉ selections.map Selection.outputName := by
  intro member
  obtain ⟨selection, decided⟩ := deciding_of_mem member
  rw [undecided] at decided
  cases decided

theorem find?_columns {columns : List String} (value : String → Value) (member : name ∈ columns) :
    ((columns.map fun column => (column, value column)).reverse.find?
        fun pair => pair.1 == name).map Prod.snd = some (value name) := by
  rw [find?_pairs (fun column => column) value]
  cases found : columns.reverse.find? fun column => column == name with
  | none =>
    have missing := List.find?_eq_none.mp found name (List.mem_reverse.mpr member)
    exact absurd (beq_self_eq_true name) missing
  | some column =>
    have same := List.find?_some found
    rw [beq_iff_eq] at same
    rw [Option.map_some, same]

end Cells

theorem projectionOf_project (selections : List Selection) (source : Row) :
    ProjectionOf selections source (Selection.project selections source) := by
  have names : (Selection.project selections source).columns =
      firstSeen (selections.map Selection.outputName) := by
    rw [Selection.project, Row.columns_ofList, List.map_map]
    rfl
  refine ⟨names, fun name member => ?_⟩
  rw [names, mem_firstSeen] at member
  obtain ⟨selection, decided⟩ := deciding_of_mem member
  refine ⟨selection, decided, ?_⟩
  rw [Selection.project, Row.get?_ofList, find?_selected, decided]
  rfl

theorem groupCell_summarize {selections : List Selection} {name : String} {selection : Selection}
    (decided : deciding selections name = some selection) (group : Group) :
    GroupCell selections group.first group.others name (group.summarize selection) := by
  unfold Group.summarize
  split
  · rename_i number reduced
    have aggregates : selection.aggregation ≠ .none := by
      intro plain
      rw [Aggregation.reduce_eq_none_iff.mpr plain] at reduced
      cases reduced
    exact .reduced selection _ number decided aggregates
      (Aggregation.numbersOf_numbersIn group.rows selection.column)
      (Aggregation.reduces_of_reduce (fun _ => Aggregation.isNaN_of_mem_numbersIn) reduced)
  · rename_i unreduced
    exact .plain selection decided (Aggregation.reduce_eq_none_iff.mp unreduced)

/-- A selected column has its say in what a group makes, whether or not its name is also that of
a grouping column. -/
theorem Group.get?_summary_of_deciding {selections : List Selection} {name : String}
    {selection : Selection} (decided : deciding selections name = some selection)
    (columns : List String) (group : Group) :
    (summary columns selections group).get? name = some (group.summarize selection) := by
  simp only [summary]
  rw [Row.get?_insertAll, find?_selected, decided, Option.map_some, Option.some_or]

theorem Group.get?_summary_of_undecided {selections : List Selection} {name : String}
    (undecided : deciding selections name = none) {columns : List String} (member : name ∈ columns)
    (group : Group) :
    (summary columns selections group).get? name = some (group.first.value name) := by
  simp only [summary]
  rw [Row.get?_insertAll, find?_selected, undecided, Row.get?_ofList,
    find?_columns group.first.value member]
  rfl

theorem summaryOf_summary (columns : List String) (selections : List Selection) (group : Group) :
    SummaryOf columns selections group.first group.others
      (Group.summary columns selections group) := by
  have names : (Group.summary columns selections group).columns =
      firstSeen (columns ++ selections.map Selection.outputName) := by
    have keys : (columns.map fun column => (column, group.first.value column)).map Prod.fst =
        columns := by
      rw [List.map_map]
      exact List.map_id columns
    rw [Group.summary, Row.insertAll_ofList, Row.columns_ofList, List.map_append, keys,
      List.map_map]
    rfl
  refine ⟨names, fun name member => ?_⟩
  rw [names, mem_firstSeen] at member
  cases decided : deciding selections name with
  | some selection =>
    exact ⟨_, Group.get?_summary_of_deciding decided columns group,
      groupCell_summarize decided group⟩
  | none =>
    have grouping := (List.mem_append.mp member).resolve_right (mem_of_deciding_eq_none decided)
    exact ⟨_, Group.get?_summary_of_undecided decided grouping group, .key decided⟩

namespace StructuredQuery

theorem shape_grouped {query : StructuredQuery} (grouped : query.groupBy ≠ [])
    (aggregated : ∃ selection ∈ query.columns, selection.aggregation ≠ .none) (rows : List Row) :
    query.shape rows = Group.aggregate query.groupBy query.columns rows := by
  have aggregates : query.aggregates = true := by
    obtain ⟨selection, member, real⟩ := aggregated
    exact List.any_eq_true.mpr ⟨selection, member, bne_iff_ne.mpr real⟩
  simp [shape, grouped, aggregates]

theorem shape_projected {query : StructuredQuery} (selected : query.columns ≠ [])
    (plain : query.groupBy = [] ∨ ∀ selection ∈ query.columns, selection.aggregation = .none)
    (rows : List Row) :
    query.shape rows = rows.map (Selection.project query.columns) := by
  have projected : query.shape rows = Selection.projectAll query.columns rows := by
    rcases plain with ungrouped | plain
    · simp [shape, ungrouped]
    · have none : query.aggregates = false := by
        simpa [aggregates] using plain
      simp [shape, none]
  rw [projected, Selection.projectAll, if_neg (by simpa using selected)]

end StructuredQuery

end Tabular
