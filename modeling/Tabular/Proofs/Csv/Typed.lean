import Tabular.Proofs.Csv.Written

/-! Columns of a type.

A column whose type is not text has numbers or truth values alone, so each of its cells that is
not null has a numeric view.
-/

set_option autoImplicit false

namespace Tabular

theorem ColumnType.typed_of_infer {cells : List Value} (typed : infer cells ≠ .text) {cell : Value}
    (member : cell ∈ cells) (present : cell.isNull = false) :
    cell.asNumber.isSome = true ∨ cell.asBoolean.isSome = true := by
  have kept : cell ∈ cells.filter fun cell => !cell.isNull :=
    List.mem_filter.mpr ⟨member, by rw [present]; rfl⟩
  unfold infer at typed
  extract_lets among at typed
  split_ifs at typed with none numbers truths
  · exact absurd rfl typed
  · exact .inl (List.all_eq_true.mp numbers cell kept)
  · exact .inr (List.all_eq_true.mp truths cell kept)
  · exact absurd rfl typed

namespace Dataset

theorem exists_ofRecords_of_ofCsv {id : String} {bytes : List UInt8} {dataset : Dataset}
    (loaded : ofCsv id bytes = .ok dataset) :
    ∃ header records, dataset = ofRecords id header records := by
  unfold ofCsv at loaded
  split at loaded
  · rename_i header records _
    exact ⟨header, records, (Except.ok.inj loaded).symm⟩
  · exact ⟨[], [], (Except.ok.inj loaded).symm⟩
  · cases loaded

/-- In a typed column what has no numeric view is null. -/
theorem isNaN_of_typed {id : String} {bytes : List UInt8} {dataset : Dataset}
    (loaded : ofCsv id bytes = .ok dataset) {column : String} {type : ColumnType}
    (listed : ⟨column, type⟩ ∈ dataset.columns) (typed : type ≠ .text) {row : Row}
    (member : row ∈ dataset.rows) :
    (row.value column).toNumber.isNaN = (row.value column).isNull := by
  obtain ⟨header, records, rfl⟩ := exists_ofRecords_of_ofCsv loaded
  obtain ⟨name, -, inferred⟩ := List.mem_map.mp listed
  obtain ⟨rfl, rfl⟩ := Column.mk.inj inferred
  obtain ⟨record, -, rfl⟩ := List.mem_map.mp member
  cases present : ((rowOfRecord header record).value name).isNull with
  | true => exact Value.isNaN_toNumber_of_isNull present
  | false =>
    cases written : Csv.written header record name with
    | none =>
      rw [Row.value, get?_rowOfRecord, written] at present
      cases present
    | some raw =>
      rw [value_rowOfRecord written] at present ⊢
      refine Value.isNaN_toNumber_ofCell (ColumnType.typed_of_infer typed ?_ present)
      refine List.mem_filterMap.mpr ⟨_, member, ?_⟩
      rw [get?_rowOfRecord, written]
      rfl

end Dataset

end Tabular
