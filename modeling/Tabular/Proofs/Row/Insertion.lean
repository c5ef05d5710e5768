import Tabular.Proofs.Row.FirstSeen

/-! Rows under insertion.

The columns of a row are the names that were inserted, in order of first insertion, and a
column holds the value that was inserted under its name last.
-/

set_option autoImplicit false

namespace Tabular

theorem find?_setField (name : String) (value : Value) (fields : List (String × Value))
    (other : String) :
    ((setField name value fields).find? fun field => field.1 == other).map Prod.snd =
      if name = other then some value
      else (fields.find? fun field => field.1 == other).map Prod.snd := by
  induction fields with
  | nil => by_cases same : name = other <;> simp [setField, same]
  | cons field rest ih =>
    obtain ⟨first, old⟩ := field
    by_cases here : first = name
    · subst here
      by_cases same : first = other <;> simp [setField, same]
    · by_cases found : first = other
      · subst found
        simp [setField, here, Ne.symm here]
      · simp [setField, here, found, ih]

theorem setField_of_absent {name : String} {fields : List (String × Value)}
    (absent : name ∉ fields.map Prod.fst) (value : Value) :
    setField name value fields = fields ++ [(name, value)] := by
  induction fields with
  | nil => rfl
  | cons field rest ih =>
    rw [List.map_cons, List.mem_cons, not_or] at absent
    rw [setField, if_neg (Ne.symm absent.1), ih absent.2, List.cons_append]

theorem find?_pairs {α : Type} (nameOf : α → String) (value : α → Value) (items : List α)
    (name : String) :
    ((items.map fun item => (nameOf item, value item)).reverse.find?
        fun pair => pair.1 == name).map Prod.snd =
      (items.reverse.find? fun item => nameOf item == name).map value := by
  rw [← List.map_reverse, List.find?_map, Option.map_map]
  rfl

namespace Row

variable (row : Row)

@[simp] theorem get?_empty (name : String) : empty.get? name = none := rfl

@[simp] theorem columns_empty : empty.columns = [] := rfl

theorem get?_eq_none_iff {name : String} : row.get? name = none ↔ name ∉ row.columns := by
  rw [get?, Option.map_eq_none_iff, List.find?_eq_none, columns, List.mem_map]
  constructor
  · rintro none ⟨field, member, rfl⟩
    exact none field member (beq_self_eq_true _)
  · intro absent field member same
    exact absent ⟨field, member, beq_iff_eq.mp same⟩

theorem get?_insert (column : String) (value : Value) (name : String) :
    (row.insert column value).get? name = if column = name then some value else row.get? name :=
  find?_setField column value row.fields name

theorem columns_insert (column : String) (value : Value) :
    (row.insert column value).columns =
      if column ∈ row.columns then row.columns else row.columns ++ [column] :=
  names_setField column value row.fields

/-- The value of the last pair of a name, if there is one, and else what was there before. -/
theorem get?_insertAll (pairs : List (String × Value)) (name : String) :
    (row.insertAll pairs).get? name =
      ((pairs.reverse.find? fun pair => pair.1 == name).map Prod.snd).or (row.get? name) := by
  induction pairs generalizing row with
  | nil => rfl
  | cons pair rest ih =>
    have step : row.insertAll (pair :: rest) = (row.insert pair.1 pair.2).insertAll rest := rfl
    rw [step, ih, get?_insert, List.reverse_cons, List.find?_append]
    cases rest.reverse.find? fun pair => pair.1 == name with
    | some later => simp
    | none => by_cases same : pair.1 = name <;> simp [same]

theorem columns_insertAll (pairs : List (String × Value)) :
    (row.insertAll pairs).columns = firstSeen (row.columns ++ pairs.map Prod.fst) := by
  induction pairs generalizing row with
  | nil =>
    rw [List.map_nil, List.append_nil]
    exact (firstSeen_of_nodup row.distinct).symm
  | cons pair rest ih =>
    have step : row.insertAll (pair :: rest) = (row.insert pair.1 pair.2).insertAll rest := rfl
    rw [step, ih, columns_insert, List.map_cons]
    by_cases member : pair.1 ∈ row.columns
    · rw [if_pos member, firstSeen_append_cons member]
    · rw [if_neg member, List.append_assoc, List.singleton_append]

theorem get?_ofList (pairs : List (String × Value)) (name : String) :
    (ofList pairs).get? name = (pairs.reverse.find? fun pair => pair.1 == name).map Prod.snd := by
  rw [ofList, get?_insertAll, get?_empty, Option.or_none]

theorem columns_ofList (pairs : List (String × Value)) :
    (ofList pairs).columns = firstSeen (pairs.map Prod.fst) := by
  rw [ofList, columns_insertAll, columns_empty, List.nil_append]

theorem fields_insertAll {pairs : List (String × Value)}
    (distinct : ((row.fields ++ pairs).map Prod.fst).Nodup) :
    (row.insertAll pairs).fields = row.fields ++ pairs := by
  induction pairs generalizing row with
  | nil => exact (List.append_nil _).symm
  | cons pair rest ih =>
    have absent : pair.1 ∉ row.fields.map Prod.fst := by
      rw [List.map_append, List.nodup_append] at distinct
      exact fun member => distinct.2.2 _ member _ List.mem_cons_self rfl
    have step : row.insertAll (pair :: rest) = (row.insert pair.1 pair.2).insertAll rest := rfl
    have fields : (row.insert pair.1 pair.2).fields = row.fields ++ [pair] :=
      setField_of_absent absent pair.2
    rw [List.append_cons] at distinct ⊢
    rw [step, ih (row.insert pair.1 pair.2) (by rwa [fields]), fields]

theorem ofList_fields : ofList row.fields = row := by
  have fields : (ofList row.fields).fields = row.fields := fields_insertAll empty row.distinct
  cases built : ofList row.fields
  rw [built] at fields
  cases row
  cases fields
  rfl

theorem insertAll_ofList (pairs others : List (String × Value)) :
    (ofList pairs).insertAll others = ofList (pairs ++ others) :=
  List.foldl_append.symm

end Row

end Tabular
