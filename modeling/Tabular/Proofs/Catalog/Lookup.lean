import Mathlib.Logic.Function.Basic
import Tabular.Catalog

/-! Lookups in catalogs.

A lookup finds the dataset that was stored last under an id, unless it was taken out since, and the
ids in the listing are those that lookups find.
-/

set_option autoImplicit false

namespace Tabular.Catalog

variable {catalog : Catalog} {dataset : Dataset} {id : String}

theorem find?_placeById (dataset : Dataset) (datasets : List Dataset) (id : String) :
    ((placeById dataset datasets).find? fun other => other.id == id) =
      if id = dataset.id then some dataset else datasets.find? fun other => other.id == id := by
  fun_induction placeById dataset datasets with
  | case1 => by_cases same : id = dataset.id <;> simp [same, Ne.symm]
  | case2 head rest before => by_cases same : id = dataset.id <;> simp [same, Ne.symm]
  | case3 head rest before here =>
    by_cases same : id = dataset.id
    · simp [same]
    · simp [← here, same, Ne.symm same]
  | case4 head rest before other ih =>
    by_cases same : id = dataset.id
    · have passed : (head.id == id) = false := beq_eq_false_iff_ne.mpr (same ▸ Ne.symm other)
      rw [List.find?_cons, passed, ih, if_pos same, if_pos same]
    · rw [List.find?_cons, List.find?_cons, ih, if_neg same, if_neg same]

theorem get?_insert (catalog : Catalog) (dataset : Dataset) :
    (catalog.insert dataset).get? = Function.update catalog.get? dataset.id (some dataset) := by
  funext id
  rw [Function.update_apply]
  exact find?_placeById dataset catalog.datasets id

theorem get?_erase (catalog : Catalog) (id : String) :
    (catalog.erase id).get? = Function.update catalog.get? id none := by
  funext other
  rw [Function.update_apply, get?, erase, List.find?_filter]
  by_cases same : other = id
  · rw [if_pos same, List.find?_eq_none]
    simp [same]
  · rw [if_neg same, get?]
    congr 1
    funext dataset
    by_cases found : dataset.id = other <;> simp [found, same]

theorem id_of_get? (found : catalog.get? id = some dataset) : dataset.id = id := by
  have accepted := List.find?_some found
  exact beq_iff_eq.mp accepted

theorem ids_increasing (catalog : Catalog) : catalog.ids.Pairwise (· < ·) :=
  List.pairwise_map.mpr catalog.ordered

theorem mem_ids : id ∈ catalog.ids ↔ (catalog.get? id).isSome = true := by
  rw [ids, get?, List.find?_isSome, List.mem_map]
  simp only [beq_iff_eq]

/-! ## Operations -/

variable {next : Catalog} {refusal : Refusal}

theorem tryRegister_of_refused (refused : (catalog.tryRegister dataset).1 = .error refusal) :
    (catalog.tryRegister dataset).2 = catalog := by
  cases held : catalog.get? dataset.id with
  | some old => simp only [tryRegister, held]
  | none => simp [tryRegister, held] at refused

theorem tryRemove_of_refused (refused : (catalog.tryRemove id).1 = .error refusal) :
    (catalog.tryRemove id).2 = catalog := by
  cases held : catalog.get? id with
  | some old => simp [tryRemove, held] at refused
  | none => simp only [tryRemove, held]

theorem register_eq_error_iff : catalog.register dataset = .error refusal ↔
    refusal = .alreadyExists dataset.id ∧ (catalog.get? dataset.id).isSome = true := by
  cases held : catalog.get? dataset.id <;>
    simp [register, tryRegister, held, Except.map, eq_comm]

theorem register_eq_ok_iff : catalog.register dataset = .ok next ↔
    catalog.get? dataset.id = none ∧ next = catalog.insert dataset := by
  cases held : catalog.get? dataset.id <;>
    simp [register, tryRegister, held, Except.map, eq_comm]

theorem remove_eq_error_iff : catalog.remove id = .error refusal ↔
    refusal = .notFound id ∧ catalog.get? id = none := by
  cases held : catalog.get? id <;> simp [remove, tryRemove, held, Except.map, eq_comm]

theorem remove_eq_ok_iff : catalog.remove id = .ok (dataset, next) ↔
    catalog.get? id = some dataset ∧ next = catalog.erase id := by
  cases held : catalog.get? id <;> simp [remove, tryRemove, held, Except.map, eq_comm]

end Tabular.Catalog
