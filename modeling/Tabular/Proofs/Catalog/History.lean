import Tabular.Proofs.Catalog.Lookup
import Tabular.Service

/-! Catalogs under changes.

A catalog is a finite map from ids to datasets: whatever it is asked to do, one change after the
other, it answers and holds what such a map does. A change bears on its own id alone, so a request
is answered alike before and after changes on other ids than that of its dataset.
-/

set_option autoImplicit false

namespace Tabular

namespace Catalog

/-! ## Changes -/

inductive Change where
  | register (dataset : Dataset)
  | replace (dataset : Dataset)
  | remove (id : String)

def Change.id : Change → String
  | .register dataset | .replace dataset => dataset.id
  | .remove id => id

abbrev Outcome := Except Refusal (Option Dataset)

def change (catalog : Catalog) : Change → Outcome × Catalog
  | .register dataset =>
    let (outcome, next) := catalog.tryRegister dataset
    (outcome.map fun _ => none, next)
  | .replace dataset =>
    let (previous, next) := catalog.replace dataset
    (.ok previous, next)
  | .remove id =>
    let (outcome, next) := catalog.tryRemove id
    (outcome.map some, next)

/-- A change as it looks from its id: the outcome, and what the id holds from then on. -/
def Change.ofHeld (held : Option Dataset) : Change → Outcome × Option Dataset
  | .register dataset =>
    match held with
    | some old => (.error (.alreadyExists dataset.id), some old)
    | none => (.ok none, some dataset)
  | .replace dataset => (.ok held, some dataset)
  | .remove id =>
    match held with
    | some old => (.ok (some old), none)
    | none => (.error (.notFound id), none)

def changeMap (held : String → Option Dataset) (change : Change) :
    Outcome × (String → Option Dataset) :=
  let changed := change.ofHeld (held change.id)
  (changed.1, Function.update held change.id changed.2)

def changeAll {State : Type} (step : State → Change → Outcome × State) (state : State) :
    List Change → List Outcome × State
  | [] => ([], state)
  | change :: rest =>
    let changed := step state change
    let followed := changeAll step changed.2 rest
    (changed.1 :: followed.1, followed.2)

theorem changeMap_get? (catalog : Catalog) (change : Change) :
    changeMap catalog.get? change =
      ((catalog.change change).1, (catalog.change change).2.get?) := by
  cases change with
  | register dataset =>
    simp only [changeMap, Change.id, Change.ofHeld, Catalog.change, tryRegister]
    cases held : catalog.get? dataset.id with
    | some old =>
      -- The map is given what it holds already.
      have kept : Function.update catalog.get? dataset.id (some old) = catalog.get? := by
        rw [← held, Function.update_eq_self]
      simp [kept, Except.map]
    | none => simp [get?_insert, Except.map]
  | replace dataset =>
    simp only [changeMap, Change.id, Change.ofHeld, Catalog.change, replace, get?_insert]
  | remove id =>
    simp only [changeMap, Change.id, Change.ofHeld, Catalog.change, tryRemove]
    cases held : catalog.get? id with
    | some old => simp [get?_erase, Except.map]
    | none =>
      have kept : Function.update catalog.get? id none = catalog.get? := by
        rw [← held, Function.update_eq_self]
      simp [kept, Except.map]

theorem changeAll_get? (changes : List Change) (catalog : Catalog) :
    changeAll changeMap catalog.get? changes =
      ((changeAll change catalog changes).1, (changeAll change catalog changes).2.get?) := by
  induction changes generalizing catalog with
  | nil => rfl
  | cons first rest ih => simp only [changeAll, changeMap_get?, ih]

theorem get?_change_of_ne (catalog : Catalog) {change : Change} {id : String}
    (other : id ≠ change.id) : (catalog.change change).2.get? id = catalog.get? id := by
  have changed := congrFun (congrArg Prod.snd (changeMap_get? catalog change)) id
  exact changed.symm.trans (Function.update_of_ne other _ _)

theorem get?_changeAll_of_ne {changes : List Change} {id : String}
    (others : ∀ change ∈ changes, id ≠ change.id) (catalog : Catalog) :
    (changeAll change catalog changes).2.get? id = catalog.get? id := by
  induction changes generalizing catalog with
  | nil => rfl
  | cons first rest ih =>
    obtain ⟨other, others⟩ := List.forall_mem_cons.mp others
    exact (ih others _).trans (get?_change_of_ne catalog other)

/-- The laws of a finite map whose keys are ids and are listed in order. -/
structure FiniteMap (catalog : Catalog) : Prop where
  own : ∀ id dataset, catalog.get? id = some dataset → dataset.id = id
  register_refused : ∀ dataset refusal, catalog.register dataset = .error refusal ↔
    refusal = .alreadyExists dataset.id ∧ (catalog.get? dataset.id).isSome = true
  registered : ∀ dataset next, catalog.register dataset = .ok next →
    next.get? dataset.id = some dataset
  replaced : ∀ dataset, (catalog.replace dataset).1 = catalog.get? dataset.id ∧
    (catalog.replace dataset).2.get? dataset.id = some dataset
  remove_refused : ∀ id refusal, catalog.remove id = .error refusal ↔
    refusal = .notFound id ∧ catalog.get? id = none
  removed : ∀ id dataset next, catalog.remove id = .ok (dataset, next) →
    catalog.get? id = some dataset ∧ next.get? id = none
  refused : ∀ change refusal, (catalog.change change).1 = .error refusal →
    (catalog.change change).2 = catalog
  others : ∀ change id, id ≠ change.id → (catalog.change change).2.get? id = catalog.get? id
  increasing : catalog.ids.Pairwise (· < ·)
  listed : ∀ id, id ∈ catalog.ids ↔ (catalog.get? id).isSome = true
  counted : catalog.size = catalog.ids.length

theorem map_eq_error_iff {α β : Type} {outcome : Except Refusal α} {look : α → β}
    {refusal : Refusal} : outcome.map look = .error refusal ↔ outcome = .error refusal := by
  cases outcome <;> simp [Except.map]

theorem change_of_refused (catalog : Catalog) {change : Change} {refusal : Refusal}
    (refused : (catalog.change change).1 = .error refusal) :
    (catalog.change change).2 = catalog := by
  cases change with
  | register dataset => exact tryRegister_of_refused (map_eq_error_iff.mp refused)
  | replace dataset => cases refused
  | remove id => exact tryRemove_of_refused (map_eq_error_iff.mp refused)

theorem finiteMap (catalog : Catalog) : FiniteMap catalog where
  own _ _ := id_of_get?
  register_refused _ _ := register_eq_error_iff
  registered dataset next done := by
    obtain ⟨-, rfl⟩ := register_eq_ok_iff.mp done
    rw [get?_insert, Function.update_self]
  replaced dataset := by
    refine ⟨rfl, ?_⟩
    rw [replace, get?_insert, Function.update_self]
  remove_refused _ _ := remove_eq_error_iff
  removed id dataset next done := by
    obtain ⟨found, rfl⟩ := remove_eq_ok_iff.mp done
    refine ⟨found, ?_⟩
    rw [get?_erase, Function.update_self]
  refused _ _ := change_of_refused catalog
  others _ _ := get?_change_of_ne catalog
  increasing := ids_increasing catalog
  listed _ := mem_ids
  counted := (List.length_map _).symm

end Catalog

/-! ## Requests -/

/-- The id of the dataset that a request is about, unless it is a statement without a table. -/
def Request.source? (request : Request) : Option String :=
  match request.query with
  | .sql statement => (Sql.Clauses.ofStatement statement).source
  | .structured _ => some request.datasetId

/-- A request looks up no other id than its own. -/
theorem Request.run_eq_of_get? {request : Request} {catalog other : Catalog}
    (same : ∀ id, request.source? = some id → catalog.get? id = other.get? id) :
    request.run catalog = request.run other := by
  obtain ⟨datasetId, query⟩ := request
  cases query with
  | sql statement =>
    have found : (Sql.Clauses.ofStatement statement).source.bind catalog.get? =
        (Sql.Clauses.ofStatement statement).source.bind other.get? :=
      Option.bind_congr same
    simp only [run, runOn, Sql.runOn, found]
  | structured query => simp only [run, runOn, same datasetId rfl]

namespace Catalog

/-- After any changes a catalog is the finite map that the same changes make of the empty one, and
what a service answers from it turns on the dataset of the request alone. -/
theorem history_finiteMap (history : List Change) :
    let reached := (changeAll change empty history).2
    (changeAll change empty history).1 = (changeAll changeMap (fun _ => none) history).1 ∧
    reached.get? = (changeAll changeMap (fun _ => none) history).2 ∧
    FiniteMap reached ∧
    ∀ (cap : Option Nat) (request : Request),
      (∀ other : Catalog, (∀ id, request.source? = some id → other.get? id = reached.get? id) →
        Service.handle ⟨other, cap⟩ request = Service.handle ⟨reached, cap⟩ request) ∧
      ∀ later : List Change, (∀ change ∈ later, request.source? ≠ some change.id) →
        Service.handle ⟨(changeAll change reached later).2, cap⟩ request =
          Service.handle ⟨reached, cap⟩ request := by
  intro reached
  have simulated := changeAll_get? history empty
  have answer : ∀ (cap : Option Nat) (request : Request) (other : Catalog),
      (∀ id, request.source? = some id → other.get? id = reached.get? id) →
      Service.handle ⟨other, cap⟩ request = Service.handle ⟨reached, cap⟩ request := by
    intro cap request other same
    rw [Service.handle, Service.handle, Request.run_eq_of_get? same]
  refine ⟨(congrArg Prod.fst simulated).symm, (congrArg Prod.snd simulated).symm,
    finiteMap reached, fun cap request => ⟨answer cap request, fun later elsewhere => ?_⟩⟩
  refine answer cap request _ fun id source => get?_changeAll_of_ne ?_ reached
  rintro change member rfl
  exact elsewhere change member source

set_option maxRecDepth 4000 in
/-- Two of the changes are refused. The statement is about another dataset than its request names,
and that one is taken out. -/
theorem history_finiteMap_refusals :
    let shops : Dataset := ⟨"shops", [], [Row.ofList [("open", .boolean true)]]⟩
    let stock : Dataset := ⟨"stock", [], []⟩
    let history := [.register shops, .remove "stock", .replace stock, .register shops]
    let reached := (changeAll change empty history).2
    let request : Request := ⟨"stock", .sql "SELECT * FROM shops"⟩
    (changeAll change empty history).1 =
      [.ok none, .error (.notFound "stock"), .ok none, .error (.alreadyExists "shops")] ∧
    reached.ids = ["shops", "stock"] ∧ FiniteMap reached ∧ request.source? = some "shops" ∧
    Service.handle ⟨(changeAll change reached [.remove "stock"]).2, none⟩ request =
      Service.handle ⟨reached, none⟩ request := by
  intro shops stock history reached request
  have source : request.source? = some "shops" := by decide
  obtain ⟨outcomes, -, laws, answers⟩ := history_finiteMap history
  refine ⟨outcomes, by decide, laws, source, (answers none request).2 [.remove "stock"] ?_⟩
  intro change member
  rw [source, List.mem_singleton.mp member]
  decide

end Catalog

end Tabular
