import Tabular.Dataset

/-! Catalogs: datasets found by their ids.

Datasets are kept in increasing order of id, so each id occurs once and listing needs no
sorting.
-/

set_option autoImplicit false

namespace Tabular

def placeById (dataset : Dataset) : List Dataset → List Dataset
  | [] => [dataset]
  | head :: rest =>
    if dataset.id < head.id then dataset :: head :: rest
    else if dataset.id = head.id then dataset :: rest
    else head :: placeById dataset rest

theorem mem_placeById {dataset other : Dataset} {datasets : List Dataset}
    (member : other ∈ placeById dataset datasets) : other = dataset ∨ other ∈ datasets := by
  induction datasets with
  | nil => simpa [placeById] using member
  | cons head rest ih =>
    simp only [placeById] at member
    split at member
    · simpa using member
    · split at member
      · rcases List.mem_cons.mp member with here | there
        · exact .inl here
        · exact .inr (List.mem_cons_of_mem _ there)
      · rcases List.mem_cons.mp member with here | there
        · exact .inr (here ▸ List.mem_cons_self)
        · exact (ih there).imp id (List.mem_cons_of_mem _)

theorem ordered_placeById (dataset : Dataset) {datasets : List Dataset}
    (ordered : datasets.Pairwise fun first second => first.id < second.id) :
    (placeById dataset datasets).Pairwise fun first second => first.id < second.id := by
  induction datasets with
  | nil => simp [placeById]
  | cons head rest ih =>
    obtain ⟨above, tail⟩ := List.pairwise_cons.mp ordered
    simp only [placeById]
    split
    · rename_i less
      refine List.pairwise_cons.mpr ⟨?_, ordered⟩
      intro other member
      rcases List.mem_cons.mp member with here | there
      · exact here ▸ less
      · exact String.lt_trans less (above other there)
    · rename_i notLess
      split
      · rename_i same
        exact List.pairwise_cons.mpr ⟨fun other member => same ▸ above other member, tail⟩
      · rename_i different
        refine List.pairwise_cons.mpr ⟨?_, ih tail⟩
        intro other member
        rcases mem_placeById member with here | there
        · subst here
          by_cases less : head.id < other.id
          · exact less
          · exact absurd (String.le_antisymm (String.not_lt.mp less) (String.not_lt.mp notLess))
              different
        · exact above other there

structure Catalog where
  datasets : List Dataset
  ordered : datasets.Pairwise fun first second => first.id < second.id

namespace Catalog

inductive Refusal where
  | notFound (id : String)
  | alreadyExists (id : String)
  deriving DecidableEq, Repr

def Refusal.message : Refusal → String
  | .notFound id => "Dataset '" ++ id ++ "' not found"
  | .alreadyExists id => "Dataset '" ++ id ++ "' already exists"

def empty : Catalog := ⟨[], .nil⟩

instance : Inhabited Catalog := ⟨empty⟩

def get? (catalog : Catalog) (id : String) : Option Dataset :=
  catalog.datasets.find? fun dataset => dataset.id == id

def insert (catalog : Catalog) (dataset : Dataset) : Catalog :=
  ⟨placeById dataset catalog.datasets, ordered_placeById dataset catalog.ordered⟩

def erase (catalog : Catalog) (id : String) : Catalog :=
  ⟨catalog.datasets.filter fun dataset => dataset.id != id, catalog.ordered.filter _⟩

/-- Stores a dataset whose id is free. The catalog that comes with the outcome is the one from then
on, also after a refusal. -/
def tryRegister (catalog : Catalog) (dataset : Dataset) : Except Refusal Unit × Catalog :=
  match catalog.get? dataset.id with
  | some _ => (.error (.alreadyExists dataset.id), catalog)
  | none => (.ok (), catalog.insert dataset)

def tryRemove (catalog : Catalog) (id : String) : Except Refusal Dataset × Catalog :=
  match catalog.get? id with
  | some dataset => (.ok dataset, catalog.erase id)
  | none => (.error (.notFound id), catalog)

def replace (catalog : Catalog) (dataset : Dataset) : Option Dataset × Catalog :=
  (catalog.get? dataset.id, catalog.insert dataset)

/-- The catalog after a registration that is not refused. -/
def register (catalog : Catalog) (dataset : Dataset) : Except Refusal Catalog :=
  let (outcome, next) := catalog.tryRegister dataset
  outcome.map fun _ => next

def remove (catalog : Catalog) (id : String) : Except Refusal (Dataset × Catalog) :=
  let (outcome, next) := catalog.tryRemove id
  outcome.map fun dataset => (dataset, next)

def ids (catalog : Catalog) : List String := catalog.datasets.map Dataset.id

def size (catalog : Catalog) : Nat := catalog.datasets.length

def isEmpty (catalog : Catalog) : Bool := catalog.datasets.isEmpty

end Catalog

end Tabular
