import Tabular.Toml.Basic

/-! Tables under construction.

A table remembers how it came to be. One that was opened by its own header, or written as a
value, takes no keys from elsewhere; one that exists only on the way to another may still
be opened once.
-/

set_option autoImplicit false

namespace Tabular.Toml

inductive Origin where
  /-- On the way to a table with a header. -/
  | implied
  /-- By a key with points. -/
  | dotted
  | header
  deriving DecidableEq, Repr

inductive Entry where
  | value (value : Toml)
  | table (origin : Origin) (entries : List (String × Entry))
  /-- Tables of one name, the last one first. -/
  | tables (last : List (String × Entry)) (before : List (List (String × Entry)))

abbrev Entries : Type := List (String × Entry)

namespace Entries

def get? (entries : Entries) (name : String) : Option Entry :=
  (List.find? (fun entry => entry.1 == name) entries).map Prod.snd

def put (entries : Entries) (name : String) (entry : Entry) : Entries :=
  if entries.any fun old => old.1 == name then
    entries.map fun old => if old.1 == name then (name, entry) else old
  else entries ++ [(name, entry)]

/-- Adds a value under a key that must be free. Tables on the way are those of dotted keys. -/
def add : (path : List String) → (name : String) → Toml → Entries → Option Entries
  | [], name, value, entries =>
    match entries.get? name with
    | none => some (entries.put name (.value value))
    | some _ => none
  | step :: path, name, value, entries =>
    match entries.get? step with
    | none => (add path name value []).map fun inner => entries.put step (.table .dotted inner)
    | some (.table .dotted inner) =>
      (add path name value inner).map fun inner => entries.put step (.table .dotted inner)
    | some (.table .implied inner) =>
      if path.isEmpty then none
      else (add path name value inner).map fun inner => entries.put step (.table .implied inner)
    | some _ => none

/-- Changes the table at a path; of tables of one name, the last. -/
def within (change : Entries → Option Entries) : (path : List String) → Entries → Option Entries
  | [], entries => change entries
  | step :: path, entries =>
    match entries.get? step with
    | none => (within change path []).map fun inner => entries.put step (.table .implied inner)
    | some (.table origin inner) =>
      (within change path inner).map fun inner => entries.put step (.table origin inner)
    | some (.tables last before) =>
      (within change path last).map fun last => entries.put step (.tables last before)
    | some (.value _) => none

def openTable (name : String) (entries : Entries) : Option Entries :=
  match entries.get? name with
  | none => some (entries.put name (.table .header []))
  | some (.table .implied inner) => some (entries.put name (.table .header inner))
  | some _ => none

def openNext (name : String) (entries : Entries) : Option Entries :=
  match entries.get? name with
  | none => some (entries.put name (.tables [] []))
  | some (.tables last before) => some (entries.put name (.tables [] (last :: before)))
  | some _ => none

end Entries

namespace Entry

mutual

def finish : Entry → Toml
  | .value found => found
  | .table _ entries => .table (finishAll entries)
  | .tables last before => .list ((.table (finishAll last) :: finishTables before).reverse)

def finishAll : List (String × Entry) → List (String × Toml)
  | [] => []
  | (name, entry) :: rest => (name, finish entry) :: finishAll rest

def finishTables : List (List (String × Entry)) → List Toml
  | [] => []
  | entries :: rest => .table (finishAll entries) :: finishTables rest

end

end Entry

end Tabular.Toml
