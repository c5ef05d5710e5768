import Tabular.Value.Basic

/-! Rows: finite maps from column names to values, in the order of first insertion.

Setting a column that is already there replaces its value in place, so a row never holds
a name twice. A column that is not there reads as null.
-/

set_option autoImplicit false

namespace Tabular

/-- Replaces the value under a name, or appends the name with the value. -/
def setField (name : String) (value : Value) :
    List (String × Value) → List (String × Value)
  | [] => [(name, value)]
  | (other, old) :: rest =>
    if other = name then (name, value) :: rest else (other, old) :: setField name value rest

theorem names_setField (name : String) (value : Value) (fields : List (String × Value)) :
    (setField name value fields).map Prod.fst =
      if name ∈ fields.map Prod.fst then fields.map Prod.fst
      else fields.map Prod.fst ++ [name] := by
  induction fields with
  | nil => simp [setField]
  | cons field rest ih =>
    obtain ⟨other, old⟩ := field
    by_cases same : other = name
    · simp [setField, same]
    · have different : ¬name = other := fun equal => same equal.symm
      simp only [setField, same, ↓reduceIte, List.map_cons, ih, List.mem_cons, different, false_or]
      split <;> simp

theorem nodup_setField (name : String) (value : Value) {fields : List (String × Value)}
    (distinct : (fields.map Prod.fst).Nodup) :
    ((setField name value fields).map Prod.fst).Nodup := by
  rw [names_setField]
  split
  · exact distinct
  · rename_i absent
    refine List.nodup_append.mpr ⟨distinct, by simp, ?_⟩
    intro member present other single
    rw [List.mem_singleton.mp single]
    exact fun same => absent (same ▸ present)

structure Row where
  fields : List (String × Value)
  distinct : (fields.map Prod.fst).Nodup
  deriving DecidableEq

namespace Row

def empty : Row := ⟨[], List.nodup_nil⟩

instance : Inhabited Row := ⟨empty⟩

def insert (row : Row) (column : String) (value : Value) : Row :=
  ⟨setField column value row.fields, nodup_setField column value row.distinct⟩

def insertAll (row : Row) (pairs : List (String × Value)) : Row :=
  pairs.foldl (fun row pair => row.insert pair.1 pair.2) row

def ofList (pairs : List (String × Value)) : Row := empty.insertAll pairs

def get? (row : Row) (column : String) : Option Value :=
  (row.fields.find? fun field => field.1 == column).map Prod.snd

/-- The value of a column, null when the row does not have it. -/
def value (row : Row) (column : String) : Value := (row.get? column).getD .null

def contains (row : Row) (column : String) : Bool := row.fields.any fun field => field.1 == column

def columns (row : Row) : List String := row.fields.map Prod.fst

def size (row : Row) : Nat := row.fields.length

def isEmpty (row : Row) : Bool := row.fields.isEmpty

end Row

end Tabular
