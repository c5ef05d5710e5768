/-! TOML documents. -/

set_option autoImplicit false

namespace Tabular

inductive Toml where
  | text (value : String)
  | integer (value : Int)
  | real (value : Float)
  | boolean (value : Bool)
  /-- A date, a time of day or both, in the spelling with capital letters. -/
  | moment (value : String)
  | list (items : List Toml)
  | table (members : List (String × Toml))

instance : Inhabited Toml := ⟨.table []⟩

end Tabular
