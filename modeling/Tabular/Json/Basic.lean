import Tabular.Number.Layout
import Tabular.Text.Quoted

/-! JSON documents.

Whole numerals of at most 64 bits are integers and all other numerals are reals. Members
of an object keep their order, and a name may occur twice.
-/

set_option autoImplicit false

namespace Tabular

inductive Json where
  | null
  | boolean (value : Bool)
  | integer (value : Int)
  | real (value : Float)
  | text (value : String)
  | list (items : List Json)
  | object (members : List (String × Json))

instance : Inhabited Json := ⟨.null⟩

namespace Json

/-- Numbers keep a point and a zero, and have an exponent part when it makes them shorter. -/
def realLayout : Number.Layout := ⟨.toEven, fun exponent => decide (-5 ≤ exponent ∧ exponent < 16), true⟩

def describe : Json → String
  | .null => "null"
  | .boolean true => "boolean \x60true\x60"
  | .boolean false => "boolean \x60false\x60"
  | .integer value => "integer \x60" ++ toString value ++ "\x60"
  | .real value =>
    "floating point \x60" ++ String.ofList (Number.finiteText realLayout value) ++ "\x60"
  | .text value => "string " ++ Text.quoted value
  | .list _ => "sequence"
  | .object _ => "map"

def asNumber : Json → Option Float
  | .integer value => some (Number.ofInt value)
  | .real value => some value
  | _ => none

def asText : Json → Option String
  | .text value => some value
  | _ => none

end Json

end Tabular
