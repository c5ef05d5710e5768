import Tabular.Json.Document
import Tabular.Text.Case
import Tabular.Toml.Basic

/-! Entries of a configuration: values under names without regard to case.

A scalar is converted to the type that a setting wants, when there is a way to: numbers and
truth values have texts, and texts may read as numbers.
-/

set_option autoImplicit false

namespace Tabular.Settings

inductive Entry where
  | text (value : String)
  | boolean (value : Bool)
  | integer (value : Int)
  | real (value : Float)
  | nothing
  | list
  | table (names : List String)
  deriving DecidableEq

namespace Entry

def ofToml : Toml → Entry
  | .text value => .text value
  | .integer value => .integer value
  | .real value => .real value
  | .boolean value => .boolean value
  | .moment value => .text value
  | .list _ => .list
  | .table members => .table (members.map Prod.fst)

/-- An integer beyond 63 bits counts as a real. -/
def ofJson : Json → Entry
  | .null => .nothing
  | .boolean value => .boolean value
  | .integer value => if Number.isSigned value then .integer value else .real (Number.ofInt value)
  | .real value => .real value
  | .text value => .text value
  | .list _ => .list
  | .object members => .table (members.map Prod.fst)

/-- A real as it is written outside of any table: without an exponent. -/
def wordOfReal (word : List Char) : Option Float :=
  let (negative, magnitude) := Number.splitSign word
  let name := magnitude.map Char.toLower
  if name = ['i', 'n', 'f'] || name = ['i', 'n', 'f', 'i', 'n', 'i', 't', 'y'] then
    some (Number.withSign negative Number.infinity)
  else if name = ['n', 'a', 'n'] then some Number.notANumber
  else Number.readSigned word

def ofWord (text : String) : Entry :=
  let lowered := Text.lower text
  if lowered = "true" then .boolean true
  else if lowered = "false" then .boolean false
  else match Number.readInteger text.toList with
    | some value => .integer value
    | none =>
      match wordOfReal text.toList with
      | some value => .real value
      | none => .text text

def realText (value : Float) : String :=
  if value.isNaN then "NaN"
  else if value.isInf then if Number.isNegative value then "-inf" else "inf"
  else String.ofList (Number.finiteText Number.plainLayout value)

def toText? : Entry → Option String
  | .text value => some value
  | .boolean true => some "true"
  | .boolean false => some "false"
  | .integer value => some (toString value)
  | .real value => some (realText value)
  | .nothing | .list | .table _ => none

/-- The nearest natural of at most 64 bits to a real; a half goes up, and what is no number
counts as zero. -/
def roundToCount (value : Float) : Nat :=
  let greatest := Number.wordLimit - 1
  if value.isNaN || Number.isNegative value then 0
  else if value.isInf then greatest
  else min greatest ((Number.units value + Number.unitsInOne / 2) / Number.unitsInOne)

def toCount? : Entry → Option Nat
  | .text value =>
    let lowered := Text.lower value
    if lowered ∈ ["true", "on", "yes"] then some 1
    else if lowered ∈ ["false", "off", "no"] then some 0
    else Number.readWord 10 value.toList
  | .boolean true => some 1
  | .boolean false => some 0
  | .integer value => if value < 0 then none else some value.toNat
  | .real value => some (roundToCount value)
  | .nothing | .list | .table _ => none

/-- The name that an entry chooses: a text, or the only name of a table. -/
def chosenName? : Entry → Option String
  | .text value => some (Text.lower value)
  | .table [name] => some (Text.lower name)
  | _ => none

end Entry

end Tabular.Settings
