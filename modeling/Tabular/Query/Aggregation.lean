import Tabular.Row
import Tabular.Text.Case
import Tabular.Value.Numeric

/-! Aggregations: the ways to reduce the numbers of a group to one. -/

set_option autoImplicit false

namespace Tabular

inductive Aggregation where
  | none
  | sum
  | count
  | avg
  | min
  | max
  deriving DecidableEq, Repr

namespace Aggregation

def name : Aggregation → String
  | .none => "none"
  | .sum => "sum"
  | .count => "count"
  | .avg => "avg"
  | .min => "min"
  | .max => "max"

def ofName (name : String) : Aggregation :=
  match Text.asciiLower name with
  | "sum" => .sum
  | "count" => .count
  | "avg" => .avg
  | "min" => .min
  | "max" => .max
  | _ => .none

/-- The lesser of two numbers; NaN gives way to any number. -/
def lesser (first second : Float) : Float :=
  if first.isNaN then second
  else if second.isNaN then first
  else if second < first then second else first

def greater (first second : Float) : Float :=
  if first.isNaN then second
  else if second.isNaN then first
  else if first < second then second else first

def total (numbers : List Float) : Float := numbers.foldl (· + ·) (Number.ofNat 0)

/-- Combines the numbers from the left; zero when there are none. -/
def combine (choose : Float → Float → Float) : List Float → Float
  | [] => Number.ofNat 0
  | first :: rest => rest.foldl choose first

/-- Every aggregation of no numbers is zero. Only `none` does not reduce. -/
def reduce (aggregation : Aggregation) (numbers : List Float) : Option Float :=
  match aggregation with
  | .none => Option.none
  | .sum => some (total numbers)
  | .count => some (Number.ofNat numbers.length)
  | .avg =>
    if numbers.isEmpty then some (Number.ofNat 0)
    else some (total numbers / Number.ofNat numbers.length)
  | .min => some (combine lesser numbers)
  | .max => some (combine greater numbers)

theorem reduce_eq_none_iff {aggregation : Aggregation} {numbers : List Float} :
    aggregation.reduce numbers = Option.none ↔ aggregation = .none := by
  cases aggregation with
  | avg => by_cases empty : numbers.isEmpty = true <;> simp [reduce, empty]
  | _ => simp [reduce]

def numbersIn (rows : List Row) (column : String) : List Float :=
  (rows.map fun row => (row.value column).toNumber).filter fun number => !number.isNaN

end Aggregation

end Tabular
