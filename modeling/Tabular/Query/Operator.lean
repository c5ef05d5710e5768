import Tabular.Value.Compare

/-! The comparisons that filters make between a cell and an operand. -/

set_option autoImplicit false

namespace Tabular

inductive Operator where
  | equals
  | notEquals
  | greaterThan
  | lessThan
  | atLeast
  | atMost
  | contains
  | startsWith
  | endsWith
  | between
  /-- An operator of no known meaning; it holds of every cell. -/
  | unknown (name : String)
  deriving DecidableEq, Repr

namespace Operator

def ofName (name : String) : Operator :=
  match name with
  | "=" | "==" => .equals
  | "!=" | "<>" => .notEquals
  | ">" => .greaterThan
  | "<" => .lessThan
  | ">=" => .atLeast
  | "<=" => .atMost
  | "contains" => .contains
  | "startsWith" => .startsWith
  | "endsWith" => .endsWith
  | "between" => .between
  | other => .unknown other

def missing : Operator := .unknown ""

def occursIn (sought : List Char) : List Char → Bool
  | [] => sought.isEmpty
  | c :: rest => sought.isPrefixOf (c :: rest) || occursIn sought rest

/-- Order is numeric, and fails when either side has no numeric view. A range without an
upper bound is no restriction. -/
def holds (operator : Operator) (cell operand : Value) (high : Option Value) : Bool :=
  match operator with
  | .equals => cell.looselyEquals operand
  | .notEquals => !cell.looselyEquals operand
  | .greaterThan => decide (cell.toNumber > operand.toNumber)
  | .lessThan => decide (cell.toNumber < operand.toNumber)
  | .atLeast => decide (cell.toNumber ≥ operand.toNumber)
  | .atMost => decide (cell.toNumber ≤ operand.toNumber)
  | .contains => occursIn operand.lowerText cell.lowerText
  | .startsWith => operand.lowerText.isPrefixOf cell.lowerText
  | .endsWith => operand.lowerText.isSuffixOf cell.lowerText
  | .between =>
    match high with
    | some bound =>
      decide (cell.toNumber ≥ operand.toNumber) && decide (cell.toNumber ≤ bound.toNumber)
    | none => true
  | .unknown _ => true

end Operator

end Tabular
