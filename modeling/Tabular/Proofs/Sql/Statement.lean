import Tabular.Proofs.Sql.Keyword
import Tabular.Sql.Clauses

/-! Statements in parts, and how they are written out.

The parts carry what keeps them apart in a text: names, tables and literals mention none of
the words that clauses are found by. A statement has each clause at most once, and its clauses
come in any order.
-/

set_option autoImplicit false

namespace Tabular.Sql

open Text

structure Name where
  chars : List Char
  nonempty : chars ≠ []
  plain : ∀ c ∈ chars, isNameChar c = true
  free : KeywordFree chars
  deriving DecidableEq

/-- Names of tables, which take every character but blanks and double quotes. -/
structure Table where
  chars : List Char
  nonempty : chars ≠ []
  accepted : ∀ c ∈ chars, isTableChar c = true
  free : KeywordFree chars
  /-- Whether double quotes stand around the name. -/
  quoted : Bool
  deriving DecidableEq

structure Literal where
  chars : List Char
  nonempty : chars ≠ []
  unquoted : ∀ c ∈ chars, isQuote c = false
  free : KeywordFree chars
  deriving DecidableEq

/-- A number of 64 bits behind any count of zeros. -/
structure Numeral where
  zeros : Nat
  value : Nat
  bounded : value < Number.wordLimit
  deriving DecidableEq

structure Call where
  function : Aggregation
  real : function ≠ .none
  spelled : List Char
  spells : spelled.map Char.toLower = function.name.toList
  column : Name
  label : Option Name
  deriving DecidableEq

inductive Item where
  | column (name : Name)
  | call (call : Call)
  deriving DecidableEq

structure Comparison where
  column : Name
  operator : Char
  known : operator ∈ ['=', '>', '<']
  literal : Literal
  deriving DecidableEq

inductive Part where
  | condition (comparison : Comparison)
  | grouping (column : Name)
  | limit (count : Numeral)
  deriving DecidableEq

structure Statement where
  items : List Item
  nonempty : items ≠ []
  /-- The count of blanks behind each comma. -/
  gap : Nat
  table : Table
  comparison : Option Comparison
  grouping : Option Name
  limit : Option Numeral
  /-- The clauses in the order in which they are written. -/
  parts : List Part
  arranged : parts.Perm
    (comparison.toList.map .condition ++ grouping.toList.map .grouping ++ limit.toList.map .limit)

section Writing

def Table.written (table : Table) : List Char :=
  if table.quoted then '"' :: (table.chars ++ ['"']) else table.chars

def Numeral.written (numeral : Numeral) : List Char :=
  List.replicate numeral.zeros '0' ++ Nat.toDigits 10 numeral.value

def labelWritten : Option Name → List Char
  | none => []
  | some label => ' ' :: ("AS".toList ++ ' ' :: label.chars)

def Item.written : Item → List Char
  | .column name => name.chars
  | .call made =>
    made.spelled ++ '(' :: (made.column.chars ++ ')' :: labelWritten made.label)

def blanks (gap : Nat) : List Char := List.replicate gap ' '

def itemsWritten (gap : Nat) (items : List Item) : List Char :=
  (',' :: blanks gap).intercalate (items.map Item.written)

def Part.keyword : Part → Keyword
  | .condition _ => .condition
  | .grouping _ => .grouping
  | .limit _ => .limit

def Part.body : Part → List Char
  | .condition comparison =>
    comparison.column.chars ++ ' ' :: comparison.operator :: ' ' :: '\'' ::
      (comparison.literal.chars ++ ['\''])
  | .grouping column => "BY".toList ++ ' ' :: column.chars
  | .limit count => count.written

def Part.written (part : Part) : List Char := part.keyword.letters ++ ' ' :: part.body

def partsWritten (parts : List Part) : List Char :=
  parts.flatMap fun part => ' ' :: part.written

def Statement.opening (statement : Statement) : List Char :=
  Keyword.select.letters ++ ' ' :: (itemsWritten statement.gap statement.items ++
    ' ' :: (Keyword.source.letters ++ ' ' :: statement.table.written))

def Statement.written (statement : Statement) : List Char :=
  statement.opening ++ partsWritten statement.parts

def Statement.text (statement : Statement) : String := String.ofList statement.written

end Writing

section Clauses

def Name.text (name : Name) : String := String.ofList name.chars

def Comparison.condition (comparison : Comparison) : Condition :=
  ⟨comparison.column.text, String.ofList [comparison.operator],
    trim (String.ofList comparison.literal.chars)⟩

def Item.aggregate? : Item → Option Aggregate
  | .column _ => none
  | .call made => some ⟨made.function, made.column.text, made.label.map Name.text⟩

def Statement.clauses (statement : Statement) : Clauses where
  source := some (String.ofList statement.table.chars)
  limit := statement.limit.map Numeral.value
  condition := statement.comparison.map Comparison.condition
  groupBy := statement.grouping.map Name.text
  aggregates := statement.items.filterMap Item.aggregate?

end Clauses

end Tabular.Sql
