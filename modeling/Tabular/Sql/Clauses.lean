import Tabular.Number.Word64
import Tabular.Query.Aggregation
import Tabular.Text.Pattern
import Tabular.Text.Split

/-! The clauses of a statement.

Each clause is found by a pattern of its own over the whole text, wherever it stands; a
clause whose pattern is not found is absent. Only the first condition of a WHERE clause
counts, and only the first column of a GROUP BY clause.
-/

set_option autoImplicit false

namespace Tabular.Sql

open Text (Pattern isBlank isWord)

structure Condition where
  column : String
  operator : String
  value : String
  deriving DecidableEq, Repr

structure Aggregate where
  function : Aggregation
  column : String
  label : Option String
  deriving DecidableEq, Repr

def Aggregate.outputName (aggregate : Aggregate) : String :=
  aggregate.label.getD (aggregate.function.name ++ "_" ++ aggregate.column)

structure Clauses where
  source : Option String
  limit : Option Nat
  condition : Option Condition
  groupBy : Option String
  aggregates : List Aggregate
  deriving DecidableEq, Repr

def anyChar (_ : Char) : Bool := true

def isTableChar (c : Char) : Bool := c != '"' && !isBlank c

def isOperatorChar (c : Char) : Bool := c == '=' || c == '<' || c == '>' || c == '!'

def isQuote (c : Char) : Bool := c == '\'' || c == '"'

def sourcePattern : Pattern :=
  .word "FROM".toList <| .some1 isBlank <| .perhaps (· == '"') <|
    .opens <| .some1 isTableChar <| .closes <| .perhaps (· == '"') .found

def limitPattern : Pattern :=
  .word "LIMIT".toList <| .some1 isBlank <| .opens <| .some1 Text.isDigit <| .closes .found

/-- What follows WHERE, up to the next clause. -/
def wherePattern : Pattern :=
  .word "WHERE".toList <| .some1 isBlank <| .opens <| .one anyChar <| .fewest anyChar <| .closes <|
    .either (.word "GROUP".toList .found) <| .either (.word "ORDER".toList .found) <|
    .either (.word "LIMIT".toList .found) <| .textEnd .found

def conditionPattern : Pattern :=
  .opens <| .some1 isWord <| .closes <| .most isBlank <|
    .opens <| .some1 isOperatorChar <| .closes <| .most isBlank <| .perhaps isQuote <|
    .opens <| .some1 (fun c => !isQuote c) <| .closes <| .perhaps isQuote .found

def groupPattern : Pattern :=
  .word "GROUP".toList <| .some1 isBlank <| .word "BY".toList <| .some1 isBlank <|
    .opens <| .some1 isWord <| .closes .found

def selectPattern : Pattern :=
  .word "SELECT".toList <| .some1 isBlank <| .opens <| .one anyChar <| .fewest anyChar <| .closes <|
    .some1 isBlank <| .word "FROM".toList .found

def argumentPattern : Pattern :=
  .closes <| .most isBlank <| .one (· == '(') <| .most isBlank <|
    .opens <| .some1 isWord <| .closes <| .most isBlank <| .one (· == ')') .found

def aggregatePattern : Pattern :=
  .opens <| .either (.word "SUM".toList argumentPattern) <|
    .either (.word "COUNT".toList argumentPattern) <|
    .either (.word "AVG".toList argumentPattern) <|
    .either (.word "MIN".toList argumentPattern) (.word "MAX".toList argumentPattern)

def labelPattern : Pattern :=
  .wordEdge <| .word "AS".toList <| .some1 isBlank <| .opens <| .some1 isWord <| .closes .found

def findSource (text : List Char) : Option String :=
  match sourcePattern.find text with
  | some [table] => some (String.ofList table)
  | _ => none

/-- Digits of other scripts, and numbers beyond 64 bits, make no limit. -/
def findLimit (text : List Char) : Option Nat :=
  match limitPattern.find text with
  | some [digits] =>
    if digits.all Text.isAsciiDigit then
      let value := Text.digitsValue digits 0
      if value < Number.wordLimit then some value else none
    else none
  | _ => none

def findCondition (text : List Char) : Option Condition :=
  match wherePattern.find text with
  | some [clause] =>
    match conditionPattern.find clause with
    | some [column, operator, value] =>
      some ⟨String.ofList column, String.ofList operator, String.ofList (Text.trimChars value)⟩
    | _ => none
  | _ => none

def findGroupBy (text : List Char) : Option String :=
  match groupPattern.find text with
  | some [column] => some (String.ofList column)
  | _ => none

def aggregateOf (part : List Char) : Option Aggregate :=
  match aggregatePattern.find part with
  | some [function, column] =>
    let label := match labelPattern.find part with
      | some [label] => some (String.ofList label)
      | _ => none
    some ⟨Aggregation.ofName (String.ofList function), String.ofList column, label⟩
  | _ => none

def findAggregates (text : List Char) : List Aggregate :=
  match selectPattern.find text with
  | some [items] => (Text.splitAt ',' items).filterMap aggregateOf
  | _ => []

def Clauses.ofStatement (statement : String) : Clauses :=
  let text := statement.toList
  { source := findSource text
    limit := findLimit text
    condition := findCondition text
    groupBy := findGroupBy text
    aggregates := findAggregates text }

end Tabular.Sql
