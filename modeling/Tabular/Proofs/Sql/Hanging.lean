import Tabular.Proofs.Catalog.Lookup
import Tabular.Proofs.Sql.Surrounded
import Tabular.Sql.Run

/-! Statements whose rows hang on the blanks at their end.

Blanks change at most the condition of a statement. Another condition keeps other rows, of some
table, exactly when one of the two conditions has an operator that compares.
-/

set_option autoImplicit false

namespace Tabular.Sql

open Text

/-- The rows of the statement are others without the blanks at its end: it names a table, does not
cut off all of its rows, and ends in a comparison without a value, whose operators, or all of them
but the last, are one that compares. -/
structure HangsOnBlanks (statement : String) : Prop where
  source : (Clauses.ofStatement (trim statement)).source ≠ none
  limit : (Clauses.ofStatement (trim statement)).limit ≠ some 0
  operators : ∃ operators ∈ hanging? statement, operators.length ≤ 2 ∧ operators.head? ≠ some '!'

instance (statement : String) : Decidable (HangsOnBlanks statement) :=
  decidable_of_iff ((Clauses.ofStatement (trim statement)).source ≠ none ∧
      (Clauses.ofStatement (trim statement)).limit ≠ some 0 ∧
      ∃ operators ∈ hanging? statement, operators.length ≤ 2 ∧ operators.head? ≠ some '!')
    ⟨fun ⟨source, limit, operators⟩ => ⟨source, limit, operators⟩,
      fun ⟨source, limit, operators⟩ => ⟨source, limit, operators⟩⟩

section Stages

def keptBy (condition : Option Condition) (rows : List Row) : List Row :=
  match condition with
  | some condition => condition.keep rows
  | none => rows

def Clauses.conclude (clauses : Clauses) (kept : List Row) : List Row :=
  match clauses.groupBy with
  | some column => (Group.partition [column] kept).map (summary column clauses.aggregates)
  | none => kept

theorem Clauses.run_eq_conclude (clauses : Clauses) (rows : List Row) :
    clauses.run rows =
      clauses.conclude (keptBy clauses.condition (takeLimit clauses.limit rows)) := by
  obtain ⟨source, limit, condition, groupBy, aggregates⟩ := clauses
  cases condition <;> rfl

theorem Clauses.run_with_condition (clauses : Clauses) (condition : Option Condition)
    (rows : List Row) :
    run { clauses with condition := condition } rows =
      clauses.conclude (keptBy condition (takeLimit clauses.limit rows)) :=
  run_eq_conclude { clauses with condition := condition } rows

theorem Clauses.conclude_nil (clauses : Clauses) : clauses.conclude [] = [] := by
  rw [conclude]
  split <;> rfl

theorem Clauses.exists_conclude_single (clauses : Clauses) (row : Row) :
    ∃ other, clauses.conclude [row] = [other] := by
  rw [conclude]
  split
  · exact ⟨_, rfl⟩
  · exact ⟨row, rfl⟩

theorem keptBy_nil (condition : Option Condition) : keptBy condition [] = [] := by
  cases condition with
  | none => rfl
  | some condition =>
    rw [keptBy, Condition.keep]
    split <;> rfl

end Stages

section Operators

variable {operators : List Char} {spaced tight : Option Condition}

theorem Condition.operator?_eq_none (column value : String) (first second : Char)
    (others : List Char) :
    operator? ⟨column, String.ofList (first :: second :: others), value⟩ = none := by
  have long (mark : Char) : String.ofList (first :: second :: others) ≠ String.ofList [mark] := by
    intro same
    have chars := String.ofList_injective same
    cases chars
  unfold operator?
  split
  · rename_i same
    exact absurd same (long '=')
  · rename_i same
    exact absurd same (long '>')
  · rename_i same
    exact absurd same (long '<')
  · rfl

theorem keptBy_of_idle {condition : Condition} (idle : condition.operator? = none)
    (rows : List Row) : keptBy (some condition) rows = rows := by
  rw [keptBy, Condition.keep, idle]

theorem ReadsApart.keptBy_eq (apart : ReadsApart operators spaced tight)
    (idle : 2 < operators.length ∨ operators.head? = some '!') (rows : List Row) :
    keptBy spaced rows = keptBy tight rows := by
  cases apart with
  | single column operates =>
    have mark := idle.resolve_left (Nat.not_lt.mpr (Nat.le_succ 1))
    obtain rfl := Option.some.inj mark
    exact keptBy_of_idle rfl rows
  | @several column first last others operate =>
    cases others with
    | nil =>
      have mark := idle.resolve_left (Nat.lt_irrefl 2)
      obtain rfl := Option.some.inj mark
      have spacedIdle := Condition.operator?_eq_none column "" '!' last []
      rw [List.cons_append, List.nil_append, keptBy_of_idle spacedIdle, keptBy_of_idle rfl]
    | cons second others =>
      rw [List.cons_append, List.cons_append,
        keptBy_of_idle (Condition.operator?_eq_none column "" first second _),
        keptBy_of_idle (Condition.operator?_eq_none column _ first second others)]

theorem keptBy_empty_of_rejects {condition : Condition} {operator : Operator}
    (compares : condition.operator? = some operator)
    (rejects : operator.holds .null (.text condition.value) none = false) :
    keptBy (some condition) [Row.empty] = [] := by
  have null : Row.empty.value condition.column = .null := rfl
  rw [keptBy, Condition.keep, compares]
  simp only [List.filter_cons, null, rejects, Bool.false_eq_true, if_false, List.filter_nil]

/-- Operators that compare tell the empty row apart, either with blanks behind them or without. -/
theorem ReadsApart.keptBy_empty (apart : ReadsApart operators spaced tight)
    (short : operators.length ≤ 2) (compares : operators.head? ≠ some '!') :
    (keptBy spaced [Row.empty] = [] ∧ keptBy tight [Row.empty] = [Row.empty]) ∨
      (keptBy spaced [Row.empty] = [Row.empty] ∧ keptBy tight [Row.empty] = []) := by
  have rejects : ∀ operator ∈ [Operator.equals, .lessThan, .greaterThan],
      ∀ text ∈ ["", "=", "<", ">", "!"], operator.holds .null (.text text) none = false := by
    decide
  have condition {column value : String} {first : Char} (operates : isOperatorChar first = true)
      (compares : some first ≠ some '!') (text : value ∈ ["", "=", "<", ">", "!"]) :
      keptBy (some ⟨column, String.ofList [first], value⟩) [Row.empty] = [] := by
    rcases operatorChar_cases operates with rfl | rfl | rfl | rfl
    · exact keptBy_empty_of_rejects rfl (rejects .equals (by decide) value text)
    · exact keptBy_empty_of_rejects rfl (rejects .lessThan (by decide) value text)
    · exact keptBy_empty_of_rejects rfl (rejects .greaterThan (by decide) value text)
    · exact absurd rfl compares
  cases apart with
  | single column operates => exact .inl ⟨condition operates compares (by decide), rfl⟩
  | @several column first last others operate =>
    obtain rfl : others = [] := by
      rw [List.length_append, List.length_cons, List.length_singleton] at short
      exact List.length_eq_zero_iff.mp (by omega)
    have operates : isOperatorChar first = true := operate first List.mem_cons_self
    have lastOperates : isOperatorChar last = true :=
      operate last (List.mem_append_right [first] List.mem_cons_self)
    have value : String.ofList [last] ∈ ["", "=", "<", ">", "!"] := by
      rcases operatorChar_cases lastOperates with rfl | rfl | rfl | rfl <;> decide
    exact .inr ⟨keptBy_of_idle (Condition.operator?_eq_none column "" first last []) _,
      condition operates compares value⟩

end Operators

section Rows

variable {statement : String}

theorem condition_ofStatement (statement : String) :
    (Clauses.ofStatement statement).condition = findCondition statement.toList := rfl

theorem runOn_of_source {table : String} {dataset : Dataset} {find : String → Option Dataset}
    (source : (Clauses.ofStatement statement).source = some table)
    (found : find table = some dataset) :
    runOn find statement = (Clauses.ofStatement statement).run dataset.rows := by
  simp only [runOn, source, Option.bind_some, found]

theorem runOn_congr {other : String}
    (source : (Clauses.ofStatement statement).source = (Clauses.ofStatement other).source)
    (rows : (Clauses.ofStatement other).source = none ∨
      ∀ rows, (Clauses.ofStatement statement).run rows = (Clauses.ofStatement other).run rows)
    (find : String → Option Dataset) : runOn find statement = runOn find other := by
  rcases rows with absent | same
  · simp only [runOn, source, absent, Option.bind_none]
  · simp only [runOn, source, same]

theorem runOn_trim (steady : ¬HangsOnBlanks statement) (find : String → Option Dataset) :
    runOn find statement = runOn find (trim statement) := by
  have clauses := ofStatement_trim statement
  refine runOn_congr (by rw [clauses]) ?_ find
  cases source : (Clauses.ofStatement (trim statement)).source with
  | none => exact .inl rfl
  | some table =>
    refine .inr fun rows => ?_
    have kept : keptBy (findCondition statement.toList)
          (takeLimit (Clauses.ofStatement (trim statement)).limit rows) =
        keptBy (findCondition (trim statement).toList)
          (takeLimit (Clauses.ofStatement (trim statement)).limit rows) := by
      cases hanging : hanging? statement with
      | none => rw [findCondition_trim hanging]
      | some operators =>
        by_cases cut : (Clauses.ofStatement (trim statement)).limit = some 0
        · rw [cut, takeLimit, List.take_zero, keptBy_nil, keptBy_nil]
        · refine (findCondition_trim_apart hanging).keptBy_eq ?_ _
          by_contra busy
          obtain ⟨short, compares⟩ := not_or.mp busy
          exact steady ⟨by rw [source]; exact Option.some_ne_none table, cut,
            operators, hanging, Nat.not_lt.mp short, compares⟩
    rw [clauses, Clauses.run_with_condition, Clauses.run_eq_conclude, condition_ofStatement, kept]

theorem takeLimit_single {limit : Option Nat} (reached : limit ≠ some 0) (row : Row) :
    takeLimit limit [row] = [row] := by
  match limit with
  | none => rfl
  | some 0 => exact absurd rfl reached
  | some (count + 1) => exact List.take_of_length_le (Nat.le_add_left 1 count)

theorem run_trim_apart (hangs : HangsOnBlanks statement) :
    ∃ (catalog : Catalog) (row : Row),
      (run catalog statement = [] ∧ run catalog (trim statement) = [row]) ∨
        (run catalog statement = [row] ∧ run catalog (trim statement) = []) := by
  obtain ⟨table, source⟩ := Option.ne_none_iff_exists'.mp hangs.source
  obtain ⟨operators, hanging, short, compares⟩ := hangs.operators
  obtain ⟨catalog, dataset, resident, rows⟩ : ∃ (catalog : Catalog) (dataset : Dataset),
      catalog.get? table = some dataset ∧ dataset.rows = [Row.empty] := by
    refine ⟨Catalog.empty.insert ⟨table, [], [Row.empty]⟩, ⟨table, [], [Row.empty]⟩, ?_, rfl⟩
    rw [Catalog.get?_insert, Function.update_self]
  have clauses := ofStatement_trim statement
  have spacedSource : (Clauses.ofStatement statement).source = some table := by rw [clauses, source]
  obtain ⟨row, concluded⟩ :=
    (Clauses.ofStatement (trim statement)).exists_conclude_single Row.empty
  refine ⟨catalog, row, ?_⟩
  rw [run, run, runOn_of_source spacedSource resident, runOn_of_source source resident, rows,
    clauses, Clauses.run_with_condition, Clauses.run_eq_conclude, condition_ofStatement,
    takeLimit_single hangs.limit]
  rcases (findCondition_trim_apart hanging).keptBy_empty short compares with
    ⟨spaced, tight⟩ | ⟨spaced, tight⟩
  · exact .inl ⟨by rw [spaced, Clauses.conclude_nil], by rw [tight, concluded]⟩
  · exact .inr ⟨by rw [spaced, concluded], by rw [tight, Clauses.conclude_nil]⟩

-- Of two operators the last becomes the value when nothing stands behind them; the mark of
-- inequality compares nothing, with a value or without.
set_option maxRecDepth 4000 in
example : HangsOnBlanks "SELECT * FROM t WHERE a <= " ∧
    ¬HangsOnBlanks "SELECT * FROM t WHERE a != " := by decide

end Rows

end Tabular.Sql
