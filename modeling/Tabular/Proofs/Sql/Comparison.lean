import Tabular.Proofs.Sql.Condition
import Tabular.Proofs.Text.Match
import Tabular.Proofs.Text.Reader
import Tabular.Proofs.Text.Steady

/-! What is read as a comparison, in any text.

A comparison is a name, operators and a value. Quotes end the value, and the value takes the last
blank before it only for want of anything else; operators that leave no value behind them give up
the last of them. Here this is said by functions along the text, and the pattern of a comparison
captures what they give.
-/

set_option autoImplicit false

namespace Tabular.Sql

open Text
open Text.Pattern

def isUnquoted (c : Char) : Bool := !isQuote c

def literalOf : List Char → List Char
  | [] => []
  | c :: rest => if isQuote c then rest.takeWhile isUnquoted else (c :: rest).takeWhile isUnquoted

/-- The value behind the operators, or for want of one the last blank before it. -/
def operandOf : List Char → Option (List Char)
  | [] => none
  | c :: rest =>
    if isBlank c then (operandOf rest).or (some [c])
    else if literalOf (c :: rest) = [] then none else some (literalOf (c :: rest))

/-- The operators and the value behind a name. An operator that no value follows is the value of
those before it. -/
def testOf : List Char → Option (List Char × List Char)
  | [] => none
  | c :: rest =>
    if isOperatorChar c then
      ((testOf rest).map fun test => (c :: test.1, test.2)).or
        ((operandOf rest).map fun value => ([c], value))
    else none

def behindName (text : List Char) : List Char := (text.dropWhile isWord).dropWhile isBlank

structure ComparisonParts where
  column : List Char
  operators : List Char
  value : List Char

namespace ComparisonParts

def captures (comparison : ComparisonParts) : List (List Char) :=
  [comparison.column, comparison.operators, comparison.value]

def condition (comparison : ComparisonParts) : Condition :=
  ⟨String.ofList comparison.column, String.ofList comparison.operators,
    String.ofList (trimChars comparison.value)⟩

end ComparisonParts

def comparisonOf (text : List Char) : Option ComparisonParts :=
  if text.takeWhile isWord = [] then none
  else (testOf (behindName text)).map fun test => ⟨text.takeWhile isWord, test.1, test.2⟩

def firstComparison : List Char → Option ComparisonParts
  | [] => none
  | c :: rest => (comparisonOf (c :: rest)).or (firstComparison rest)

section Classes

theorem isQuote_cases {c : Char} (quote : isQuote c = true) : c = '\'' ∨ c = '"' := by
  simpa only [isQuote, Bool.or_eq_true, beq_iff_eq] using quote

theorem isUnquoted_of_isBlank {c : Char} (blank : isBlank c = true) : isUnquoted c = true := by
  rw [isUnquoted, Bool.not_eq_true', ← Bool.not_eq_true]
  intro quote
  rcases isQuote_cases quote with rfl | rfl <;> revert blank <;> decide

theorem isUnquoted_of_isOperatorChar {c : Char} (operates : isOperatorChar c = true) :
    isUnquoted c = true := by
  rcases operatorChar_cases operates with rfl | rfl | rfl | rfl <;> decide

theorem takeWhile_quote {c : Char} (quote : isQuote c = true) (rest : List Char) :
    (c :: rest).takeWhile isUnquoted = [] :=
  List.takeWhile_cons_of_neg (by rw [isUnquoted, quote]; decide)

end Classes

section Operand

def literalPattern : Pattern :=
  .perhaps isQuote <| .opens <| .some1 isUnquoted <| .closes <| .perhaps isQuote .found

def operandPattern : Pattern := .most isBlank literalPattern

theorem matchAt_unquoted (text opened : List Char) (before : Option Char) :
    (opens <| some1 isUnquoted <| closes <| perhaps isQuote found).matchAt opened
        ⟨before, text⟩ =
      if text.takeWhile isUnquoted = [] then none else some [text.takeWhile isUnquoted] := by
  obtain ⟨run, rest, rfl, accepted, stops⟩ := exists_run isUnquoted text
  rw [takeWhile_run accepted stops]
  by_cases empty : run = []
  · rw [if_pos empty, empty]
    exact matchAt_some1_eq_none stops before
  · rw [if_neg empty]
    exact matchAt_capture empty accepted stops before (matchAt_perhaps_found _ _)

theorem matchAt_literalPattern (text opened : List Char) (before : Option Char) :
    literalPattern.matchAt opened ⟨before, text⟩ =
      if literalOf text = [] then none else some [literalOf text] := by
  cases text with
  | nil => rfl
  | cons c rest =>
    rw [literalPattern, matchAt_perhaps_eq_or, matchAt_unquoted, matchAt_unquoted, literalOf]
    by_cases quote : isQuote c = true
    · rw [if_pos quote, if_pos quote, takeWhile_quote quote, if_pos rfl, Option.or_none]
    · rw [if_neg quote, if_neg quote]

theorem takeWhile_of_operandOf {text : List Char} (missing : operandOf text = none) :
    text.takeWhile isUnquoted = [] := by
  cases text with
  | nil => rfl
  | cons c rest =>
    by_cases quote : isQuote c = true
    · exact takeWhile_quote quote rest
    · rw [operandOf, literalOf, if_neg quote] at missing
      split at missing
      · rw [Option.or_eq_none_iff] at missing
        cases missing.2
      · rename_i empty
        by_contra filled
        rw [if_neg filled] at missing
        cases missing

theorem literalOf_cons_of_operandOf {c : Char} (unquoted : isUnquoted c = true) {rest : List Char}
    (missing : operandOf rest = none) : literalOf (c :: rest) = [c] := by
  have plain : ¬isQuote c = true := by
    rwa [isUnquoted, Bool.not_eq_true', ← Bool.not_eq_true] at unquoted
  rw [literalOf, if_neg plain, List.takeWhile_cons_of_pos unquoted, takeWhile_of_operandOf missing]

theorem matchAt_operandPattern (text opened : List Char) (before : Option Char) :
    operandPattern.matchAt opened ⟨before, text⟩ = (operandOf text).map fun value => [value] := by
  change mostThen isBlank (literalPattern.matchAt opened) before text = _
  induction text generalizing before with
  | nil => rfl
  | cons c rest ih =>
    rw [mostThen_cons_eq_or, matchAt_literalPattern, operandOf]
    split
    · rename_i blank
      rw [ih (some c)]
      cases missing : operandOf rest with
      | some value => rfl
      | none =>
        have filled := literalOf_cons_of_operandOf (isUnquoted_of_isBlank blank) missing
        rw [filled]
        rfl
    · split <;> rfl

end Operand

section Test

def testPattern : Pattern :=
  .opens <| .some1 isOperatorChar <| .closes operandPattern

/-- Operators behind those that have been passed, or else these and a value here. -/
theorem mostThen_operators (passed text : List Char) (before : Option Char) :
    mostThen isOperatorChar ((closes operandPattern).matchAt (passed ++ text)) before text =
      ((testOf text).map fun test => [passed ++ test.1, test.2]).or
        ((operandOf text).map fun value => [passed, value]) := by
  -- What has been passed grows with each step, while the opening of the capture stays.
  induction text generalizing passed before with
  | nil =>
    rw [mostThen, matchAt_closes, matchAt_operandPattern]
    rfl
  | cons c rest ih =>
    have later := ih (passed ++ [c]) (some c)
    rw [List.append_assoc, List.singleton_append] at later
    rw [mostThen_cons_eq_or, matchAt_closes, matchAt_operandPattern, later, testOf]
    split
    · cases testOf rest with
      | some test => simp
      | none => cases operandOf rest <;> simp [Function.comp_def]
    · simp [Function.comp_def]

theorem matchAt_testPattern (text opened : List Char) (before : Option Char) :
    testPattern.matchAt opened ⟨before, text⟩ =
      (testOf text).map fun test => [test.1, test.2] := by
  unfold testPattern
  cases text with
  | nil => rfl
  | cons c rest =>
    by_cases operates : isOperatorChar c = true
    · rw [testOf, if_pos operates]
      calc (opens (some1 isOperatorChar (closes operandPattern))).matchAt opened ⟨before, c :: rest⟩
          = mostThen isOperatorChar ((closes operandPattern).matchAt (c :: rest)) (some c) rest :=
            if_pos operates
        _ = ((testOf rest).map fun test => [c :: test.1, test.2]).or
              ((operandOf rest).map fun value => [[c], value]) :=
            mostThen_operators [c] rest (some c)
        _ = _ := by simp [Option.map_or, Function.comp_def]
    · rw [testOf, if_neg operates]
      exact matchAt_some1_eq_none (stops_cons (Bool.not_eq_true _ ▸ operates) rest) before

end Test

section Search

theorem matchAt_conditionPattern (text opened : List Char) (before : Option Char) :
    conditionPattern.matchAt opened ⟨before, text⟩ =
      (comparisonOf text).map ComparisonParts.captures := by
  have split : conditionPattern =
      (opens <| some1 isWord <| closes <| most isBlank testPattern) := rfl
  have unblank : Apart isBlank testPattern :=
    .opens (.one (fun _ => isBlank_eq_false_of_isOperatorChar) _)
  have unworded : Apart isWord (most isBlank testPattern) :=
    .most (fun _ => isWord_eq_false_of_isBlank)
      (.opens (.one (fun _ => isWord_eq_false_of_isOperatorChar) _))
  obtain ⟨name, rest, rfl, wordChars, stops⟩ := exists_run isWord text
  obtain ⟨blanks, behind, rfl, blank, unblankBehind⟩ := exists_run isBlank rest
  rw [split, comparisonOf, behindName, takeWhile_run wordChars stops, dropWhile_run wordChars stops,
    dropWhile_run blank unblankBehind]
  by_cases empty : name = []
  · rw [if_pos empty, empty]
    exact matchAt_some1_eq_none stops before
  · rw [if_neg empty, matchAt_capture_eq unworded empty wordChars stops,
      matchAt_most_eq unblank blank unblankBehind, matchAt_testPattern, Option.map_map,
      Option.map_map]
    rfl

theorem findFrom_conditionPattern (text : List Char) (before : Option Char) :
    conditionPattern.findFrom before text =
      (firstComparison text).map ComparisonParts.captures := by
  induction text generalizing before with
  | nil => exact matchAt_conditionPattern [] [] before
  | cons c rest ih =>
    rw [findFrom, matchAt_conditionPattern, firstComparison, ih]
    cases comparisonOf (c :: rest) <;> rfl

theorem find_conditionPattern_eq (text : List Char) :
    conditionPattern.find text = (firstComparison text).map ComparisonParts.captures :=
  findFrom_conditionPattern text none

theorem findCondition_clause {text clause : List Char}
    (found : wherePattern.find text = some [clause]) :
    findCondition text = (firstComparison clause).map ComparisonParts.condition := by
  simp only [findCondition, found, find_conditionPattern_eq]
  cases firstComparison clause <;> rfl

end Search

end Tabular.Sql
