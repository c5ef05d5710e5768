import Tabular.Proofs.Sql.Clauses
import Tabular.Proofs.Text.Trim

/-! Which conditions on a text are read back whole.

A name and a literal are read back unless the words that end a WHERE clause are mentioned in
the literal or behind the first character of the name: there the clause is cut, although the
word stands inside a name or inside quotes.
-/

set_option autoImplicit false

namespace Tabular.Sql

open Text
open Text.Pattern

theorem operatorChar_cases {operator : Char} (operates : isOperatorChar operator = true) :
    operator = '=' ∨ operator = '<' ∨ operator = '>' ∨ operator = '!' := by
  simp only [isOperatorChar, Bool.or_eq_true, beq_iff_eq, or_assoc] at operates
  exact operates

theorem isBlank_eq_false_of_isOperatorChar {operator : Char}
    (operates : isOperatorChar operator = true) : isBlank operator = false := by
  rcases operatorChar_cases operates with rfl | rfl | rfl | rfl <;> decide

theorem isWord_eq_false_of_isOperatorChar {operator : Char}
    (operates : isOperatorChar operator = true) : isWord operator = false := by
  rcases operatorChar_cases operates with rfl | rfl | rfl | rfl <;> decide

theorem isOperatorChar_eq_false_of_isWord {c : Char} (wordChar : isWord c = true) :
    isOperatorChar c = false := by
  rw [← Bool.not_eq_true]
  intro operates
  rw [isWord_eq_false_of_isOperatorChar operates] at wordChar
  cases wordChar

section Comparison

variable {column value : List Char} {operator : Char}

theorem find_conditionPattern {rest : List Char} (named : column ≠ [])
    (wordChars : ∀ c ∈ column, isWord c = true) (operates : isOperatorChar operator = true)
    (filled : value ≠ []) (unquoted : ∀ c ∈ value, (!isQuote c) = true)
    (stops : Stops (fun c => !isQuote c) rest) :
    conditionPattern.find (column ++ ' ' :: operator :: ' ' :: '\'' :: (value ++ rest)) =
      some [column, [operator], value] := by
  have unblank := isBlank_eq_false_of_isOperatorChar operates
  unfold find conditionPattern
  apply findFrom_here
  refine matchAt_capture named wordChars (stops_cons (by decide) _) _ ?_
  refine matchAt_most_single (by decide) (stops_cons unblank _) _ ?_
  refine matchAt_capture_single operates (stops_cons (by decide) _) _ ?_
  refine matchAt_most_single (by decide) (stops_cons (by decide) _) _ ?_
  refine matchAt_perhaps_cons (by decide) _ ?_
  exact matchAt_capture filled unquoted stops _ (matchAt_perhaps_found _ _)

theorem find_conditionPattern_unfilled (named : column ≠ [])
    (wordChars : ∀ c ∈ column, isWord c = true) (operates : isOperatorChar operator = true) :
    conditionPattern.find (column ++ [' ', operator, ' ', '\'']) =
      some [column, [operator], [' ']] := by
  unfold find conditionPattern
  apply findFrom_here
  refine matchAt_capture named wordChars (stops_cons (by decide) _) _ ?_
  rcases operatorChar_cases operates with rfl | rfl | rfl | rfl <;> rfl

theorem find_conditionPattern_eq_none {text : List Char}
    (absent : ∀ c ∈ text, isOperatorChar c = false) : conditionPattern.find text = none :=
  find_eq_none_of_needs (.opens <| .some1 _ <| .closes <| .most _ <| .opens <| .here _) absent

theorem find_conditionPattern_name (wordChars : ∀ c ∈ column, isWord c = true) :
    conditionPattern.find column = none :=
  find_conditionPattern_eq_none fun c member =>
    isOperatorChar_eq_false_of_isWord (wordChars c member)

end Comparison

section Clause

theorem untilClause_cons {separator : Char} (separates : SeparatesClause separator)
    (rest : List Char) : untilClause (separator :: rest) = separator :: untilClause rest :=
  untilClause_append_cons separates [] rest

theorem separatesClause_of_isOperatorChar {operator : Char}
    (operates : isOperatorChar operator = true) : SeparatesClause operator := by
  rcases operatorChar_cases operates with rfl | rfl | rfl | rfl <;> decide

theorem untilClause_condition {operator : Char} (operates : isOperatorChar operator = true)
    (others value rest : List Char) :
    untilClause (others ++ ' ' :: operator :: ' ' :: '\'' :: (value ++ '\'' :: rest)) =
      if mentionsClause others then untilClause others
      else others ++ ' ' :: operator :: ' ' :: '\'' ::
        (if mentionsClause value then untilClause value
          else value ++ '\'' :: untilClause rest) := by
  have blank : SeparatesClause ' ' := by decide
  have quote : SeparatesClause '\'' := by decide
  rw [untilClause_append_cons blank, untilClause_cons (separatesClause_of_isOperatorChar operates),
    untilClause_cons blank, untilClause_cons quote, untilClause_append_cons quote]

theorem mem_untilClause {text : List Char} {c : Char} (member : c ∈ untilClause text) :
    c ∈ text := by
  induction text with
  | nil => cases member
  | cons d text ih =>
    simp only [untilClause] at member
    split at member
    · cases member
    · rcases List.mem_cons.mp member with here | later
      · exact here ▸ List.mem_cons_self
      · exact List.mem_cons_of_mem d (ih later)

theorem unblank_of_startsClause {text : List Char} (starts : startsClause text = true) :
    ∃ c rest, text = c :: rest ∧ isBlank c = false := by
  cases text with
  | nil => cases starts
  | cons c rest =>
    refine ⟨c, rest, rfl, ?_⟩
    simp only [startsClause, Bool.or_eq_true] at starts
    rcases starts with (group | order) | limit
    · exact isBlank_eq_false_of_sameLetter (by decide) (Bool.and_eq_true_iff.mp group).1
    · exact isBlank_eq_false_of_sameLetter (by decide) (Bool.and_eq_true_iff.mp order).1
    · exact isBlank_eq_false_of_sameLetter (by decide) (Bool.and_eq_true_iff.mp limit).1

/-- A cut takes characters from a literal that trimming would leave. -/
theorem trimChars_untilClause_ne {text : List Char} (mentioned : mentionsClause text = true) :
    trimChars (untilClause text) ≠ trimChars text := by
  obtain ⟨rest, split, starts⟩ := exists_startsClause mentioned
  obtain ⟨c, rest, rfl, unblank⟩ := unblank_of_startsClause starts
  have cut := trimChars_append_ne unblank (untilClause text) rest
  rwa [← split] at cut

end Clause

section Reading

variable {passed column others value : List Char} {first operator : Char}

/-- Behind the first WHERE a condition on a text is read, as far as its clause goes. -/
theorem findCondition_comparison (unmentioned : mentions "WHERE".toList passed = false)
    (wordChars : ∀ c ∈ first :: others, isWord c = true)
    (operates : isOperatorChar operator = true) (filled : value ≠ [])
    (unquoted : ∀ c ∈ value, (!isQuote c) = true) (rest : List Char) :
    findCondition (passed ++ ' ' :: ("WHERE".toList ++ ' ' :: (first :: others ++
        ' ' :: operator :: ' ' :: '\'' :: (value ++ '\'' :: rest)))) =
      if mentionsClause others then none
      else some ⟨String.ofList (first :: others), String.ofList [operator],
        String.ofList (trimChars (if mentionsClause value then untilClause value else value))⟩ := by
  have unblank := isBlank_eq_false_of_isWord (wordChars first List.mem_cons_self)
  have clause := find_wherePattern unmentioned unblank
    (others ++ ' ' :: operator :: ' ' :: '\'' :: (value ++ '\'' :: rest))
  rw [untilClause_condition operates] at clause
  -- The clause ends inside the name, inside the literal, or somewhere behind both.
  rw [List.cons_append]
  simp only [findCondition, clause]
  by_cases cutName : mentionsClause others = true
  · have cutChars : ∀ c ∈ first :: untilClause others, isWord c = true := by
      intro c member
      rcases List.mem_cons.mp member with here | later
      · exact here ▸ wordChars first List.mem_cons_self
      · exact wordChars c (List.mem_cons_of_mem first (mem_untilClause later))
    simp [cutName, find_conditionPattern_name cutChars]
  · simp only [cutName, if_false, Bool.false_eq_true]
    by_cases cutValue : mentionsClause value = true
    · simp only [cutValue, if_true]
      cases kept : untilClause value with
      | nil =>
        -- Nothing of the literal is left, and the blank before the quote becomes the value.
        have found :=
          find_conditionPattern_unfilled (List.cons_ne_nil first others) wordChars operates
        rw [List.cons_append] at found
        simp only [found]
        rfl
      | cons c cut =>
        have cutUnquoted : ∀ d ∈ c :: cut, (!isQuote d) = true :=
          fun d member => unquoted d (mem_untilClause (kept ▸ member))
        have found := find_conditionPattern (List.cons_ne_nil first others) wordChars operates
          (List.cons_ne_nil c cut) cutUnquoted (stops_nil _)
        rw [List.append_nil, List.cons_append] at found
        simp only [found]
    · simp only [cutValue, if_false, Bool.false_eq_true]
      have found := find_conditionPattern (List.cons_ne_nil first others) wordChars operates filled
        unquoted (stops_cons (by decide : (!isQuote '\'') = false) (untilClause rest))
      rw [List.cons_append] at found
      simp only [found]

end Reading

section Name

variable {letters name rest : List Char} {next : Pattern}

theorem findFrom_name_eq_none {first : Char} (nonempty : letters ≠ [])
    (separates : Separates ' ' letters) (wordChars : ∀ c ∈ first :: name, isWord c = true)
    (stops : Stops isBlank rest) (unmatched : ∀ before, next.matchAt [] ⟨before, rest⟩ = none)
    (unnamed : mentions letters name = false) (unmentioned : mentions letters rest = false)
    (before : Option Char) :
    (word letters (some1 isBlank next)).findFrom before (first :: (name ++ ' ' :: rest)) =
      none := by
  have unblank : ∀ c ∈ first :: name, isBlank c = false :=
    fun c member => isBlank_eq_false_of_isWord (wordChars c member)
  have unspaced (before : Option Char) :
      (some1 isBlank next).matchAt [] ⟨before, ' ' :: rest⟩ = none := by
    rw [matchAt_some1_single (by decide) stops]
    exact unmatched _
  -- The word may start the name: behind it stands more of the name, or a blank and no argument.
  have here := matchAt_word_blanks_eq_none separates unblank unspaced before
  rw [List.cons_append] at here
  simp only [findFrom, here]
  rw [findFrom_word_passes nonempty separates unnamed]
  exact findFrom_word_eq_none unmentioned _

end Name

section Statement

variable {first : Char} {others value : List Char}

def conditionChars (column value : List Char) : List Char :=
  "SELECT * FROM t".toList ++ ' ' ::
    ("WHERE".toList ++ ' ' :: (column ++ ' ' :: '=' :: ' ' :: '\'' :: (value ++ ['\''])))

theorem mentions_comparison {letters : List Char} (nonempty : letters ≠ [])
    (equals : Separates '=' letters) (blank : Separates ' ' letters)
    (quote : Separates '\'' letters) (value : List Char) :
    mentions letters ('=' :: ' ' :: '\'' :: (value ++ ['\''])) = mentions letters value := by
  rw [mentions_cons_separator nonempty equals, mentions_cons_separator nonempty blank,
    mentions_cons_separator nonempty quote, mentions_append_separator nonempty quote]

theorem findCondition_conditionChars (wordChars : ∀ c ∈ first :: others, isWord c = true)
    (filled : value ≠ []) (unquoted : ∀ c ∈ value, (!isQuote c) = true) :
    findCondition (conditionChars (first :: others) value) =
      if mentionsClause others then none
      else some ⟨String.ofList (first :: others), "=",
        String.ofList (trimChars (if mentionsClause value then untilClause value else value))⟩ := by
  have unmentioned : mentions "WHERE".toList "SELECT * FROM t".toList = false := by decide
  exact findCondition_comparison unmentioned wordChars (by decide) filled unquoted []

theorem findLimit_conditionChars (wordChars : ∀ c ∈ first :: others, isWord c = true)
    (unnamed : mentions "LIMIT".toList others = false)
    (unmentioned : mentions "LIMIT".toList value = false) :
    findLimit (conditionChars (first :: others) value) = none := by
  have rest := mentions_comparison (by decide : "LIMIT".toList ≠ []) (by decide) (by decide)
    (by decide) value
  have unmatched (before : Option Char) :
      (opens (some1 isDigit (closes found))).matchAt []
        ⟨before, '=' :: ' ' :: '\'' :: (value ++ ['\''])⟩ = none := by
    rw [matchAt_opens]
    exact matchAt_some1_eq_none (stops_cons (by decide) _) before
  have unfound : limitPattern.find (conditionChars (first :: others) value) = none := by
    unfold find limitPattern conditionChars
    rw [findFrom_word_passes (by decide) (by decide) (by decide),
      findFrom_word_passes (by decide) (by decide) (by decide), List.cons_append]
    exact findFrom_name_eq_none (by decide) (by decide) wordChars (stops_cons (by decide) _)
      unmatched unnamed (rest.trans unmentioned) _
  simp only [findLimit, unfound]

theorem findGroupBy_conditionChars (wordChars : ∀ c ∈ first :: others, isWord c = true)
    (unnamed : mentions "GROUP".toList others = false)
    (unmentioned : mentions "GROUP".toList value = false) :
    findGroupBy (conditionChars (first :: others) value) = none := by
  have rest := mentions_comparison (by decide : "GROUP".toList ≠ []) (by decide) (by decide)
    (by decide) value
  have unfound : groupPattern.find (conditionChars (first :: others) value) = none := by
    unfold find groupPattern conditionChars
    rw [findFrom_word_passes (by decide) (by decide) (by decide),
      findFrom_word_passes (by decide) (by decide) (by decide), List.cons_append]
    exact findFrom_name_eq_none (by decide) (by decide) wordChars (stops_cons (by decide) _)
      (matchAt_word_eq_none (startsWord_separator (by decide) (by decide) _)) unnamed
      (rest.trans unmentioned) _
  simp only [findGroupBy, unfound]

end Statement

theorem toList_condition (column literal : String) :
    ("SELECT * FROM t WHERE " ++ column ++ " = '" ++ literal ++ "'").toList =
      conditionChars column.toList literal.toList := by
  have opening : "SELECT * FROM t WHERE ".toList =
      "SELECT * FROM t".toList ++ ' ' :: ("WHERE".toList ++ [' ']) := by decide
  have comparison : " = '".toList = [' ', '=', ' ', '\''] := by decide
  have closing : "'".toList = ['\''] := by decide
  unfold conditionChars
  rw [String.toList_append, String.toList_append, String.toList_append, String.toList_append,
    opening, comparison, closing]
  -- The list lemmas would otherwise spell the literals out.
  generalize "SELECT * FROM t".toList = opening
  generalize "WHERE".toList = word
  simp

/-- A condition on a text is read back whole, and as the only clause, exactly when the words
that end a clause are mentioned neither in the literal nor behind the start of the name. -/
theorem condition_read_whole_iff (column literal : String) (named : column ≠ "")
    (wordChars : ∀ c ∈ column.toList, isWord c = true) (filled : literal ≠ "")
    (unquoted : ∀ c ∈ literal.toList, isQuote c = false) :
    let clauses :=
      Clauses.ofStatement ("SELECT * FROM t WHERE " ++ column ++ " = '" ++ literal ++ "'")
    (clauses.condition = some ⟨column, "=", trim literal⟩ ∧ clauses.limit = none ∧
      clauses.groupBy = none) ↔
    mentionsClause column.toList.tail = false ∧ mentionsClause literal.toList = false := by
  have text := toList_condition column literal
  have filledChars : literal.toList ≠ [] := fun empty => filled (String.toList_eq_nil_iff.mp empty)
  have unquotedChars : ∀ c ∈ literal.toList, (!isQuote c) = true := by
    intro c member
    rw [unquoted c member]
    rfl
  cases nameChars : column.toList with
  | nil => exact absurd (String.toList_eq_nil_iff.mp nameChars) named
  | cons first others =>
    rw [nameChars] at text wordChars
    have name : String.ofList (first :: others) = column := by
      rw [← nameChars, String.ofList_toList]
    simp only [Clauses.ofStatement, text, List.tail_cons,
      findCondition_conditionChars wordChars filledChars unquotedChars, name, trim]
    constructor
    · -- A cut name leaves no condition, and a cut literal leaves another value.
      rintro ⟨condition, -, -⟩
      by_cases cutName : mentionsClause others = true
      · rw [if_pos cutName] at condition
        cases condition
      · rw [if_neg cutName] at condition
        refine ⟨Bool.not_eq_true _ ▸ cutName, ?_⟩
        rw [← Bool.not_eq_true]
        intro cutValue
        rw [if_pos cutValue, Option.some.injEq, Condition.mk.injEq] at condition
        exact trimChars_untilClause_ne cutValue (String.ofList_injective condition.2.2)
    · rintro ⟨wholeName, wholeValue⟩
      have nameWords := wholeName
      have valueWords := wholeValue
      simp only [mentionsClause, Bool.or_eq_false_iff] at nameWords valueWords
      refine ⟨?_, findLimit_conditionChars wordChars nameWords.2 valueWords.2,
        findGroupBy_conditionChars wordChars nameWords.1.1 valueWords.1.1⟩
      rw [wholeName, wholeValue]
      rfl

set_option maxRecDepth 4000 in
/-- A name may start with such a word, and a literal keeps the blanks inside it. -/
theorem condition_read_whole_ordering :
    let clauses := Clauses.ofStatement "SELECT * FROM t WHERE ordering = ' North  West '"
    clauses.condition = some ⟨"ordering", "=", trim " North  West "⟩ ∧ clauses.limit = none ∧
      clauses.groupBy = none :=
  (condition_read_whole_iff "ordering" " North  West " (by decide) (by decide) (by decide)
    (by decide)).mpr (by decide)

set_option maxRecDepth 4000 in
/-- The name of this condition hides an ORDER, and the condition is lost. -/
theorem condition_not_read_reorder :
    ¬ ∀ column literal : String, column ≠ "" → (∀ c ∈ column.toList, isWord c = true) →
      literal ≠ "" → (∀ c ∈ literal.toList, isQuote c = false) →
      let clauses :=
        Clauses.ofStatement ("SELECT * FROM t WHERE " ++ column ++ " = '" ++ literal ++ "'")
      clauses.condition = some ⟨column, "=", trim literal⟩ ∧ clauses.limit = none ∧
        clauses.groupBy = none := by
  intro whole
  have condition := (whole "reorder" "x" (by decide) (by decide) (by decide) (by decide)).1
  revert condition
  decide

end Tabular.Sql
