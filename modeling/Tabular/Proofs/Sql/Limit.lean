import Tabular.Proofs.Sql.Condition
import Tabular.Proofs.Sql.Keyword
import Tabular.Proofs.Text.Digits
import Tabular.Proofs.Text.Match
import Tabular.Sql.Run

/-! The statement for the first rows of a table.

Whatever words of clauses the name of the table mentions, a blank stands behind it and then the
limit, so no clause but the limit is found. A number of more than 64 bits makes no limit, and
there are not that many rows.
-/

set_option autoImplicit false

namespace Tabular.Sql

open Text
open Text.Pattern

def limitedChars (table digits : List Char) : List Char :=
  "SELECT *".toList ++
    ' ' :: ("FROM".toList ++ ' ' :: (table ++ ' ' :: ("LIMIT".toList ++ ' ' :: digits)))

theorem toList_limited (table digits : String) :
    ("SELECT * FROM " ++ table ++ " LIMIT " ++ digits).toList =
      limitedChars table.toList digits.toList := by
  have opening : "SELECT * FROM ".toList =
      "SELECT *".toList ++ ' ' :: ("FROM".toList ++ [' ']) := by decide
  have limit : " LIMIT ".toList = ' ' :: ("LIMIT".toList ++ [' ']) := by decide
  unfold limitedChars
  rw [String.toList_append, String.toList_append, String.toList_append, opening, limit]
  generalize "SELECT *".toList = opening
  generalize "FROM".toList = from_
  generalize "LIMIT".toList = word
  simp

section Clauses

variable {table digits letters : List Char} {next : Pattern}

theorem find_limited (word : letters ≠ []) (separates : Separates ' ' letters)
    (unselected : mentions letters "SELECT *".toList = false)
    (unmentioned : mentions letters "FROM".toList = false) :
    (Pattern.word letters next).find (limitedChars table digits) =
      (Pattern.word letters next).findFrom (some ' ')
        (table ++ ' ' :: ("LIMIT".toList ++ ' ' :: digits)) := by
  unfold find limitedChars
  rw [findFrom_word_passes word separates unselected,
    findFrom_word_passes word separates unmentioned]

/-- It goes on behind the name as well, when the clause cannot start with its word there. -/
theorem find_limited_behind (unblank : ∀ c ∈ table, isBlank c = false) (word : letters ≠ [])
    (separates : Separates ' ' letters) (unselected : mentions letters "SELECT *".toList = false)
    (unmentioned : mentions letters "FROM".toList = false)
    (unmatched : ∀ before, (some1 isBlank next).matchAt []
      ⟨before, ' ' :: ("LIMIT".toList ++ ' ' :: digits)⟩ = none) :
    (Pattern.word letters (some1 isBlank next)).find (limitedChars table digits) =
      (Pattern.word letters (some1 isBlank next)).find
        (' ' :: ("LIMIT".toList ++ ' ' :: digits)) := by
  have blank (before : Option Char) :
      (Pattern.word letters (some1 isBlank next)).findFrom before
          (' ' :: ("LIMIT".toList ++ ' ' :: digits)) =
        (Pattern.word letters (some1 isBlank next)).findFrom (some ' ')
          ("LIMIT".toList ++ ' ' :: digits) :=
    findFrom_word_passes word separates (mentions_nil word) before _
  rw [find_limited word separates unselected unmentioned,
    findFrom_passes _ fun before left _ suffix => matchAt_word_blanks_eq_none separates
      (fun c member => unblank c (suffix.mem member)) unmatched before,
    find, blank, blank]

variable (unblank : ∀ c ∈ table, isBlank c = false) (nonempty : digits ≠ [])
  (accepted : ∀ c ∈ digits, isAsciiDigit c = true)

include unblank nonempty accepted in
theorem findLimit_limited :
    findLimit (limitedChars table digits) =
      if digitsValue digits 0 < Number.wordLimit then some (digitsValue digits 0) else none := by
  have same : limitPattern.find (limitedChars table digits) =
      limitPattern.find (' ' :: ("LIMIT".toList ++ ' ' :: digits)) := by
    refine find_limited_behind unblank (by decide) (by decide) (by decide) (by decide) ?_
    intro before
    have stops : Stops isBlank ("LIMIT".toList ++ ' ' :: digits) :=
      stops_isBlank (by decide) (by decide) _
    rw [matchAt_some1_single (by decide) stops, matchAt_opens]
    exact matchAt_some1_eq_none (stops_append (by decide) (stops_cons (by decide) _) _) _
  have read : findLimit ([] ++ ' ' :: ("LIMIT".toList ++ ' ' :: (digits ++ []))) =
      if digitsValue digits 0 < Number.wordLimit then some (digitsValue digits 0) else none :=
    findLimit_digits (by decide) nonempty accepted (stops_nil _)
  rw [List.nil_append, List.append_nil] at read
  rw [← read]
  simp only [findLimit, same]

include unblank accepted in
theorem findGroupBy_limited : findGroupBy (limitedChars table digits) = none := by
  have same : groupPattern.find (limitedChars table digits) =
      groupPattern.find (' ' :: ("LIMIT".toList ++ ' ' :: digits)) := by
    refine find_limited_behind unblank (by decide) (by decide) (by decide) (by decide) ?_
    intro before
    have stops : Stops isBlank ("LIMIT".toList ++ ' ' :: digits) :=
      stops_isBlank (by decide) (by decide) _
    rw [matchAt_some1_single (by decide) stops]
    exact matchAt_word_eq_none (by rfl) _
  have unmentioned :
      mentions "GROUP".toList (' ' :: ("LIMIT".toList ++ ' ' :: digits)) = false := by
    have digitsFree := mentions_digits .grouping accepted
    rw [letters_grouping] at digitsFree
    have limitFree : mentions "GROUP".toList "LIMIT".toList = false := by decide
    rw [mentions_cons_separator (by decide) (by decide),
      mentions_append_cons (by decide) (by decide), limitFree, digitsFree, Bool.or_self]
  have read := findGroupBy_eq_none unmentioned
  rw [← read]
  simp only [findGroupBy, same]

theorem mem_of_findFrom_word {separator : Char} {text rest : List Char} {before : Option Char}
    {captures : List (List Char)} (separates : Separates separator letters)
    (unblank : ∀ c ∈ text, isBlank c = false)
    (found : (word letters (some1 isBlank next)).findFrom before (text ++ separator :: rest) =
      some captures) {capture : List Char} (captured : capture ∈ captures) :
    ∀ c ∈ capture, c ∈ separator :: rest := by
  -- A match within the text ends its word there and has everything else behind the separator.
  induction text generalizing before with
  | nil => exact fun c member => mem_of_findFrom found captured member
  | cons d text ih =>
    rw [List.cons_append, findFrom] at found
    split at found
    · rename_i here
      obtain ⟨last, behind⟩ := exists_matchAt_blanks separates unblank (here.trans found)
      exact fun c member => (mem_of_matchAt behind captured member).resolve_left List.not_mem_nil
    · exact ih (List.forall_mem_cons.mp unblank).2 found

include unblank accepted in
/-- A WHERE at the end of the name captures the limit, which compares nothing. -/
theorem findCondition_limited : findCondition (limitedChars table digits) = none := by
  have searched : wherePattern.find (limitedChars table digits) =
      wherePattern.findFrom (some ' ') (table ++ ' ' :: ("LIMIT".toList ++ ' ' :: digits)) :=
    find_limited (by decide) (by decide) (by decide) (by decide)
  have absent : ∀ c ∈ ' ' :: ("LIMIT".toList ++ ' ' :: digits), isOperatorChar c = false := by
    have opening : ∀ c ∈ ' ' :: ("LIMIT".toList ++ [' ']), isOperatorChar c = false := by decide
    intro c member
    have split : ' ' :: ("LIMIT".toList ++ ' ' :: digits) =
        ' ' :: ("LIMIT".toList ++ [' ']) ++ digits := by
      rw [List.cons_append, List.append_assoc, List.singleton_append]
    rw [split] at member
    rcases List.mem_append.mp member with inOpening | digit
    · exact opening c inOpening
    · exact isOperatorChar_eq_false_of_isWord (isWord_of_isAsciiDigit (accepted c digit))
  unfold findCondition
  rw [searched]
  split
  · rename_i clause found
    have within := mem_of_findFrom_word (by decide) unblank found List.mem_cons_self
    rw [find_conditionPattern_eq_none fun c member => absent c (within c member)]
  · rfl

end Clauses

theorem takeLimit_word {rows : List Row} (few : rows.length < 2 ^ 64) (count : Nat) :
    takeLimit (if count < Number.wordLimit then some count else none) rows = rows.take count := by
  split
  · rfl
  · rename_i large
    have most : rows.length ≤ count := by
      have limit : Number.wordLimit = 2 ^ 64 := rfl
      omega
    exact (List.take_of_length_le most).symm

theorem run_limited {table digits : String} (named : table ≠ "") (unquoted : '"' ∉ table.toList)
    (unblank : ∀ c ∈ table.toList, isBlank c = false) (nonempty : digits ≠ "")
    (accepted : ∀ c ∈ digits.toList, isAsciiDigit c = true) {catalog : Catalog} {dataset : Dataset}
    (resident : catalog.get? table = some dataset) (few : dataset.rows.length < 2 ^ 64) :
    run catalog ("SELECT * FROM " ++ table ++ " LIMIT " ++ digits) =
      dataset.rows.take (Nat.ofDigitChars 10 digits.toList 0) := by
  have source : findSource (limitedChars table.toList digits.toList) = some table := by
    have tableNonempty : table.toList ≠ [] := fun empty => named (String.toList_eq_nil_iff.mp empty)
    have tableChars := isTableChar_of_unquoted unquoted unblank
    have unmentioned : mentions "FROM".toList "SELECT *".toList = false := by decide
    have spaced : isTableChar ' ' = false := by decide
    have found := findSource_bare unmentioned tableNonempty tableChars
      (stops_cons spaced ("LIMIT".toList ++ ' ' :: digits.toList))
    rwa [String.ofList_toList] at found
  have digitsNonempty : digits.toList ≠ [] :=
    fun empty => nonempty (String.toList_eq_nil_iff.mp empty)
  have limit := findLimit_limited unblank digitsNonempty accepted
  have condition := findCondition_limited unblank accepted
  have grouping := findGroupBy_limited unblank accepted
  simp only [run, runOn, Clauses.ofStatement, toList_limited, source, limit, condition, grouping,
    Option.bind_some, resident, Clauses.run, takeLimit_word few, digitsValue_eq_ofDigitChars]

end Tabular.Sql
